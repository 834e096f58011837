import PathQuery.Proofs.Compile.Binding
import PathQuery.Proofs.Compile.Pruned
import PathQuery.Proofs.Plan.Narrowing

/-!
# What becomes of the operands of a plan

A tree holds the operands of the plan it is built from in 64 signed bits. Its steps have the places
in which the plan describes them, a step before the steps below it; building gives each step the
filters of its description, and pruning only takes filters and steps away. From there an operand
goes into the statements as it is held.

An integer of a plan may be as large as 64 bits without a sign allow. Such an integer is held all
the same, as the number that its bits stand for when they have a sign: it is the same number exactly
if it is below `2 ^ 63`.
-/

namespace PathQuery

open List (Forall₂ SublistForall₂)

/-! ## Operands in a tree -/

namespace Value

/-- The value is what the integer `n` is read as: an integer of the machine's width, or a natural
number of 64 bits when it is too large for that. -/
def Reads (v : Value) (n : ℤ) : Prop :=
  v = .int .word n ∧ -2 ^ 63 ≤ n ∧ n < 2 ^ 63 ∨ v = .int .uint64 n ∧ 2 ^ 63 ≤ n ∧ n < 2 ^ 64

/-- A value as a tree holds it when a plan has it for an operand. -/
structure HeldAs (v held : Value) : Prop where
  /-- An integer is held as the same number, in 64 signed bits, exactly if it fits. -/
  fits : ∀ {n}, v.Reads n → (held = .int .int64 n ↔ n < 2 ^ 63)
  /-- An integer that does not fit is held as the number that its bits stand for. -/
  wraps : ∀ {n}, v.Reads n → 2 ^ 63 ≤ n → held = .int .int64 (n - 2 ^ 64)
  /-- Whatever is no integer is held as it is. -/
  other : (∀ width n, v ≠ .int width n) → held = v

theorem wrap64_eq_sub {n : ℤ} (hlow : 2 ^ 63 ≤ n) (hhigh : n < 2 ^ 64) : wrap64 n = n - 2 ^ 64 := by
  have hmod : n % (Nat.pow 2 64 : ℕ) = n := Int.emod_eq_of_lt (by omega) (by simpa using hhigh)
  rw [wrap64, Int.bmod_def, hmod, if_neg (by simp; omega)]
  rfl

theorem heldAs_widen (v : Value) : v.HeldAs v.widen where
  fits := by
    rintro n (⟨rfl, -, hhigh⟩ | ⟨rfl, hlow, hhigh⟩)
    · exact iff_of_true rfl hhigh
    · rw [widen, wrap64_eq_sub hlow hhigh]
      simp
      omega
  wraps := by
    rintro n (⟨rfl, -, hhigh⟩ | ⟨rfl, hlow, hhigh⟩) hlarge
    · exact absurd hhigh (Int.not_lt.mpr hlarge)
    · rw [widen, wrap64_eq_sub hlow hhigh]
  other := by
    intro hother
    cases v with
    | int width n => exact absurd rfl (hother width n)
    | _ => rfl

end Value

/-- A filter of a plan as a tree holds it. -/
structure PlanFilter.HeldAs (f : PlanFilter) (held : Filter) : Prop where
  /-- The key is the same. -/
  key : held.key = f.key
  /-- The comparison is the one that is named, equality when none is. -/
  predicate : (if f.predicate = "" then some .eq else Predicate.ofWord? f.predicate) =
    some held.predicate
  /-- A comparison with one operand has the operand. -/
  single : held.isMembership = false → f.value.HeldAs held.value ∧ held.values = []
  /-- A comparison with a list has the operands of the list, and then the other one. -/
  listed : held.isMembership → held.value = .null ∧
    Forall₂ Value.HeldAs (f.values ++ if f.value.isNull then [] else [f.value]) held.values

namespace PlanFilter

variable {f : PlanFilter} {held : Filter}

/-- The one way in which a filter is built. -/
theorem exists_of_build (h : f.build = .ok held) : ∃ predicate,
    (if f.predicate = "" then some .eq else Predicate.ofWord? f.predicate) = some predicate ∧
      held = if predicate.isMembership then
          { key := f.key, predicate,
            values := (f.values ++ if f.value.isNull then [] else [f.value]).map Value.widen }
        else { key := f.key, predicate, value := f.value.widen } := by
  rw [build] at h
  have hextra : ((if f.value.isNull then [] else [f.value]).map Value.widen : List Value) =
      if f.value.isNull then [] else [f.value.widen] := by
    rw [apply_ite (List.map Value.widen)]
    rfl
  simp only [List.map_append, hextra]
  by_cases hempty : f.predicate = ""
  · rw [if_pos hempty] at h ⊢
    exact ⟨.eq, rfl, (Except.ok.inj h).symm⟩
  · rw [if_neg hempty] at h ⊢
    split at h
    · next predicate hword =>
      refine ⟨predicate, hword, ?_⟩
      change (if predicate.isMembership then _ else _) = _ at h
      split at h
      · next hlist => rw [if_pos hlist, ← Except.ok.inj h]
      · next hsingle => rw [if_neg hsingle, ← Except.ok.inj h]
    · cases h

theorem heldAs_of_build (h : f.build = .ok held) : f.HeldAs held := by
  obtain ⟨predicate, hword, rfl⟩ := exists_of_build h
  by_cases hlist : predicate.isMembership
  · rw [if_pos hlist]
    refine ⟨rfl, hword, fun hsingle ↦ ?_, fun _ ↦ ⟨rfl, ?_⟩⟩
    · exact absurd hlist (Bool.eq_false_iff.mp hsingle)
    · exact List.forall₂_map_right_iff.mpr (List.forall₂_same.mpr fun v _ ↦ v.heldAs_widen)
  · rw [if_neg hlist]
    exact ⟨rfl, hword, fun _ ↦ ⟨f.value.heldAs_widen, rfl⟩, fun hlisted ↦ absurd hlisted hlist⟩

end PlanFilter

namespace PlanStep

mutual

/-- A step and the steps below it, in the order of their description. -/
def preorder : PlanStep → List PlanStep
  | ⟨table, direction, element, start, labels, filters, orders, edgeVertex, isOptional, emits,
      steps⟩ =>
    ⟨table, direction, element, start, labels, filters, orders, edgeVertex, isOptional, emits,
      steps⟩ :: preorderAll steps

/-- Some steps and the steps below them. -/
def preorderAll : List PlanStep → List PlanStep
  | [] => []
  | s :: ss => s.preorder ++ preorderAll ss

end

theorem preorder_eq (s : PlanStep) : s.preorder = s :: preorderAll s.steps := by
  obtain ⟨table, direction, element, start, labels, filters, orders, edgeVertex, isOptional, emits,
    steps⟩ := s
  rw [preorder]

/-- The filters are filters of the step, in order. -/
def Filters (s : PlanStep) (held : List Filter) : Prop :=
  SublistForall₂ (fun held f ↦ f.HeldAs held) held s.filters

namespace Filters

variable {s : PlanStep} {held held' : List Filter}

theorem of_mapM (h : s.filters.mapM PlanFilter.build = .ok held) : s.Filters held := by
  refine List.sublistForall₂_iff.mpr ⟨s.filters, ?_, List.Sublist.refl _⟩
  exact ((mapM_eq_ok_iff.mp h).imp fun _ _ ↦ PlanFilter.heldAs_of_build).flip

theorem sublist (h : s.Filters held) (hheld : held'.Sublist held) : s.Filters held' := by
  rw [Filters] at h ⊢
  generalize s.filters = fs at h ⊢
  induction h generalizing held' with
  | nil => exact List.sublist_nil.mp hheld ▸ .nil
  | cons hfirst _ ih =>
    cases hheld with
    | cons _ hrest => exact .cons_right (ih hrest)
    | cons_cons _ hrest => exact .cons hfirst (ih hrest)
  | cons_right _ ih => exact .cons_right (ih hheld)

end Filters

end PlanStep

/-! ## The steps of a tree -/

namespace Tree

variable {t t' : Tree}

/-- Adding a step puts its filters after those of the others. -/
theorem across_filters_addChild? {parent : NodeId} {spec : StepSpec}
    (hadd : t.addChild? parent spec = some t') : t'.across (·.filters) =
      t.across (·.filters) ++ [if spec.element.admits spec.table then spec.filters else []] := by
  obtain ⟨above, -, rfl⟩ := Option.map_eq_some_iff.mp hadd
  have hkeeps : ((t.nodes.modify parent fun n ↦
      { n with children := n.children ++ [t.nodes.size] }).toList.map (·.filters)) =
        t.across (·.filters) := by
    refine List.ext_getElem? fun id ↦ ?_
    rw [across_getElem?, List.getElem?_map, Array.getElem?_toList, Array.getElem?_modify]
    split
    · rw [Option.map_map]
      rfl
    · rfl
  rw [across, Array.toList_push, List.map_append, hkeeps]
  rfl

theorem start_addChild? {parent : NodeId} {spec : StepSpec}
    (hadd : t.addChild? parent spec = some t') : t'.start = t.start := by
  obtain ⟨above, -, rfl⟩ := Option.map_eq_some_iff.mp hadd
  rfl

theorem node?_of_prune {maxDepth : Int} {id : NodeId} {n : Node}
    (hn : (t.prune maxDepth).node? id = some n) : t.node? id = some n := by
  have hkeeps := prune_induction (t := t) (motive := fun v ↦ ∀ n, v.node? id = some n →
    t.node? id = some n) (fun v b hv n hn ↦ hv n (node?_of_markRemoved hn)) (fun _ _ hv ↦ hv)
    maxDepth fun _ hn ↦ hn
  exact hkeeps n hn

theorem filters_resolvedNode_sublist (catalog : Option Topology) (n : Node) :
    (resolvedNode catalog n).filters.Sublist n.filters := by
  rw [resolvedNode]
  split
  · exact List.filter_sublist
  · exact List.nil_sublist _

/-- The steps of `t` have been followed by those that are described, with filters of theirs. -/
structure ExtendedBy (t : Tree) (ss : List PlanStep) (u : Tree) : Prop where
  /-- The traversal starts where it has started. -/
  start : u.start = t.start
  /-- The steps are in the order of their description. -/
  filters : ∃ held, u.across (·.filters) = t.across (·.filters) ++ held ∧
    Forall₂ PlanStep.Filters ss held

namespace ExtendedBy

variable {t u v : Tree} {ss ss' : List PlanStep}

theorem nil (t : Tree) : t.ExtendedBy [] t := ⟨rfl, [], (List.append_nil _).symm, .nil⟩

theorem trans (h : t.ExtendedBy ss u) (h' : u.ExtendedBy ss' v) : t.ExtendedBy (ss ++ ss') v := by
  obtain ⟨held, hacross, hheld⟩ := h.filters
  obtain ⟨held', hacross', hheld'⟩ := h'.filters
  refine ⟨h'.start.trans h.start, held ++ held', ?_, List.rel_append hheld hheld'⟩
  rw [hacross', hacross, List.append_assoc]

theorem size_le (h : t.ExtendedBy ss u) : t.nodes.size ≤ u.nodes.size := by
  obtain ⟨held, hacross, -⟩ := h.filters
  have hlength := congrArg List.length hacross
  rw [across, across, List.length_append, List.length_map, List.length_map, Array.length_toList,
    Array.length_toList] at hlength
  exact hlength ▸ Nat.le_add_right _ _

/-- One step is added below a step of the arena. -/
theorem addChild {g : Topology} {s : PlanStep} {parent : NodeId} {spec : StepSpec}
    (hparent : parent < t.nodes.size) (hspec : s.stepSpec g = .ok spec) :
    ∃ t', t.addChild? parent spec = some t' ∧ t.nodes.size < t'.nodes.size ∧
      t.ExtendedBy [s] t' := by
  obtain ⟨t', hadd⟩ : ∃ t', t.addChild? parent spec = some t' := by
    rw [addChild?, Array.getElem?_eq_getElem hparent]
    exact ⟨_, rfl⟩
  obtain ⟨-, -, hsize, -⟩ := exists_nodes_addChild? hadd
  obtain ⟨table, direction, element, filters, orderings, -, -, -, hfilters, -, rfl⟩ :=
    PlanStep.exists_of_stepSpec hspec
  refine ⟨t', hadd, hsize ▸ Nat.lt_succ_self _, start_addChild? hadd, _,
    across_filters_addChild? hadd, .cons ?_ .nil⟩
  split
  · exact .of_mapM hfilters
  · exact SublistForall₂.nil

end ExtendedBy

end Tree

/-! ## Trees of plans -/

namespace PlanStep

variable {g : Topology}

mutual

/-- A step is added before the steps below it. Each finds the step above it in the arena. -/
theorem extendedBy_of_addTo : ∀ {s : PlanStep} {t u : Tree} {parent : NodeId},
    parent < t.nodes.size → s.addTo g t parent = .ok u → t.ExtendedBy s.preorder u
  | ⟨table, direction, element, start, labels, filters, orders, edgeVertex, isOptional, emits,
      steps⟩, _, _, _, hparent, hu => by
    obtain ⟨spec, hspec, hu⟩ := addTo_eq_ok_iff.mp hu
    obtain ⟨t', hadd, hsize, hself⟩ := Tree.ExtendedBy.addChild hparent hspec
    rw [hadd, Option.getD_some] at hu
    rw [preorder_eq]
    exact hself.trans (extendedBy_of_addAllTo hsize hu)

theorem extendedBy_of_addAllTo : ∀ {ss : List PlanStep} {t u : Tree} {parent : NodeId},
    parent < t.nodes.size → addAllTo g t parent ss = .ok u → t.ExtendedBy (preorderAll ss) u
  | [], _, _, _, _, hu => by
    obtain rfl := Except.ok.inj hu
    exact .nil _
  | s :: ss, _, _, _, hparent, hu => by
    rw [addAllTo, bind_eq_ok_iff] at hu
    obtain ⟨v, hv, hu⟩ := hu
    have hfirst := extendedBy_of_addTo hparent hv
    exact hfirst.trans (extendedBy_of_addAllTo (hparent.trans_le hfirst.size_le) hu)

end

end PlanStep

/-- A tree holds the operands of a root and of the steps below it. -/
structure Tree.Holds (t : Tree) (root : PlanStep) : Prop where
  /-- It starts from the identity of the root. -/
  start : root.start.HeldAs t.start
  /-- A step is in the place of its description and has filters of it, in order. -/
  filters : ∀ {id n}, t.node? id = some n → ∃ s, root.preorder[id]? = some s ∧ s.Filters n.filters

theorem exists_getElem?_of_forall₂ {α β : Type} {R : α → β → Prop} {as : List α} {bs : List β}
    (h : Forall₂ R as bs) {i : ℕ} {b : β} (hb : bs[i]? = some b) :
    ∃ a, as[i]? = some a ∧ R a b := by
  induction h generalizing i with
  | nil => simp at hb
  | @cons a _ _ _ hab _ ih =>
    cases i with
    | zero =>
      rw [List.getElem?_cons_zero, Option.some.injEq] at hb
      exact ⟨a, rfl, hb ▸ hab⟩
    | succ i => simpa using ih (by simpa using hb)

namespace PlanStep

variable {g : Topology} {root : PlanStep} {t : Tree}

theorem grown_tree (h : root.tree g = .ok t) : t.Grown := by
  obtain ⟨spec, -, ht⟩ := bind_eq_ok_iff.mp h
  exact (narrows_addAllTo (.root _ spec (List.Subset.refl _)) ht ht).grown.1

theorem holds_tree (h : root.tree g = .ok t) : t.Holds root := by
  obtain ⟨spec, hspec, ht⟩ := bind_eq_ok_iff.mp h
  obtain ⟨table, direction, filters, orderings, -, -, hfilters, -, rfl⟩ := exists_of_rootSpec hspec
  have hext := extendedBy_of_addAllTo Nat.zero_lt_one ht
  refine ⟨?_, fun {id n} hn ↦ ?_⟩
  · have hstart : t.start = root.start.widen := by
      rw [hext.start, Tree.ofRoot]
      cases root.start <;> rfl
    exact hstart ▸ root.start.heldAs_widen
  · obtain ⟨held, hacross, hheld⟩ := hext.filters
    have hall : Forall₂ Filters root.preorder (filters :: held) := by
      rw [preorder_eq]
      exact .cons (.of_mapM hfilters) hheld
    have hget : (filters :: held)[id]? = some n.filters := by
      rw [← List.singleton_append, ← show _ = [filters] ++ held from hacross,
        Tree.across_getElem?, Tree.getElem?_of_node? hn]
      rfl
    exact exists_getElem?_of_forall₂ hall hget

end PlanStep

namespace Tree

variable {t : Tree} {root : PlanStep}

/-- Pruning takes filters and steps away. -/
theorem Holds.prune (h : t.Holds root) (hgrown : t.Grown) (p : Plan) : (p.prune t).Holds root where
  start := by
    rw [Plan.prune, start_prune, start_pruneByFilters]
    exact h.start
  filters := by
    intro id n hn
    obtain ⟨m, hm, rfl⟩ := hgrown.node?_pruneByFilters (node?_of_prune hn)
    obtain ⟨s, hs, hfilters⟩ := h.filters hm
    exact ⟨s, hs, hfilters.sublist (filters_resolvedNode_sublist _ _)⟩

end Tree

/-- **How operands reach the database.** When a plan is built, every tree holds the start and the
filters that it keeps as its root has them; of the integers exactly those below `2 ^ 63` are held as
the same number. A statement that is compiled from the tree binds the start and what the filters on
its path and branches compare with as they are held, among its operands or in its membership
tables. -/
theorem Plan.holds_and_bound_of_build {p : Plan} {g : Topology} {trees : List Tree}
    (hbuild : p.build g = .ok trees) :
    Forall₂ (fun root t ↦ t.Holds root ∧
      ∀ {c mode path branches s st s'},
        (CompileM.statement c t mode path branches).Yields s st s' → st.Bound t path branches)
      p.roots trees := by
  refine (build_eq_ok_iff.mp hbuild).imp ?_
  rintro root v ⟨t, ht, rfl⟩
  exact ⟨(PlanStep.holds_tree ht).prune (PlanStep.grown_tree ht) p, Statement.bound_of_yields⟩

/-! ### A number that does not fit -/

/-- The vertices from the first identity that is too large, among a few. -/
def largeIdentity : PlanStep where
  table := "V_a"
  start := .int .uint64 (2 ^ 63)
  filters := [{
    key := idKey, predicate := "within", values := [.int .word 5, .int .uint64 (2 ^ 63)] }]

/-- The tree of its plan. -/
def largeIdentityTree : Tree :=
  ((({ roots := [largeIdentity] } : Plan).build arrowGraph).toOption.bind List.head?).getD default

theorem build_largeIdentity :
    ({ roots := [largeIdentity] } : Plan).build arrowGraph = .ok [largeIdentityTree] := by
  have hlength : (({ roots := [largeIdentity] } : Plan).build arrowGraph).map List.length =
      .ok 1 := by decide +kernel
  obtain ⟨ts, hts, hone⟩ := map_eq_ok_iff.mp hlength
  obtain ⟨t, rfl⟩ := List.length_eq_one_iff.mp hone
  rw [largeIdentityTree, hts]
  rfl

/-- The plan is built all the same, and a statement binds another number for the identity. -/
theorem Plan.start_eq_and_binds_largeIdentity :
    ({ roots := [largeIdentity] } : Plan).build arrowGraph = .ok [largeIdentityTree] ∧
      largeIdentity.start.Reads (2 ^ 63) ∧ largeIdentityTree.start = .int .int64 (-2 ^ 63) ∧
      ∃ st s', (CompileM.statement { dialect := ⟨.postgres, "s", 1, true⟩ } largeIdentityTree
          .regular ⟨[]⟩ []).Yields {} st s' ∧
        (st.operands.length = 1 ∧ st.tables.length = 1) ∧ st.Binds (.int .int64 (-2 ^ 63)) := by
  have hreads : largeIdentity.start.Reads (2 ^ 63) := .inr ⟨rfl, by decide, by decide⟩
  obtain ⟨hholds, hbound⟩ := (List.forall₂_cons.mp (holds_and_bound_of_build build_largeIdentity)).1
  have hstart : largeIdentityTree.start = .int .int64 (-2 ^ 63) := hholds.start.wraps hreads le_rfl
  obtain ⟨st, s', hst, hcounts⟩ := CompileM.exists_yields (s := {})
    (m := CompileM.statement { dialect := ⟨.postgres, "s", 1, true⟩ } largeIdentityTree .regular
      ⟨[]⟩ [])
    (P := fun st _ ↦ st.operands.length = 1 ∧ st.tables.length = 1) (by decide +kernel)
  refine ⟨build_largeIdentity, hreads, hstart, st, s', hst, of_decide_eq_true hcounts, ?_⟩
  rw [← hstart]
  exact (hbound hst).start (by rw [hstart]; rfl)

end PathQuery
