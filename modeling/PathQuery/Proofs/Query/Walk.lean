import Mathlib.Data.List.Perm.Subperm
import PathQuery.Proofs.Query.Path
import PathQuery.Query.Tree.Validate

/-!
# Checked steps

Checking a tree visits its live steps breadth first, from the root down over the lists of children,
while a path goes up from its end over the steps above. In a built tree the two agree: a step is
listed by the step above it, so that a path whose steps are all live is visited step by step, one
generation each. Whatever is checked therefore holds of every step that a compiled path has.
-/

namespace PathQuery

namespace Tree

variable {t : Tree}

/-! ## Children -/

/-- The steps listed below a step of the arena. -/
def listedBelow (t : Tree) (id : NodeId) : List NodeId := (t.nodes[id]?.map (·.children)).getD []

/-- Every step is listed by the step above it. -/
def Listed (t : Tree) : Prop := ∀ {above id : NodeId}, t.IsParent above id → id ∈ t.listedBelow above

/-- The step above each step of the arena, and those listed below it. -/
def family (t : Tree) : List (Option NodeId × List NodeId) :=
  t.across fun n ↦ (n.parent, n.children)

theorem lasting_family : Lasting fun n ↦ (n.parent, n.children) := ⟨fun _ ↦ rfl, fun _ _ ↦ rfl⟩

theorem Listed.of_family {t' : Tree} (h : t.Listed) (hfamily : t'.family = t.family) :
    t'.Listed := by
  have hget : ∀ id : NodeId, t'.nodes[id]?.map (fun n ↦ (n.parent, n.children)) =
      t.nodes[id]?.map fun n ↦ (n.parent, n.children) := by
    intro id
    rw [← across_getElem?, ← across_getElem?]
    exact congrArg (·[id]?) hfamily
  have hparent : ∀ above id, t'.IsParent above id ↔ t.IsParent above id := by
    intro above id
    have heq := congrArg (Option.bind · Prod.fst) (hget id)
    simp only [Option.bind_map] at heq
    rw [IsParent, IsParent]
    exact heq ▸ Iff.rfl
  have hbelow : ∀ id, t'.listedBelow id = t.listedBelow id := by
    intro id
    have heq := congrArg (Option.map Prod.snd) (hget id)
    rw [Option.map_map, Option.map_map] at heq
    exact congrArg (Option.getD · []) heq
  intro above id hid
  rw [hbelow]
  exact h ((hparent above id).mp hid)

theorem Listed.addChild? {t' : Tree} (h : t.Listed) {parent : NodeId} {spec : StepSpec}
    (hadd : t.addChild? parent spec = some t') : t'.Listed := by
  obtain ⟨above, habove, rfl⟩ := Option.map_eq_some_iff.mp hadd
  obtain ⟨hlt, -⟩ := Array.getElem?_eq_some_iff.mp habove
  intro a id hparent
  rw [IsParent, Array.getElem?_push] at hparent
  rw [listedBelow, Array.getElem?_push]
  split at hparent
  · next hnew =>
    -- the new step is listed by the one it was added to
    obtain rfl : parent = a := by simpa [childNode] using hparent
    rw [if_neg (by simpa using hlt.ne)]
    simp [Array.getElem?_modify, habove, hnew]
  · next hold =>
    -- an old step keeps the step above it, which lists what it did
    have hparent : t.IsParent a id := by
      rw [Array.getElem?_modify] at hparent
      rw [IsParent]
      split at hparent
      · rwa [Option.bind_map] at hparent
      · exact hparent
    have hmem := h hparent
    rw [listedBelow] at hmem
    have hlt' : a < t.nodes.size := by
      by_contra hout
      rw [Array.getElem?_eq_none (Nat.le_of_not_lt hout)] at hmem
      cases hmem
    rw [if_neg (by simpa using hlt'.ne), Array.getElem?_modify]
    split
    · rw [Array.getElem?_eq_getElem hlt'] at hmem ⊢
      simpa using .inl hmem
    · exact hmem

theorem Built.listed (h : t.Built) : t.Listed := by
  induction h with
  | root catalog spec =>
    intro above id hparent
    obtain ⟨n, hn, habove⟩ := Option.bind_eq_some_iff.mp hparent
    obtain ⟨hlt, rfl⟩ := Array.getElem?_eq_some_iff.mp hn
    obtain rfl : id = 0 := Nat.lt_one_iff.mp hlt
    cases habove
  | child _ added ih => exact Listed.addChild? ih added
  | prune _ maxDepth ih => exact Listed.of_family ih (lasting_family.across_prune _ maxDepth)
  | pruneByFilters _ ih => exact Listed.of_family ih (lasting_family.across_pruneByFilters _)

/-! ## The walk meets every live path -/

theorem isLive_iff {id : NodeId} : t.isLive id ↔ ∃ n, t.node? id = some n := by
  rw [isLive, Option.isSome_iff_exists]

/-- Steps that lead down from a generation are met, one generation each. -/
theorem mem_generations_of_isChain (hlisted : t.Listed) {id : NodeId} {rest generation : List NodeId}
    {fuel : ℕ} (hchain : (id :: rest).IsChain t.IsParent)
    (hlive : ∀ i ∈ id :: rest, t.isLive i) (hid : id ∈ generation) (hfuel : rest.length < fuel) :
    ∀ i ∈ id :: rest, i ∈ t.generations fuel generation := by
  induction rest generalizing id generation fuel with
  | nil =>
    obtain ⟨fuel, rfl⟩ := Nat.exists_eq_add_one_of_ne_zero (Nat.ne_zero_of_lt hfuel)
    have hhere : id ∈ generation.filter t.isLive := List.mem_filter.mpr ⟨hid, hlive id (by simp)⟩
    intro i hi
    obtain rfl := List.mem_singleton.mp hi
    rw [generations, if_neg (by simpa using ⟨i, hid, hlive i (by simp)⟩)]
    exact List.mem_append_left _ hhere
  | cons below rest ih =>
    obtain ⟨fuel, rfl⟩ := Nat.exists_eq_add_one_of_ne_zero (Nat.ne_zero_of_lt hfuel)
    obtain ⟨hparent, hchain'⟩ := List.isChain_cons_cons.mp hchain
    obtain ⟨hlive₀, hlive'⟩ := List.forall_mem_cons.mp hlive
    have hhere : id ∈ generation.filter t.isLive := List.mem_filter.mpr ⟨hid, hlive₀⟩
    have hnext : below ∈ (generation.filter t.isLive).flatMap fun id ↦
        ((t.node? id).map (·.children)).getD [] := by
      refine List.mem_flatMap.mpr ⟨id, hhere, ?_⟩
      obtain ⟨n, hn⟩ := isLive_iff.mp hlive₀
      have hmem := hlisted hparent
      rw [node?, Option.filter_eq_some_iff] at hn
      rw [listedBelow, hn.1] at hmem
      rwa [node?, hn.1, Option.filter_some, if_pos hn.2]
    rw [generations, if_neg (by simpa using ⟨id, hid, hlive₀⟩)]
    intro i hi
    rcases List.mem_cons.mp hi with rfl | hi
    · exact List.mem_append_left _ hhere
    · exact List.mem_append_right _ (ih hchain' hlive' hnext (by simpa using hfuel) i hi)

/-- Live steps that lead down from the root are all met. -/
theorem mem_walk_of_isChain (h : t.Built) {rest : List NodeId}
    (hchain : (rootId :: rest).IsChain t.IsParent) (hlive : ∀ i ∈ rootId :: rest, t.isLive i) :
    ∀ i ∈ rootId :: rest, i ∈ t.walk := by
  refine mem_generations_of_isChain h.listed hchain hlive (by simp [rootId]) ?_
  have hnodup := nodup_of_isChain h.rooted hchain
  have hsubset : rootId :: rest ⊆ List.range t.nodes.size := by
    intro i hi
    obtain ⟨n, hn⟩ := isLive_iff.mp (hlive i hi)
    rw [node?, Option.filter_eq_some_iff] at hn
    exact List.mem_range.mpr (Array.getElem?_eq_some_iff.mp hn.1).1
  have hlength := (List.subperm_of_subset hnodup hsubset).length_le
  rw [List.length_cons, List.length_range] at hlength
  exact hlength

/-! ## What has been checked -/

theorem firstFault_eq_none_iff {α : Type} {check : α → Option QueryError} {as : List α} :
    firstFault check as = none ↔ ∀ a ∈ as, check a = none := by
  induction as with
  | nil => simp [firstFault]
  | cons a as ih =>
    rw [firstFault, Option.orElse_eq_or, Option.or_eq_none_iff, ih, List.forall_mem_cons]

theorem nodeFault_eq_none (hvalid : t.validate = .ok ()) {id : NodeId} (hid : id ∈ t.walk)
    {n : Node} (hn : t.node? id = some n) : t.nodeFault id n = none := by
  rw [validate] at hvalid
  split at hvalid
  · cases hvalid
  · next hfault =>
    refine firstFault_eq_none_iff.mp hfault (id, n) (List.mem_filterMap.mpr ⟨id, hid, ?_⟩)
    rw [hn, Option.map_some]

/-- The table of a checked step is declared. -/
theorem exists_info_of_validate (hvalid : t.validate = .ok ()) {g : Topology}
    (hcatalog : t.catalog = some g) {id : NodeId} (hid : id ∈ t.walk) {n : Node}
    (hn : t.node? id = some n) : ∃ info, g.info? n.table = some info := by
  have hfault := nodeFault_eq_none hvalid hid hn
  rw [nodeFault, Option.orElse_eq_or, Option.or_eq_none_iff, tableFault] at hfault
  obtain ⟨htable, -⟩ := hfault
  split at htable
  · cases htable
  · split at htable
    · cases htable
    · next hdeclared =>
      rw [hcatalog, Option.any_some, Topology.properties?, Option.isNone_map,
        Option.isNone_iff_eq_none] at hdeclared
      exact Option.ne_none_iff_exists'.mp hdeclared

/-- The labels of a checked step have no points, and none of them is empty. -/
theorem labels_of_validate (hvalid : t.validate = .ok ()) {id : NodeId} (hid : id ∈ t.walk)
    {n : Node} (hn : t.node? id = some n) : ∀ l ∈ n.labels, l ≠ "" ∧ '.' ∉ l.toList := by
  have hfault := nodeFault_eq_none hvalid hid hn
  simp only [nodeFault, Option.orElse_eq_or, Option.or_eq_none_iff, firstFault_eq_none_iff]
    at hfault
  intro l hl
  have hlabel := hfault.2.2.1 l hl
  rw [labelFault] at hlabel
  split at hlabel
  · cases hlabel
  · next hplain => simpa using hplain

end Tree

end PathQuery
