import Mathlib.Data.List.Nodup
import PathQuery.Proofs.Compile.Run
import PathQuery.Proofs.Number.Digits

/-!
# What a statement projects

The columns a statement projects are settled before any alias is given out: they are a list of
*slots*, each a column of a step with the reason it is projected. Compiling then only numbers the
slots, starting where the registry stands, and registers the logical column of each. Everything
about aliases follows from this numbering, so the compiler's own bookkeeping is opened once, here.
-/

namespace PathQuery

/-! ## Aliases are numbered -/

theorem aliasName_injective : Function.Injective aliasName := by
  intro i j h
  rw [aliasName, aliasName, String.append_right_inj] at h
  exact Nat.succ.inj (repr_injective h)

/-- A column of a step together with the reason it is projected. -/
structure Slot where
  /-- The step. -/
  node : NodeId
  /-- Why the column is projected. -/
  role : Role
  /-- The column. -/
  column : String
  deriving DecidableEq, Repr

/-- A projected column without its alias. -/
def Projected.slot (q : Projected) : Slot := ⟨q.node, q.role, q.column⟩

namespace Slot

/-- The slot under the alias at a position. -/
def named (s : Slot) (i : ℕ) : Projected := ⟨s.node, s.role, s.column, aliasName i⟩

/-- The slots under consecutive aliases. -/
def nameAll : ℕ → List Slot → List Projected
  | _, [] => []
  | k, s :: rest => s.named k :: nameAll (k + 1) rest

@[simp] theorem nameAll_nil (k : ℕ) : nameAll k [] = [] := rfl

@[simp] theorem nameAll_cons (k : ℕ) (s : Slot) (rest : List Slot) :
    nameAll k (s :: rest) = s.named k :: nameAll (k + 1) rest := rfl

theorem nameAll_append (k : ℕ) (xs ys : List Slot) :
    nameAll k (xs ++ ys) = nameAll k xs ++ nameAll (k + xs.length) ys := by
  induction xs generalizing k with
  | nil => simp
  | cons x xs ih =>
    rw [List.cons_append, nameAll_cons, nameAll_cons, ih, List.cons_append, List.length_cons,
      show k + 1 + xs.length = k + (xs.length + 1) from by omega]

@[simp] theorem length_nameAll (k : ℕ) (xs : List Slot) : (nameAll k xs).length = xs.length := by
  induction xs generalizing k with
  | nil => rfl
  | cons x xs ih => rw [nameAll_cons, List.length_cons, ih, List.length_cons]

theorem map_name_nameAll (k : ℕ) (xs : List Slot) :
    (nameAll k xs).map (·.name) = (List.range' k xs.length).map aliasName := by
  induction xs generalizing k with
  | nil => rfl
  | cons x xs ih =>
    rw [nameAll_cons, List.map_cons, ih, List.length_cons, List.range'_succ, List.map_cons]
    rfl

theorem nodup_names (k : ℕ) (xs : List Slot) : ((nameAll k xs).map (·.name)).Nodup := by
  rw [map_name_nameAll]
  exact List.Nodup.map aliasName_injective List.nodup_range'

theorem map_slot_nameAll (k : ℕ) (xs : List Slot) : (nameAll k xs).map Projected.slot = xs := by
  induction xs generalizing k with
  | nil => rfl
  | cons x xs ih => rw [nameAll_cons, List.map_cons, ih]; rfl

theorem mem_of_mem_nameAll {k : ℕ} {xs : List Slot} {q : Projected} (h : q ∈ nameAll k xs) :
    q.slot ∈ xs := by
  rw [← map_slot_nameAll k xs]
  exact List.mem_map_of_mem h

theorem exists_mem_nameAll {k : ℕ} {xs : List Slot} {s : Slot} (h : s ∈ xs) :
    ∃ q ∈ nameAll k xs, q.slot = s := by
  rw [← map_slot_nameAll k xs] at h
  obtain ⟨q, hq, rfl⟩ := List.mem_map.mp h
  exact ⟨q, hq, rfl⟩

end Slot

namespace Tree

/-! ## Steps and their columns -/

theorem liveNode_eq_ok_iff {t : Tree} {id : NodeId} {n : Node} :
    t.liveNode id = .ok n ↔ t.node? id = some n := by
  rw [liveNode]
  cases t.node? id <;> simp

/-- A step is correlated with the one it stands below. -/
theorem parentCorrelation_eq_ok {t : Tree} {id p : NodeId} {n above : Node} {c : Correlation}
    (hn : t.liveNode id = .ok n) (hparent : n.parent = some p) (habove : t.liveNode p = .ok above)
    (hc : t.correlation id above n = .ok c) : t.parentCorrelation id = .ok c := by
  refine bind_eq_ok_iff.mpr ⟨n, hn, ?_⟩
  simp only [hparent]
  exact bind_eq_ok_iff.mpr ⟨above, habove, hc⟩

/-- A step that has not been removed; an arbitrary one when there is none. -/
def nodeAt (t : Tree) (id : NodeId) : Node := (t.node? id).getD default

theorem nodeAt_of_some {t : Tree} {id : NodeId} {n : Node} (h : t.node? id = some n) :
    t.nodeAt id = n := by
  rw [nodeAt, h, Option.getD_some]

theorem tableOf_of_some {t : Tree} {id : NodeId} {n : Node} (h : t.node? id = some n) :
    t.tableOf id = n.table := by
  rw [node?, Option.filter_eq_some_iff] at h
  rw [tableOf, h.1, Option.map_some, Option.getD_some]

/-- The columns of a step in the order they are projected. -/
def columnsAt (t : Tree) (id : NodeId) : List String :=
  match t.columnsOf (t.nodeAt id).table with
  | .ok columns => columns
  | .error _ => []

/-- The slots for all columns of a step. -/
def nodeSlots (t : Tree) (id : NodeId) (role : Role) : List Slot :=
  (t.columnsAt id).map (Slot.mk id role)

/-- The slots of the projected step and of the labeled ones, in path order. -/
def shownSlots (t : Tree) (leaf : NodeId) (ids : List NodeId) : List Slot :=
  ids.flatMap fun id ↦
    (if id = leaf then t.nodeSlots id .result else []) ++
      if (t.nodeAt id).isLabeled then t.nodeSlots id .labeled else []

/-- The slots of the columns that the statement itself needs. -/
def helperSlots (t : Tree) (leaf : NodeId) (needed : List (NodeId × String))
    (ids : List NodeId) : List Slot :=
  ids.flatMap fun id ↦ (CompileM.helperColumns t leaf needed id).map (Slot.mk id .helper)

/-- The table of every step that is shown is declared. -/
def ShowsDeclared (t : Tree) (leaf : NodeId) (ids : List NodeId) : Prop :=
  ∀ id ∈ ids, id = leaf ∨ (t.nodeAt id).isLabeled →
    ∃ columns, t.columnsOf (t.nodeAt id).table = .ok columns

theorem columnsAt_of_eq_ok {t : Tree} {id : NodeId} {columns : List String}
    (h : t.columnsOf (t.nodeAt id).table = .ok columns) : t.columnsAt id = columns := by
  rw [columnsAt]
  simp only [h]

/-- The logical column of a slot. -/
def slotColumn (t : Tree) (s : Slot) : Column :=
  ⟨s.role.labels (t.nodeAt s.node), (t.nodeAt s.node).table, s.column⟩

theorem shownSlots_append (t : Tree) (leaf : NodeId) (xs ys : List NodeId) :
    t.shownSlots leaf (xs ++ ys) = t.shownSlots leaf xs ++ t.shownSlots leaf ys := by
  rw [shownSlots, List.flatMap_append]
  rfl

theorem node_mem_of_mem_nodeSlots {t : Tree} {id : NodeId} {role : Role} {s : Slot}
    (h : s ∈ t.nodeSlots id role) : s.node = id := by
  obtain ⟨c, -, rfl⟩ := List.mem_map.mp h
  rfl

theorem node_mem_of_mem_shownSlots {t : Tree} {leaf : NodeId} {ids : List NodeId} {s : Slot}
    (h : s ∈ t.shownSlots leaf ids) : s.node ∈ ids := by
  obtain ⟨id, hid, hs⟩ := List.mem_flatMap.mp h
  rcases List.mem_append.mp hs with hs | hs
  · split at hs
    · rwa [node_mem_of_mem_nodeSlots hs]
    · cases hs
  · split at hs
    · rwa [node_mem_of_mem_nodeSlots hs]
    · cases hs

theorem node_mem_of_mem_helperSlots {t : Tree} {leaf : NodeId} {needed : List (NodeId × String)}
    {ids : List NodeId} {s : Slot} (h : s ∈ t.helperSlots leaf needed ids) : s.node ∈ ids := by
  obtain ⟨id, hid, hs⟩ := List.mem_flatMap.mp h
  obtain ⟨c, -, rfl⟩ := List.mem_map.mp hs
  exact hid

end Tree

/-! ## Compiling numbers the slots -/

/-- The state once the slots have been registered. -/
def CompileState.withSlots (s : CompileState) (t : Tree) (slots : List Slot) : CompileState :=
  { s with registry := ⟨s.registry.columns ++ (slots.map t.slotColumn).toArray⟩ }

namespace CompileState

@[simp] theorem size_withSlots (s : CompileState) (t : Tree) (slots : List Slot) :
    (s.withSlots t slots).registry.size = s.registry.size + slots.length := by
  simp [withSlots, Registry.size]

@[simp] theorem withSlots_nil (s : CompileState) (t : Tree) : s.withSlots t [] = s := by
  simp [withSlots]

theorem withSlots_append (s : CompileState) (t : Tree) (xs ys : List Slot) :
    s.withSlots t (xs ++ ys) = (s.withSlots t xs).withSlots t ys := by
  simp [withSlots]

end CompileState

namespace CompileM

/-- Every successful run gives these slots the next aliases and registers their columns. -/
def Projects (t : Tree) (m : CompileM (List Projected)) (slots : List Slot) : Prop :=
  ∀ s ps s', m.Yields s ps s' →
    ps = Slot.nameAll s.registry.size slots ∧ s' = s.withSlots t slots

theorem yields_project {t : Tree} {id : NodeId} {n : Node} (hn : t.node? id = some n) {role : Role}
    {column : String} {s s' : CompileState} {q : Projected}
    (h : (project id n role column).Yields s q s') :
    q = (⟨id, role, column⟩ : Slot).named s.registry.size ∧
      s' = s.withSlots t [⟨id, role, column⟩] := by
  obtain ⟨_, _, hget, hset⟩ := yields_bind_iff.mp h
  obtain ⟨rfl, rfl⟩ := yields_get_iff.mp hget
  obtain ⟨_, _, hset, hpure⟩ := yields_bind_iff.mp hset
  obtain rfl := yields_set_iff.mp hset
  obtain ⟨rfl, rfl⟩ := yields_pure_iff.mp hpure
  refine ⟨rfl, ?_⟩
  simp [CompileState.withSlots, Tree.slotColumn, Tree.nodeAt_of_some hn]

namespace Projects

variable {t : Tree} {m m' : CompileM (List Projected)} {xs ys : List Slot}

theorem pure_nil (t : Tree) : Projects t (pure []) [] := by
  intro s ps s' h
  obtain ⟨rfl, rfl⟩ := yields_pure_iff.mp h
  simp

theorem ite {c : Prop} [Decidable c] (hm : Projects t m xs) (hm' : Projects t m' ys) :
    Projects t (if c then m else m') (if c then xs else ys) := by
  split
  · exact hm
  · exact hm'

theorem append (hm : Projects t m xs) (hm' : Projects t m' ys) :
    Projects t (do return (← m) ++ (← m')) (xs ++ ys) := by
  intro s ps s' h
  obtain ⟨as, s₁, has, hrest⟩ := yields_bind_iff.mp h
  obtain ⟨bs, s₂, hbs, hpure⟩ := yields_bind_iff.mp hrest
  obtain ⟨rfl, rfl⟩ := yields_pure_iff.mp hpure
  obtain ⟨rfl, rfl⟩ := hm _ _ _ has
  obtain ⟨rfl, rfl⟩ := hm' _ _ _ hbs
  rw [Slot.nameAll_append, CompileState.withSlots_append, CompileState.size_withSlots]
  exact ⟨rfl, rfl⟩

/-- Projecting in a row numbers the slots in a row. -/
theorem mapM_project {id : NodeId} {n : Node} (hn : t.node? id = some n) (role : Role)
    (columns : List String) :
    Projects t (columns.mapM (project id n role)) (columns.map (Slot.mk id role)) := by
  induction columns with
  | nil =>
    intro s ps s' h
    obtain ⟨rfl, rfl⟩ := yields_mapM_nil_iff.mp h
    simp
  | cons column columns ih =>
    intro s ps s' h
    obtain ⟨q, s₁, rest, hq, hrest, rfl⟩ := yields_mapM_cons_iff.mp h
    obtain ⟨rfl, rfl⟩ := yields_project hn hq
    obtain ⟨rfl, rfl⟩ := ih _ _ _ hrest
    refine ⟨?_, (CompileState.withSlots_append _ _ [_] _).symm⟩
    rw [List.map_cons, Slot.nameAll_cons, CompileState.size_withSlots, List.length_singleton]

theorem projectNode {id : NodeId} {n : Node} (hn : t.node? id = some n) (role : Role) :
    Projects t (projectNode t id n role) (t.nodeSlots id role) := by
  intro s ps s' h
  obtain ⟨columns, s₁, hlift, hcolumns⟩ := yields_bind_iff.mp h
  obtain ⟨hok, rfl⟩ := yields_lift_iff.mp hlift
  have hslots : t.nodeSlots id role = columns.map (Slot.mk id role) := by
    rw [Tree.nodeSlots, Tree.columnsAt, Tree.nodeAt_of_some hn]
    simp only [hok]
  rw [hslots]
  exact mapM_project hn role columns _ _ _ hcolumns

/-- Steps that number slots, one after the other, number all of them. -/
theorem mapM_flatten {α : Type} {f : α → CompileM (List Projected)} {slots : α → List Slot}
    (hf : ∀ a, Projects t (f a) (slots a)) (as : List α) :
    Projects t (do return (← as.mapM f).flatten) (as.flatMap slots) := by
  intro s ps s' h
  obtain ⟨parts, s₁, hparts, hpure⟩ := yields_bind_iff.mp h
  obtain ⟨rfl, rfl⟩ := yields_pure_iff.mp hpure
  clear h hpure
  induction as generalizing s parts with
  | nil =>
    obtain ⟨rfl, rfl⟩ := yields_mapM_nil_iff.mp hparts
    simp
  | cons a as ih =>
    obtain ⟨part, s₁, rest, hpart, hrest, rfl⟩ := yields_mapM_cons_iff.mp hparts
    obtain ⟨rfl, rfl⟩ := hf a _ _ _ hpart
    obtain ⟨hnames, rfl⟩ := ih _ _ hrest
    rw [List.flatMap_cons, Slot.nameAll_append, CompileState.withSlots_append, List.flatten_cons,
      hnames, CompileState.size_withSlots]
    exact ⟨rfl, rfl⟩

/-- Looking a step up first changes nothing for the runs that find it. -/
theorem of_liveNode {id : NodeId} {f : Node → CompileM (List Projected)}
    (hf : ∀ n, t.node? id = some n → Projects t (f n) xs) :
    Projects t (do f (← t.liveNode id)) xs := by
  intro s ps s' h
  obtain ⟨n, s₁, hlift, hrest⟩ := yields_bind_iff.mp h
  obtain ⟨hlive, rfl⟩ := yields_lift_iff.mp hlift
  exact hf n (Tree.liveNode_eq_ok_iff.mp hlive) _ _ _ hrest

theorem projectSteps (t : Tree) (leaf : NodeId) (ids : List NodeId) :
    Projects t (projectSteps t leaf ids) (t.shownSlots leaf ids) := by
  refine mapM_flatten (fun id ↦ of_liveNode fun n hn ↦ ?_) ids
  have hparts := append (ite (c := id = leaf) (projectNode hn .result) (pure_nil t))
    (ite (c := n.isLabeled = true) (projectNode hn .labeled) (pure_nil t))
  rw [Tree.nodeAt_of_some hn]
  convert hparts using 1
  split <;> split <;> simp

theorem projectHelpers (t : Tree) (leaf : NodeId) (needed : List (NodeId × String))
    (ids : List NodeId) :
    Projects t (projectHelpers t leaf needed ids) (t.helperSlots leaf needed ids) := by
  refine mapM_flatten (fun id ↦ of_liveNode fun n hn ↦ ?_) ids
  exact mapM_project hn .helper _

end Projects

theorem columnsOf_of_projectNode {t : Tree} {id : NodeId} {n : Node} {role : Role}
    {s s' : CompileState} {ps : List Projected} (h : (projectNode t id n role).Yields s ps s') :
    ∃ columns, t.columnsOf n.table = .ok columns := by
  obtain ⟨columns, s₁, hlift, -⟩ := yields_bind_iff.mp h
  exact ⟨columns, (yields_lift_iff.mp hlift).1⟩

/-- Whatever has been projected is declared. -/
theorem showsDeclared_of_projectSteps {t : Tree} {leaf : NodeId} {ids : List NodeId}
    {s s' : CompileState} {ps : List Projected} (h : (projectSteps t leaf ids).Yields s ps s') :
    t.ShowsDeclared leaf ids := by
  obtain ⟨parts, s₁, hparts, -⟩ := yields_bind_iff.mp h
  clear h
  induction ids generalizing s parts with
  | nil => simp [Tree.ShowsDeclared]
  | cons id ids ih =>
    obtain ⟨part, s₂, rest, hpart, hrest, rfl⟩ := yields_mapM_cons_iff.mp hparts
    obtain ⟨n, s₃, hlift, hproject⟩ := yields_bind_iff.mp hpart
    have hn := Tree.liveNode_eq_ok_iff.mp (yields_lift_iff.mp hlift).1
    refine List.forall_mem_cons.mpr ⟨fun hshown ↦ ?_, ih _ hrest⟩
    rw [Tree.nodeAt_of_some hn] at hshown ⊢
    dsimp only at hproject
    by_cases hleaf : id = leaf
    · rw [if_pos hleaf] at hproject
      obtain ⟨result, s₄, hresult, -⟩ := yields_bind_iff.mp hproject
      exact columnsOf_of_projectNode hresult
    · rw [if_neg hleaf] at hproject
      obtain ⟨result, s₄, -, hlabeled⟩ := yields_bind_iff.mp hproject
      rw [if_pos (hshown.resolve_left hleaf)] at hlabeled
      obtain ⟨labeled, s₅, hlabeled, -⟩ := yields_bind_iff.mp hlabeled
      exact columnsOf_of_projectNode hlabeled

end CompileM

end PathQuery
