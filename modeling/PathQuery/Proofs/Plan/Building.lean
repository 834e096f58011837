import PathQuery.Proofs.Plan.Operands
import PathQuery.Proofs.Query.Labels

/-!
# The tree that a description is built into

Building a tree goes down the steps of a description and grows an arena on the way: a step is put at
its end, below a step that is there already, and then the steps below it. What is in the arena by
then stays, apart from the step above, which has one more child. So the arena can be told from the
description alone. Each step has a *place*, and the node there is what the step says.

The root is built from less than other steps. Its kind of element is not looked at, and it is
neither optional, nor does it emit, nor does it move to the end of an edge, whatever its description
says.
-/

namespace PathQuery

open List (Forall₂)

/-! ## Descriptions that translate -/

/-- A sort term of a plan as a tree holds it. -/
structure PlanOrder.HeldAs (o : PlanOrder) (held : SortTerm) : Prop where
  /-- The property is the same. -/
  key : held.key = o.key
  /-- The direction is the one that is named, ascending when none is. -/
  order : SortOrder.ofWord? o.order = some held.order
  /-- It refers to the step itself when no label is named. -/
  step : o.label = "" → held.target = .step
  /-- It refers to the label that is named. -/
  labeled : o.label ≠ "" → held.target = .labeled ∧ held.label = o.label

namespace PlanOrder

variable {o : PlanOrder} {held : SortTerm}

theorem heldAs_of_build (h : o.build = .ok held) : o.HeldAs held := by
  rw [build] at h
  split at h
  · next order hword =>
    change (if o.label = "" then _ else _) = _ at h
    split at h
    · next hlabel =>
      rw [← Except.ok.inj h]
      exact ⟨rfl, hword, fun _ ↦ rfl, fun hne ↦ absurd hlabel hne⟩
    · next hlabel =>
      rw [← Except.ok.inj h]
      exact ⟨rfl, hword, fun heq ↦ absurd heq hlabel, fun _ ↦ ⟨rfl, rfl⟩⟩
  · cases h

theorem exists_build_iff (o : PlanOrder) :
    (∃ held, o.build = .ok held) ↔ (SortOrder.ofWord? o.order).isSome := by
  constructor
  · rintro ⟨held, h⟩
    exact Option.isSome_of_eq_some (heldAs_of_build h).order
  · intro hword
    obtain ⟨order, horder⟩ := Option.isSome_iff_exists.mp hword
    rw [build, horder]
    by_cases hlabel : o.label = ""
    · exact ⟨_, if_pos hlabel⟩
    · exact ⟨_, if_neg hlabel⟩

end PlanOrder

theorem PlanFilter.exists_build_iff (f : PlanFilter) :
    (∃ held, f.build = .ok held) ↔ f.predicate = "" ∨ (Predicate.ofWord? f.predicate).isSome := by
  constructor
  · rintro ⟨held, h⟩
    have hword := (heldAs_of_build h).predicate
    by_cases hempty : f.predicate = ""
    · exact .inl hempty
    · rw [if_neg hempty] at hword
      exact .inr (Option.isSome_of_eq_some hword)
  · intro hword
    rw [build]
    by_cases hempty : f.predicate = ""
    · rw [if_pos hempty]
      exact ⟨_, rfl⟩
    · obtain ⟨p, hp⟩ := Option.isSome_iff_exists.mp (hword.resolve_left hempty)
      rw [if_neg hempty, hp]
      change ∃ held, (if p.isMembership then _ else _) = Except.ok held
      by_cases hlist : p.isMembership
      · exact ⟨_, if_pos hlist⟩
      · exact ⟨_, if_neg hlist⟩

theorem exists_mapM_eq_ok_iff {ε α β : Type} {f : α → Except ε β} {as : List α} :
    (∃ bs, as.mapM f = .ok bs) ↔ ∀ a ∈ as, ∃ b, f a = .ok b := by
  constructor
  · rintro ⟨bs, h⟩ a ha
    obtain ⟨b, -, hb⟩ := exists_of_mem_of_mapM_eq_ok h a ha
    exact ⟨b, hb⟩
  · intro h
    induction as with
    | nil => exact ⟨[], rfl⟩
    | cons a as ih =>
      obtain ⟨b, hb⟩ := h a List.mem_cons_self
      obtain ⟨bs, hbs⟩ := ih fun a ha ↦ h a (List.mem_cons_of_mem _ ha)
      exact ⟨b :: bs, mapM_eq_ok_iff.mpr (.cons hb (mapM_eq_ok_iff.mp hbs))⟩

namespace PlanStep

variable {g : Topology} {s : PlanStep}

/-- What a step is built from has a meaning, be it a root or not. -/
structure Worded (g : Topology) (s : PlanStep) : Prop where
  /-- Its table is there. -/
  table : ∃ table, g.resolve s.table = .ok table
  /-- Its direction is known. -/
  direction : (Direction.parse? s.direction).isSome
  /-- Its comparisons are known. -/
  predicates : ∀ f ∈ s.filters, f.predicate = "" ∨ (Predicate.ofWord? f.predicate).isSome
  /-- Its sort directions are known. -/
  orders : ∀ o ∈ s.orders, (SortOrder.ofWord? o.order).isSome

/-- What a step below another is built from has a meaning. -/
structure WordedBelow (g : Topology) (s : PlanStep) : Prop extends s.Worded g where
  /-- Its kind of element is known. -/
  element : lowerCase s.element ∈ ["", "vertex", "edge"]
  /-- It does not start from an identity. -/
  start : s.start.isNull

/-- A root and the steps below it translate. -/
structure Translates (g : Topology) (root : PlanStep) : Prop where
  /-- The root does. -/
  worded : root.Worded g
  /-- The steps below it do. -/
  below : ∀ s ∈ preorderAll root.steps, s.WordedBelow g

theorem readDirection_eq_ok_iff {direction : Direction} :
    s.readDirection = .ok direction ↔ Direction.parse? s.direction = some direction := by
  rw [readDirection]
  cases Direction.parse? s.direction <;> simp

theorem worded_iff : s.Worded g ↔ (∃ table, g.resolve s.table = .ok table) ∧
    (∃ direction, s.readDirection = .ok direction) ∧
    (∃ filters, s.filters.mapM PlanFilter.build = .ok filters) ∧
    ∃ orderings, s.orders.mapM PlanOrder.build = .ok orderings := by
  simp only [exists_mapM_eq_ok_iff, PlanFilter.exists_build_iff, PlanOrder.exists_build_iff,
    readDirection_eq_ok_iff, ← Option.isSome_iff_exists]
  exact ⟨fun h ↦ ⟨h.table, h.direction, h.predicates, h.orders⟩,
    fun h ↦ ⟨h.1, h.2.1, h.2.2.1, h.2.2.2⟩⟩

theorem exists_readElement_iff (table : Table) :
    (∃ element, s.readElement table = .ok element) ↔
      lowerCase s.element ∈ ["", "vertex", "edge"] := by
  rw [readElement]
  split <;> simp_all

theorem exists_rootSpec_iff : (∃ spec, s.rootSpec g = .ok spec) ↔ s.Worded g := by
  rw [worded_iff]
  constructor
  · rintro ⟨spec, h⟩
    obtain ⟨table, direction, filters, orderings, htable, hdirection, hfilters, horderings, -⟩ :=
      exists_of_rootSpec h
    exact ⟨⟨table, htable⟩, ⟨direction, hdirection⟩, ⟨filters, hfilters⟩, orderings, horderings⟩
  · rintro ⟨⟨table, htable⟩, ⟨direction, hdirection⟩, ⟨filters, hfilters⟩, orderings, horderings⟩
    rw [rootSpec, htable, hdirection, hfilters, horderings]
    exact ⟨_, rfl⟩

theorem exists_stepSpec_iff : (∃ spec, s.stepSpec g = .ok spec) ↔ s.WordedBelow g := by
  constructor
  · rintro ⟨spec, h⟩
    have hstart : s.start.isNull := by
      by_contra hstart
      rw [stepSpec, if_pos (by simpa using hstart)] at h
      cases h
    obtain ⟨table, direction, element, filters, orderings, htable, hdirection, helement, hfilters,
      horderings, -⟩ := exists_of_stepSpec h
    exact ⟨worded_iff.mpr ⟨⟨table, htable⟩, ⟨direction, hdirection⟩, ⟨filters, hfilters⟩, orderings,
      horderings⟩, (exists_readElement_iff table).mp ⟨element, helement⟩, hstart⟩
  · intro h
    obtain ⟨⟨table, htable⟩, ⟨direction, hdirection⟩, ⟨filters, hfilters⟩, orderings, horderings⟩ :=
      worded_iff.mp h.toWorded
    obtain ⟨element, helement⟩ := (exists_readElement_iff table).mpr h.element
    rw [stepSpec, if_neg (by simpa using h.start), htable, hdirection, hfilters, horderings]
    simp only [Except.mapError, bind, Except.bind, helement]
    exact ⟨_, rfl⟩

mutual

/-- A step can be added to any tree exactly if it and the steps below it translate. -/
theorem exists_addTo_iff : ∀ {s : PlanStep} {t : Tree} {above : NodeId},
    (∃ u, s.addTo g t above = .ok u) ↔ ∀ c ∈ s.preorder, c.WordedBelow g
  | ⟨table, direction, element, start, labels, filters, orders, edgeVertex, isOptional, emits,
      steps⟩, _, _ => by
    simp only [addTo_eq_ok_iff, preorder_eq, List.forall_mem_cons]
    rw [exists_comm]
    simp only [exists_and_left, exists_addAllTo_iff, exists_and_right, exists_stepSpec_iff]

theorem exists_addAllTo_iff : ∀ {ss : List PlanStep} {t : Tree} {above : NodeId},
    (∃ u, addAllTo g t above ss = .ok u) ↔ ∀ c ∈ preorderAll ss, c.WordedBelow g
  | [], t, _ => by simp [addAllTo, preorderAll]
  | s :: ss, _, _ => by
    simp only [addAllTo, preorderAll, List.forall_mem_append, bind_eq_ok_iff]
    rw [exists_comm]
    simp only [exists_and_left, exists_addAllTo_iff, exists_and_right, exists_addTo_iff]

end

theorem exists_tree_iff : (∃ t, s.tree g = .ok t) ↔ s.Translates g := by
  simp only [tree, bind_eq_ok_iff]
  rw [exists_comm]
  simp only [exists_and_left, exists_addAllTo_iff, exists_and_right, exists_rootSpec_iff]
  exact ⟨fun h ↦ ⟨h.1, h.2⟩, fun h ↦ ⟨h.worded, h.below⟩⟩

end PlanStep

/-! ## Places -/

/-- Where a step of a description is put. -/
structure StepPlace where
  /-- The step. -/
  step : PlanStep
  /-- Its position in the arena. -/
  id : NodeId
  /-- The position of the step above, none for the root. -/
  above : Option NodeId
  /-- How many steps lie above. -/
  depth : ℕ

namespace PlanStep

/-- The positions of siblings, the first of them at `id`. The steps below one stand in between. -/
def siblings (id : NodeId) : List PlanStep → List NodeId
  | [] => []
  | s :: ss => id :: siblings (id + s.preorder.length) ss

mutual

/-- The places of a step at `id` and of the steps below it. -/
def places (above : Option NodeId) (depth : ℕ) (id : NodeId) : PlanStep → List StepPlace
  | ⟨table, direction, element, start, labels, filters, orders, edgeVertex, isOptional, emits,
      steps⟩ =>
    ⟨⟨table, direction, element, start, labels, filters, orders, edgeVertex, isOptional, emits,
      steps⟩, id, above, depth⟩ :: placesAll (some id) (depth + 1) (id + 1) steps

/-- The places of siblings, the first of them at `id`, and of the steps below them. -/
def placesAll (above : Option NodeId) (depth : ℕ) (id : NodeId) : List PlanStep → List StepPlace
  | [] => []
  | s :: ss => s.places above depth id ++ placesAll above depth (id + s.preorder.length) ss

end

theorem places_eq (s : PlanStep) (above : Option NodeId) (depth : ℕ) (id : NodeId) :
    s.places above depth id =
      ⟨s, id, above, depth⟩ :: placesAll (some id) (depth + 1) (id + 1) s.steps := by
  obtain ⟨table, direction, element, start, labels, filters, orders, edgeVertex, isOptional, emits,
    steps⟩ := s
  rw [places]

mutual

/-- Steps are put in the order of their description. -/
theorem map_step_places : ∀ (s : PlanStep) (above : Option NodeId) (depth : ℕ) (id : NodeId),
    (s.places above depth id).map (·.step) = s.preorder
  | ⟨_, _, _, _, _, _, _, _, _, _, steps⟩, _, _, _ => by
    rw [places_eq, preorder_eq, List.map_cons, map_step_placesAll]

theorem map_step_placesAll : ∀ (ss : List PlanStep) (above : Option NodeId) (depth : ℕ)
    (id : NodeId), (placesAll above depth id ss).map (·.step) = preorderAll ss
  | [], _, _, _ => rfl
  | s :: ss, _, _, _ => by
    rw [placesAll, preorderAll, List.map_append, map_step_places, map_step_placesAll]

end

theorem length_places (s : PlanStep) (above : Option NodeId) (depth : ℕ) (id : NodeId) :
    (s.places above depth id).length = s.preorder.length := by
  rw [← map_step_places s above depth id, List.length_map]

mutual

/-- They are put one after the other. -/
theorem map_id_places : ∀ (s : PlanStep) (above : Option NodeId) (depth : ℕ) (id : NodeId),
    (s.places above depth id).map (·.id) = List.range' id s.preorder.length
  | ⟨_, _, _, _, _, _, _, _, _, _, steps⟩, _, _, _ => by
    rw [places_eq, preorder_eq, List.map_cons, map_id_placesAll, List.length_cons,
      List.range'_succ]

theorem map_id_placesAll : ∀ (ss : List PlanStep) (above : Option NodeId) (depth : ℕ)
    (id : NodeId), (placesAll above depth id ss).map (·.id) = List.range' id (preorderAll ss).length
  | [], _, _, _ => rfl
  | s :: ss, _, _, _ => by
    rw [placesAll, preorderAll, List.map_append, map_id_places, map_id_placesAll,
      List.length_append, List.range'_append_1]

end

/-- The table stores the kind of element that the step asks for, by default whichever it stores. -/
def Suits (s : PlanStep) (table : Table) : Prop :=
  lowerCase s.element = "" ∧ (table.isVertex ∨ table.isEdge) ∨
    lowerCase s.element = "vertex" ∧ table.isVertex ∨ lowerCase s.element = "edge" ∧ table.isEdge

theorem admits_iff_suits {s : PlanStep} {table : Table} {element : StepElement}
    (h : s.readElement table = .ok element) : element.admits table ↔ s.Suits table := by
  rw [readElement] at h
  rw [Suits]
  split at h
  · next hword =>
    rw [← Except.ok.inj h, hword]
    by_cases hedge : table.isEdge <;> simp [hedge, StepElement.admits]
  · next hword =>
    rw [← Except.ok.inj h, hword]
    simp [StepElement.admits]
  · next hword =>
    rw [← Except.ok.inj h, hword]
    simp [StepElement.admits]
  · cases h

end PlanStep

/-- The step of a place, as a tree holds it. -/
structure StepPlace.HeldBy (g : Topology) (p : StepPlace) (n : Node) : Prop where
  /-- It stands below the step above it. -/
  above : n.parent = p.above
  /-- It is as deep as its description is nested. -/
  depth : n.depth = p.depth
  /-- The steps below it are those of its description, in order. -/
  children : n.children = PlanStep.siblings (p.id + 1) p.step.steps
  /-- It has not been removed. -/
  live : n.removed = false
  /-- It has the table that it refers to. -/
  table : g.resolve p.step.table = .ok n.table
  /-- It has the direction that it names. -/
  direction : Direction.parse? p.step.direction = some n.direction
  /-- Its labels are in order, without repeats, -/
  labels_lt : n.labels.Pairwise (· < ·)
  /-- and those of its description. -/
  mem_labels : ∀ {label}, label ∈ n.labels ↔ label ∈ p.step.labels
  /-- A root starts from an identity or from all elements, and has no marks. -/
  root : p.above = none → n.step = (if p.step.start.isNull then .graph else .vertex) ∧
    n.isOptional = false ∧ n.emits = false
  /-- Another step moves as it says, and has the marks of its description. -/
  below : p.above ≠ none → n.step = (if p.step.edgeVertex then .edgeVertex else .vertex) ∧
    n.isOptional = p.step.isOptional ∧ n.emits = p.step.emits
  /-- A root, or a step whose table stores what it asks for, has its filters and sort terms. -/
  held : p.above = none ∨ p.step.Suits n.table →
    Forall₂ PlanFilter.HeldAs p.step.filters n.filters ∧
      Forall₂ PlanOrder.HeldAs p.step.orders n.orderings
  /-- Another step has none. -/
  dropped : p.above ≠ none → ¬ p.step.Suits n.table → n.filters = [] ∧ n.orderings = []

/-- The positions of the steps with no steps below. -/
def childless (places : List StepPlace) : List NodeId :=
  (places.filter (·.step.steps.isEmpty)).map (·.id)

/-- The tree is that of the description. -/
structure Tree.Mirrors (t : Tree) (g : Topology) (root : PlanStep) : Prop where
  /-- Its arena has the steps of the description in their places. -/
  steps : Forall₂ (StepPlace.HeldBy g) (root.places none 0 rootId) t.nodes.toList
  /-- Its leaves are the steps with no steps below, in order. -/
  leaves : t.leaves = childless (root.places none 0 rootId)
  /-- It starts from the identity of the description. -/
  start : root.start.HeldAs t.start

/-! ## Growing the arena -/

/-- A step with more steps below it. -/
def Node.adopt (n : Node) (ids : List NodeId) : Node := { n with children := n.children ++ ids }

namespace Tree

variable {g : Topology} {t u v : Tree} {above : NodeId} {ids ids' : List NodeId}
  {places places' : List StepPlace}

/-- Steps in places of their own have been put at the end of the arena, some of them below the step
`above`, which is a leaf no more if there are any. -/
structure GrownBy (g : Topology) (t : Tree) (above : NodeId) (ids : List NodeId)
    (places : List StepPlace) (u : Tree) : Prop where
  /-- The step above has more children, the others stay as they are. -/
  nodes : ∃ ns, u.nodes.toList = t.nodes.toList.modify above (·.adopt ids) ++ ns ∧
    Forall₂ (StepPlace.HeldBy g) places ns
  /-- The new leaves follow the old ones. -/
  leaves : u.leaves = (if ids = [] then t.leaves else t.leaves.filter (· ≠ above)) ++
    childless places

theorem modify_append_of_lt {α : Type} {xs ys : List α} {i : ℕ} {f : α → α} (h : i < xs.length) :
    (xs ++ ys).modify i f = xs.modify i f ++ ys := by
  rw [List.modify_eq_take_cons_drop (by rw [List.length_append]; omega),
    List.modify_eq_take_cons_drop h, List.take_append_of_le_length h.le,
    List.drop_append_of_le_length h, List.getElem_append_left h, List.append_assoc,
    List.cons_append]

theorem adopt_nil (n : Node) : n.adopt [] = n := by rw [Node.adopt, List.append_nil]

theorem adopt_adopt (n : Node) (ids ids' : List NodeId) :
    (n.adopt ids).adopt ids' = n.adopt (ids ++ ids') := by
  simp [Node.adopt]

theorem childless_cons (p : StepPlace) (places : List StepPlace) :
    childless (p :: places) = (if p.step.steps = [] then [p.id] else []) ++ childless places := by
  rw [childless, List.filter_cons]
  by_cases hsteps : p.step.steps = [] <;> simp [hsteps, childless]

theorem childless_append (places places' : List StepPlace) :
    childless (places ++ places') = childless places ++ childless places' := by
  rw [childless, List.filter_append, List.map_append]
  rfl

theorem exists_of_mem_childless {id : NodeId} (h : id ∈ childless places) :
    ∃ p ∈ places, p.id = id := by
  obtain ⟨p, hp, hid⟩ := List.mem_map.mp h
  exact ⟨p, List.mem_of_mem_filter hp, hid⟩

namespace GrownBy

theorem nil (t : Tree) (above : NodeId) : t.GrownBy g above [] [] t where
  nodes := by
    have hsame : (fun n : Node ↦ n.adopt []) = id := funext adopt_nil
    exact ⟨[], by rw [hsame, List.modify_id, List.append_nil], .nil⟩
  leaves := by simp [childless]

theorem size_eq (h : t.GrownBy g above ids places u) :
    u.nodes.size = t.nodes.size + places.length := by
  obtain ⟨ns, hnodes, hheld⟩ := h.nodes
  rw [← Array.length_toList, hnodes, List.length_append, List.length_modify, hheld.length_eq,
    Array.length_toList]

/-- What is in the arena stays as deep as it is. -/
theorem depth_eq (h : t.GrownBy g above ids places u) {id depth : ℕ}
    (hid : t.nodes[id]?.map (·.depth) = some depth) :
    u.nodes[id]?.map (·.depth) = some depth := by
  obtain ⟨ns, hnodes, -⟩ := h.nodes
  obtain ⟨n, hn, rfl⟩ := Option.map_eq_some_iff.mp hid
  obtain ⟨hlt, -⟩ := Array.getElem?_eq_some_iff.mp hn
  rw [← Array.getElem?_toList, hnodes, List.getElem?_append_left (by simpa using hlt),
    List.getElem?_modify, Array.getElem?_toList, hn]
  split <;> rfl

theorem leaves_lt (h : t.GrownBy g above ids places u)
    (hleaves : ∀ id ∈ t.leaves, id < t.nodes.size) (hplaces : ∀ p ∈ places, p.id < u.nodes.size) :
    ∀ id ∈ u.leaves, id < u.nodes.size := by
  intro id hid
  rw [h.leaves, List.mem_append] at hid
  rcases hid with hold | hnew
  · have hmem : id ∈ t.leaves := by
      split at hold
      · exact hold
      · exact List.mem_of_mem_filter hold
    exact (hleaves id hmem).trans_le (h.size_eq ▸ Nat.le_add_right _ _)
  · obtain ⟨p, hp, rfl⟩ := exists_of_mem_childless hnew
    exact hplaces p hp

theorem trans (habove : above < t.nodes.size) (hplaces : ∀ p ∈ places, p.id ≠ above)
    (h : t.GrownBy g above ids places v) (h' : v.GrownBy g above ids' places' u) :
    t.GrownBy g above (ids ++ ids') (places ++ places') u where
  nodes := by
    obtain ⟨ns, hnodes, hheld⟩ := h.nodes
    obtain ⟨ns', hnodes', hheld'⟩ := h'.nodes
    refine ⟨ns ++ ns', ?_, List.rel_append hheld hheld'⟩
    rw [hnodes', hnodes, modify_append_of_lt (by simpa using habove), List.modify_modify_eq,
      List.append_assoc]
    congr 2
    exact funext fun n ↦ adopt_adopt n ids ids'
  leaves := by
    have hchildless : ∀ id ∈ childless places, id ≠ above := by
      intro id hid
      obtain ⟨p, hp, rfl⟩ := exists_of_mem_childless hid
      exact hplaces p hp
    rw [h'.leaves, h.leaves, childless_append, ← List.append_assoc]
    congr 1
    by_cases hids' : ids' = []
    · simp [hids']
    · by_cases hids : ids = [] <;> simpa [hids, hids', List.filter_append] using hchildless

end GrownBy

/-- The node of a step below another, with the steps below it. -/
theorem heldBy_childNode {s : PlanStep} {spec : StepSpec} (hspec : s.stepSpec g = .ok spec)
    (id : NodeId) (n : Node) : StepPlace.HeldBy g ⟨s, id, some above, n.depth + 1⟩
      ((childNode above n spec).adopt (PlanStep.siblings (id + 1) s.steps)) := by
  obtain ⟨table, direction, element, filters, orderings, htable, hdirection, helement, hfilters,
    horderings, rfl⟩ := PlanStep.exists_of_stepSpec hspec
  have hsuits := PlanStep.admits_iff_suits helement
  constructor
  case above => rfl
  case depth => rfl
  case children => exact List.nil_append _
  case live => rfl
  case table => exact htable
  case direction => exact PlanStep.readDirection_eq_ok_iff.mp hdirection
  case labels_lt => exact pairwise_lt_sortLabels _
  case mem_labels => exact mem_sortLabels
  case root => exact nofun
  case below => exact fun _ ↦ ⟨rfl, rfl, rfl⟩
  case held =>
    rintro (hroot | hkind)
    · cases hroot
    · have hkept := hsuits.mpr hkind
      simp only [Node.adopt, childNode, if_pos hkept]
      exact ⟨(mapM_eq_ok_iff.mp hfilters).imp fun _ _ ↦ PlanFilter.heldAs_of_build,
        (mapM_eq_ok_iff.mp horderings).imp fun _ _ ↦ PlanOrder.heldAs_of_build⟩
  case dropped =>
    intro _ hkind
    have hlost := hsuits.not.mpr hkind
    simp only [Node.adopt, childNode, if_neg hlost, and_self]

theorem modify_append_singleton {α : Type} {xs : List α} {i : ℕ} (hi : xs.length = i) (x : α)
    (f : α → α) : (xs ++ [x]).modify i f = xs ++ [f x] := by
  subst hi
  rw [List.modify_eq_take_cons_drop (by simp), List.take_left, List.getElem_concat_length rfl]
  simp

theorem siblings_eq_nil_iff {id : NodeId} {ss : List PlanStep} :
    PlanStep.siblings id ss = [] ↔ ss = [] := by
  cases ss <;> simp [PlanStep.siblings]

theorem leaves_lt_addChild? {spec : StepSpec} (hleaves : ∀ id ∈ t.leaves, id < t.nodes.size)
    (hadd : t.addChild? above spec = some v) : ∀ id ∈ v.leaves, id < v.nodes.size := by
  obtain ⟨-, -, hsize, -⟩ := exists_nodes_addChild? hadd
  obtain ⟨n, hn, rfl⟩ := Option.map_eq_some_iff.mp hadd
  rw [hsize]
  refine List.forall_mem_append.mpr ⟨fun id hid ↦ ?_, ?_⟩
  · exact Nat.lt_succ_of_lt (hleaves id (List.mem_of_mem_filter hid))
  · exact List.forall_mem_singleton.mpr (Nat.lt_succ_self _)

/-- A step is put at the end of the arena, and then the steps below it. -/
theorem grownBy_of_addChild? {s : PlanStep} {spec : StepSpec} {depth : ℕ}
    (hspec : s.stepSpec g = .ok spec) (hdepth : t.nodes[above]?.map (·.depth) = some depth)
    (hleaves : ∀ id ∈ t.leaves, id < t.nodes.size) (hadd : t.addChild? above spec = some v)
    (h : v.GrownBy g t.nodes.size (PlanStep.siblings (t.nodes.size + 1) s.steps)
      (PlanStep.placesAll (some t.nodes.size) (depth + 2) (t.nodes.size + 1) s.steps) u) :
    t.GrownBy g above [t.nodes.size] (s.places (some above) (depth + 1) t.nodes.size) u := by
  obtain ⟨n, hn, rfl⟩ := Option.map_eq_some_iff.mp hdepth
  obtain ⟨n', hn', rfl⟩ := Option.map_eq_some_iff.mp hadd
  obtain rfl : n = n' := Option.some.inj (hn.symm.trans hn')
  obtain ⟨ns, hnodes, hheld⟩ := h.nodes
  rw [PlanStep.places_eq]
  refine ⟨⟨_, ?_, .cons (heldBy_childNode hspec _ n) hheld⟩, ?_⟩
  · have hlength :
        (t.nodes.toList.modify above (·.adopt [t.nodes.size])).length = t.nodes.size := by simp
    rw [hnodes, Array.toList_push, Array.toList_modify]
    exact (congrArg (· ++ ns) (modify_append_singleton hlength _ _)).trans (List.append_assoc _ _ _)
  · have hold : (t.leaves.filter (· ≠ above)).filter (· ≠ t.nodes.size) =
        t.leaves.filter (· ≠ above) := by
      refine List.filter_eq_self.mpr fun id hid ↦ decide_eq_true ?_
      exact (hleaves id (List.mem_of_mem_filter hid)).ne
    rw [h.leaves, childless_cons, ← List.append_assoc]
    congr 1
    by_cases hsteps : s.steps = []
    · simp [hsteps, PlanStep.siblings]
    · rw [if_neg (siblings_eq_nil_iff.not.mpr hsteps), if_neg hsteps, if_neg (List.cons_ne_nil _ _),
        List.filter_append, hold]
      simp

end Tree

namespace PlanStep

variable {g : Topology} {root : PlanStep} {t : Tree}

theorem id_of_mem_places {s : PlanStep} {above : Option NodeId} {depth id : ℕ} {p : StepPlace}
    (hp : p ∈ s.places above depth id) : id ≤ p.id ∧ p.id < id + s.preorder.length := by
  have hid := List.mem_map_of_mem (f := (·.id)) hp
  rwa [map_id_places, List.mem_range'_1] at hid

mutual

/-- A step is put below another with the steps below it. -/
theorem grownBy_of_addTo : ∀ {s : PlanStep} {t u : Tree} {above : NodeId} {depth : ℕ},
    t.nodes[above]?.map (·.depth) = some depth → (∀ id ∈ t.leaves, id < t.nodes.size) →
    s.addTo g t above = .ok u →
    t.GrownBy g above [t.nodes.size] (s.places (some above) (depth + 1) t.nodes.size) u
  | ⟨_, _, _, _, _, _, _, _, _, _, steps⟩, t, u, above, depth, hdepth, hleaves, hu => by
    obtain ⟨spec, hspec, hu⟩ := addTo_eq_ok_iff.mp hu
    obtain ⟨n, hn, rfl⟩ := Option.map_eq_some_iff.mp hdepth
    obtain ⟨v, hadd⟩ : ∃ v, t.addChild? above spec = some v := ⟨_, by rw [Tree.addChild?, hn]; rfl⟩
    rw [hadd, Option.getD_some] at hu
    obtain ⟨n', hn', hsize, hget⟩ := Tree.exists_nodes_addChild? hadd
    obtain rfl : n = n' := Option.some.inj (hn.symm.trans hn')
    have hput : v.nodes[t.nodes.size]?.map (·.depth) = some (n.depth + 1) := by
      rw [hget, if_pos rfl]
      rfl
    have hbelow := grownBy_of_addAllTo hput (Tree.leaves_lt_addChild? hleaves hadd) hu
    rw [hsize] at hbelow
    exact Tree.grownBy_of_addChild? hspec hdepth hleaves hadd hbelow

theorem grownBy_of_addAllTo : ∀ {ss : List PlanStep} {t u : Tree} {above : NodeId} {depth : ℕ},
    t.nodes[above]?.map (·.depth) = some depth → (∀ id ∈ t.leaves, id < t.nodes.size) →
    addAllTo g t above ss = .ok u →
    t.GrownBy g above (siblings t.nodes.size ss)
      (placesAll (some above) (depth + 1) t.nodes.size ss) u
  | [], _, _, _, _, _, _, hu => by
    obtain rfl := Except.ok.inj hu
    exact .nil _ _
  | s :: ss, t, u, above, depth, hdepth, hleaves, hu => by
    rw [addAllTo, bind_eq_ok_iff] at hu
    obtain ⟨v, hv, hu⟩ := hu
    have hfirst := grownBy_of_addTo hdepth hleaves hv
    have hsize : v.nodes.size = t.nodes.size + s.preorder.length :=
      hfirst.size_eq.trans (by rw [length_places])
    have hplaces : ∀ p ∈ s.places (some above) (depth + 1) t.nodes.size,
        t.nodes.size ≤ p.id ∧ p.id < v.nodes.size :=
      fun p hp ↦ hsize ▸ id_of_mem_places hp
    have hrest := grownBy_of_addAllTo (hfirst.depth_eq hdepth)
      (hfirst.leaves_lt hleaves fun p hp ↦ (hplaces p hp).2) hu
    obtain ⟨n, hn, -⟩ := Option.map_eq_some_iff.mp hdepth
    obtain ⟨habove, -⟩ := Array.getElem?_eq_some_iff.mp hn
    rw [hsize] at hrest
    exact .trans habove (fun p hp ↦ (habove.trans_le (hplaces p hp).1).ne') hfirst hrest

end

/-- The node of a root, with the steps below it. -/
theorem heldBy_ofRoot {spec : RootSpec} {n : Node} (hspec : root.rootSpec g = .ok spec)
    (hn : (Tree.ofRoot (some g) spec).nodes.toList = [n]) :
    StepPlace.HeldBy g ⟨root, rootId, none, 0⟩ (n.adopt (siblings (rootId + 1) root.steps)) := by
  obtain ⟨table, direction, filters, orderings, htable, hdirection, hfilters, horderings, rfl⟩ :=
    exists_of_rootSpec hspec
  obtain rfl := (List.singleton_inj.mp hn).symm
  constructor
  case above => rfl
  case depth => rfl
  case children => exact List.nil_append _
  case live => rfl
  case table => exact htable
  case direction => exact readDirection_eq_ok_iff.mp hdirection
  case labels_lt => exact Tree.pairwise_lt_sortLabels _
  case mem_labels => exact mem_sortLabels
  case root => exact fun _ ↦ ⟨rfl, rfl, rfl⟩
  case below => exact fun hroot ↦ absurd rfl hroot
  case held =>
    exact fun _ ↦ ⟨(mapM_eq_ok_iff.mp hfilters).imp fun _ _ ↦ PlanFilter.heldAs_of_build,
      (mapM_eq_ok_iff.mp horderings).imp fun _ _ ↦ PlanOrder.heldAs_of_build⟩
  case dropped => exact fun hroot ↦ absurd rfl hroot

theorem mirrors_tree (h : root.tree g = .ok t) : t.Mirrors g root := by
  have hstart := (holds_tree h).start
  obtain ⟨spec, hspec, ht⟩ := bind_eq_ok_iff.mp h
  have hleaves : ∀ id ∈ (Tree.ofRoot (some g) spec).leaves,
      id < (Tree.ofRoot (some g) spec).nodes.size := by simp [Tree.ofRoot]
  have hdepth : (Tree.ofRoot (some g) spec).nodes[rootId]?.map (·.depth) = some 0 := rfl
  have hgrown := grownBy_of_addAllTo hdepth hleaves ht
  obtain ⟨ns, hnodes, hheld⟩ := hgrown.nodes
  refine ⟨?_, ?_, hstart⟩
  · rw [places_eq, hnodes]
    exact .cons (heldBy_ofRoot hspec rfl) hheld
  · have hroot : (if siblings (rootId + 1) root.steps = [] then [rootId]
        else [rootId].filter (· ≠ rootId)) = if root.steps = [] then [rootId] else [] := by
      simp [Tree.siblings_eq_nil_iff]
    rw [hgrown.leaves, places_eq, Tree.childless_cons]
    exact congrArg (· ++ _) hroot

end PlanStep

/-! ## Plans -/

namespace Plan

variable {p : Plan} {g : Topology}

theorem exists_of_build_eq_error {e : BuildError} (h : p.build g = .error e) :
    ∃ root, p.roots[e.root]? = some root ∧ root.tree g = .error e.fault := by
  obtain ⟨⟨root, i⟩, hmem, hroot⟩ := exists_of_mapM_eq_error h
  rw [buildRoot] at hroot
  cases htree : root.tree g with
  | error fault =>
    rw [htree] at hroot
    obtain rfl : BuildError.mk i fault = e := Except.error.inj hroot
    exact ⟨root, List.mem_zipIdx_iff_getElem?.mp hmem, htree⟩
  | ok t =>
    rw [htree] at hroot
    cases hroot

theorem prefix_message (e : BuildError) :
    ("invalid plan: root " ++ toString e.root ++ ": ").toList <+: e.message.toList := by
  have hmessage : e.message.toList =
      ("invalid plan: root " ++ toString e.root ++ ": ").toList ++ e.fault.message.toList :=
    String.toList_append
  rw [hmessage]
  exact List.prefix_append _ _

/-- **Building mirrors the description.** A root has a tree exactly if it and the steps below it
translate, and then the tree is that of the description: its steps are in the places that number the
description, a step before the steps below it. A plan builds into the trees of its roots, pruned,
exactly if all of them translate; otherwise the error tells of a root that does not. -/
theorem build_mirrors (p : Plan) (g : Topology) :
    (∀ root : PlanStep, (∃ t, root.tree g = .ok t) ↔ root.Translates g) ∧
    (∀ (root : PlanStep) t, root.tree g = .ok t → t.Mirrors g root ∧
      (root.places none 0 rootId).map (·.step) = root.preorder ∧
      (root.places none 0 rootId).map (·.id) = List.range' rootId t.nodes.size) ∧
    match p.build g with
    | .ok trees => (∀ root ∈ p.roots, root.Translates g) ∧
      Forall₂ (fun root v ↦ ∃ t, root.tree g = .ok t ∧ p.prune t = v) p.roots trees
    | .error e => (∃ root, p.roots[e.root]? = some root ∧ ¬ root.Translates g) ∧
      ("invalid plan: root " ++ toString e.root ++ ": ").toList <+: e.message.toList := by
  refine ⟨fun root ↦ PlanStep.exists_tree_iff, fun root t ht ↦ ?_, ?_⟩
  · have ht' := PlanStep.mirrors_tree ht
    refine ⟨ht', root.map_step_places .., (root.map_id_places ..).trans ?_⟩
    rw [← Array.length_toList, ← ht'.steps.length_eq, PlanStep.length_places]
  split
  · next trees hbuild =>
    have htrees := build_eq_ok_iff.mp hbuild
    refine ⟨fun root hroot ↦ ?_, htrees⟩
    obtain ⟨v, -, t, ht, -⟩ := exists_of_mem_forall₂ htrees hroot
    exact PlanStep.exists_tree_iff.mp ⟨t, ht⟩
  · next e hbuild =>
    obtain ⟨root, hroot, hfault⟩ := exists_of_build_eq_error hbuild
    refine ⟨⟨root, hroot, fun htranslates ↦ ?_⟩, prefix_message e⟩
    obtain ⟨t, ht⟩ := PlanStep.exists_tree_iff.mpr htranslates
    rw [hfault] at ht
    cases ht

/-! ### Marks of a root -/

/-- A root that is to emit. -/
def emittingRoot : PlanStep := { table := "V_a", emits := true }

/-- A root that asks for a kind of element that there is not. -/
def facelessRoot : PlanStep := { table := "V_a", element := "face" }

/-- Below the root everything is taken from the description, but a root has no marks, and is built
whatever it asks for. -/
theorem unmarked_emittingRoot : emittingRoot.Translates arrowGraph ∧
    (∃ t, emittingRoot.tree arrowGraph = .ok t ∧
      ¬ Forall₂ (fun p n ↦ n.isOptional = p.step.isOptional ∧ n.emits = p.step.emits)
        (emittingRoot.places none 0 rootId) t.nodes.toList) ∧
    (∀ table element, facelessRoot.readElement table ≠ .ok element) ∧
    ∃ t, facelessRoot.tree arrowGraph = .ok t := by
  have hmarks : (emittingRoot.tree arrowGraph).map (·.nodes.toList.map (·.emits)) =
      .ok [false] := by decide +kernel
  obtain ⟨t, ht, hemits⟩ := map_eq_ok_iff.mp hmarks
  have hword : ¬ lowerCase facelessRoot.element ∈ ["", "vertex", "edge"] := by decide +kernel
  refine ⟨PlanStep.exists_tree_iff.mp ⟨t, ht⟩, ⟨t, ht, fun hsame ↦ ?_⟩, fun table element h ↦ ?_,
    ?_⟩
  · rw [PlanStep.places_eq] at hsame
    obtain ⟨n, ns, ⟨-, hn⟩, -, hnodes⟩ := List.forall₂_cons_left_iff.mp hsame
    rw [hnodes, List.map_cons, hn] at hemits
    cases hemits
  · exact hword ((PlanStep.exists_readElement_iff table).mp ⟨element, h⟩)
  · have hbuilt : (facelessRoot.tree arrowGraph).map (·.nodes.size) = .ok 1 := by decide +kernel
    obtain ⟨t, ht, -⟩ := map_eq_ok_iff.mp hbuilt
    exact ⟨t, ht⟩

/-! ### Branches -/

/-- Edges that lead on, and then edges that do not, with a filter that vertices would have. -/
def branches : PlanStep where
  table := "V_a"
  labels := ["y", "x", "y"]
  steps := [
    { table := "E_e", steps := [{ table := "V_a", isOptional := true }] },
    { table := "E_e", element := "vertex", filters := [{ key := idKey, value := .int .word 5 }] }]

/-- A second root that does not translate. -/
def sidewaysRoot : PlanStep := { table := "V_a", direction := "sideways" }

/-- The steps of the branches are in their places, and a plan with the second root fails. -/
theorem mirrors_branches : (∃ t, branches.tree arrowGraph = .ok t ∧
      t.Mirrors arrowGraph branches ∧ t.leaves = [2, 3] ∧
      t.nodes.toList.map (fun n ↦ (n.parent, n.depth, n.children, n.filters.length)) =
        [(none, 0, [1, 3], 0), (some 0, 1, [2], 0), (some 1, 2, [], 0), (some 0, 1, [], 0)]) ∧
    ¬ sidewaysRoot.Translates arrowGraph ∧
    ∃ e, ({ roots := [branches, sidewaysRoot] } : Plan).build arrowGraph = .error e ∧
      ("invalid plan: root " ++ toString e.root ++ ": ").toList <+: e.message.toList := by
  obtain ⟨-, hmirrors, hbuild⟩ := build_mirrors { roots := [branches, sidewaysRoot] } arrowGraph
  have hsideways : ¬ sidewaysRoot.Translates arrowGraph := by
    intro h
    have hdirection : Direction.parse? "sideways" = none := by decide +kernel
    have hknown : (Direction.parse? "sideways").isSome := h.worded.direction
    rw [hdirection] at hknown
    cases hknown
  refine ⟨?_, hsideways, ?_⟩
  · have hdata : (branches.tree arrowGraph).map (fun t ↦ t.nodes.toList.map fun n ↦
        (n.parent, n.depth, n.children, n.filters.length)) =
          .ok [(none, 0, [1, 3], 0), (some 0, 1, [2], 0), (some 1, 2, [], 0),
            (some 0, 1, [], 0)] := by decide +kernel
    obtain ⟨t, ht, hnodes⟩ := map_eq_ok_iff.mp hdata
    have ht' := (hmirrors branches t ht).1
    exact ⟨t, ht, ht', ht'.leaves.trans (by decide +kernel), hnodes⟩
  · split at hbuild
    · next trees htrees => exact absurd (hbuild.1 sidewaysRoot (by simp)) hsideways
    · next e he => exact ⟨e, he, hbuild.2⟩

end Plan

end PathQuery
