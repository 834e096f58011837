import PathQuery.Proofs.Compile.Clauses

/-!
# What a path compiles to

A select is put together from three parts: the joins of its steps, the joins of the optional
branches, and what its filters have become. A path is cut into *runs*, each of which becomes one
select; a path without repeated tables is a single run. The statements below say which parts a
compiled path has and which slots it has registered, run by run, and mention neither the state of
the compiler nor the order in which it works.
-/

namespace PathQuery

/-- The aliases of a query, in the order it projects them. -/
def Query.names : Query → List String
  | .single s => s.projections.map (·.name)
  | .split s => s.projections.map (·.name)

/-- Consecutive steps of a path that are joined in one select. -/
structure Run where
  /-- The steps, top down. -/
  ids : List NodeId
  /-- Whether the path starts here. -/
  starts : Bool
  /-- Whether the path ends here. -/
  ends : Bool

namespace Run

/-- The runs of a path that has been cut into segments; the root belongs to the first. -/
def ofSegments : Bool → List (List NodeId) → List Run
  | _, [] => []
  | starts, segment :: rest =>
    ⟨if starts then rootId :: segment else segment, starts, rest.isEmpty⟩ :: ofSegments false rest

/-- The only run of a path without repeated tables. -/
def whole (p : Path) : Run := ⟨p.all, true, true⟩

/-- The slots that a derived table gives aliases to. -/
def slots (t : Tree) (p : Path) (needed : List (NodeId × String)) (r : Run) : List Slot :=
  t.shownSlots p.leaf r.ids ++ t.helperSlots p.leaf needed r.ids

end Run

/-- What a select is put together from. -/
structure SelectParts where
  /-- The joins of the steps after the first. -/
  chain : List Join
  /-- The joins of the optional branches. -/
  optional : List Join
  /-- What the filters have become. -/
  clauses : FilterClauses

namespace SelectParts

/-- The select of a run. -/
def select (parts : SelectParts) (t : Tree) (p : Path) (projected : List Projected) (r : Run)
    (order : List SortColumn) : Select where
  projections := projected.map (Projected.projection p)
  table := t.tableOf (r.ids.headD rootId)
  source := p.source (r.ids.headD rootId)
  joins := parts.chain ++ parts.clauses.joins ++ parts.optional
  conditions := (if r.starts then t.startConditions p else []) ++ parts.clauses.conditions ++
    Join.absences parts.optional
  order := order

/-- The parts belong to a run whose statement has the membership tables `tables` so far. -/
structure Fit (parts : SelectParts) (c : Compiler) (t : Tree) (p : Path)
    (branches : List NodeId) (tables : List MembershipTable) (r : Run) : Prop where
  /-- Every step of the run has been found. -/
  live : ∀ id ∈ r.ids, ∃ n, t.node? id = some n
  /-- Every step but the first is joined to the one above it. -/
  chain : t.stepJoins p (r.ids.drop 1) = .ok parts.chain
  /-- The last run joins the branches. -/
  optional : (if r.ends then t.branchJoins c.dialect p branches else .ok []) = .ok parts.optional
  /-- The filters are those of the steps. -/
  clauses : ({ tables } : FilterClauses).Grows t c.dialect parts.clauses (r.ids.flatMap (t.sites p))
  /-- They have been compiled one after the other. -/
  walked : ∃ s s', (r.ids.foldlM (CompileM.addFilters c t p) { tables }).Yields s parts.clauses s'

/-- The select of a run has been written on the way from one draft to another: opened with the
joins, gone on with while the filters were walked over, and closed. -/
def Written (parts : SelectParts) (c : Compiler) (t : Tree) (p : Path)
    (tables : List MembershipTable) (r : Run) (q : Select) (w w' : Draft) : Prop :=
  ∃ s s', s.draft = (Draft.openSelect c.dialect parts.chain parts.optional
      (if r.starts then t.startConditions p else []) w).2 ∧
    (r.ids.foldlM (CompileM.addFilters c t p) { tables }).Yields s parts.clauses s' ∧
    w' = (Draft.closeSelect c.dialect q.projections q.table q.source q.order s'.draft).2

end SelectParts

/-- The join of a step is with a table, and compares two columns. -/
theorem Tree.exists_of_mem_stepJoins {t : Tree} {p : Path} {ids : List NodeId} {js : List Join}
    (h : t.stepJoins p ids = .ok js) {j : Join} (hj : j ∈ js) :
    ∃ table l r, j.relation = .table table ∧ j.conditions = [.same l r] := by
  obtain ⟨id, -, hjoin⟩ := exists_of_mem_right_of_mapM_eq_ok h j hj
  obtain ⟨n, -, h₁⟩ := bind_eq_ok_iff.mp hjoin
  obtain ⟨above, -, h₂⟩ := bind_eq_ok_iff.mp h₁
  obtain ⟨c, -, h₃⟩ := bind_eq_ok_iff.mp h₂
  obtain rfl := Except.ok.inj h₃
  exact ⟨_, _, _, rfl, rfl⟩

/-- The derived table of a run, the next alias being the `k`-th. -/
def Run.segment (t : Tree) (p : Path) (needed : List (NodeId × String)) (k : ℕ) (r : Run)
    (parts : SelectParts) : CompileM.Segment :=
  let shown := Slot.nameAll k (t.shownSlots p.leaf r.ids)
  let helpers := Slot.nameAll (k + (t.shownSlots p.leaf r.ids).length)
    (t.helperSlots p.leaf needed r.ids)
  ⟨parts.select t p (shown ++ helpers) r [], r.ids, shown, helpers⟩

/-- The derived tables of some runs, the next alias being the `k`-th and the statement having some
membership tables before and others after. -/
inductive DerivedTables (c : Compiler) (t : Tree) (p : Path) (branches : List NodeId)
    (needed : List (NodeId × String)) :
    ℕ → List MembershipTable → List Run → List CompileM.Segment → List MembershipTable → Prop
  | nil (k : ℕ) (tables : List MembershipTable) :
      DerivedTables c t p branches needed k tables [] [] tables
  | cons {k : ℕ} {tables tables' : List MembershipTable} {r : Run} {runs : List Run}
      {segments : List CompileM.Segment} (parts : SelectParts)
      (shown : t.ShowsDeclared p.leaf r.ids) (fit : parts.Fit c t p branches tables r)
      (rest : DerivedTables c t p branches needed (k + (r.slots t p needed).length)
        parts.clauses.tables runs segments tables') :
      DerivedTables c t p branches needed k tables (r :: runs)
        (r.segment t p needed k parts :: segments) tables'

/-- The statement that joins derived tables at the joints of a path. -/
def SplitSelect.ofSegments (leaf : NodeId) (segments : List CompileM.Segment)
    (js : List CompileM.Joint) (keys : List Tree.SortKey) : SplitSelect :=
  let ref := CompileM.outerRef segments leaf
  { projections := CompileM.outerProjections segments
    first := ((segments.head?).map (·.select)).getD default
    links := (segments.drop 1).zip js |>.map fun (s, j) ↦
      (⟨s.select, ref j.left j.columns.above, ref j.right j.columns.below⟩ : Link)
    order := keys.map fun k ↦ ⟨ref k.node k.column, k.order⟩ }

/-- A path compiles to a query with membership tables, registering slots from the `k`-th alias
on. -/
inductive Compiles (c : Compiler) (t : Tree) (p : Path) (branches : List NodeId) (k : ℕ) :
    Query → List MembershipTable → List Slot → Prop
  | single {keys : List Tree.SortKey} (parts : SelectParts) {nodes : List NodeId}
      (sorted : t.sortKeys p.all = .ok keys) (uncut : t.segments p = [nodes])
      (shown : t.ShowsDeclared p.leaf p.all) (fit : parts.Fit c t p branches [] (Run.whole p)) :
      Compiles c t p branches k
        (.single (parts.select t p (Slot.nameAll k (t.shownSlots p.leaf p.all)) (Run.whole p)
          (keys.map fun key ↦ ⟨⟨p.source key.node, key.column⟩, key.order⟩)))
        parts.clauses.tables (t.shownSlots p.leaf p.all)
  | split {keys : List Tree.SortKey} {js : List CompileM.Joint}
      {segments : List CompileM.Segment} {tables : List MembershipTable}
      (sorted : t.sortKeys p.all = .ok keys) (cut : ∀ nodes, t.segments p ≠ [nodes])
      (joints : CompileM.joints t (t.segments p) = .ok js)
      (derived : DerivedTables c t p branches (CompileM.neededColumns js keys) k []
        (Run.ofSegments true (t.segments p)) segments tables) :
      Compiles c t p branches k (.split (.ofSegments p.leaf segments js keys)) tables
        ((Run.ofSegments true (t.segments p)).flatMap
          (Run.slots t p (CompileM.neededColumns js keys)))

namespace CompileM

variable {c : Compiler} {t : Tree} {p : Path} {branches : List NodeId}
  {tables tables' : List MembershipTable} {s s' : CompileState}

/-- The parts of a compiled select. -/
theorem yields_select {projected : List Projected} {r : Run} {order : List SortColumn} {q : Select}
    (h : (select c t p projected r.ids branches tables r.starts r.ends order).Yields s
      (q, tables') s') :
    ∃ parts : SelectParts, parts.Fit c t p branches tables r ∧
      q = parts.select t p projected r order ∧ tables' = parts.clauses.tables ∧
      s'.registry = s.registry ∧ parts.Written c t p tables r q s.draft s'.draft := by
  obtain ⟨chain, s₁, hlift, h₁⟩ := yields_bind_iff.mp h
  obtain ⟨hchain, rfl⟩ := yields_lift_iff.mp hlift
  have hrest : ∃ optional, (if r.ends then t.branchJoins c.dialect p branches else .ok []) =
      .ok optional ∧ Yields (do
        drafting (Draft.openSelect c.dialect chain optional
          (if r.starts then t.startConditions p else []))
        let clauses ← r.ids.foldlM (addFilters c t p) { tables }
        let query := (⟨chain, optional, clauses⟩ : SelectParts).select t p projected r order
        drafting (Draft.closeSelect c.dialect query.projections query.table query.source order)
        return (query, clauses.tables)) s₁ (q, tables') s' := by
    dsimp only at h₁
    by_cases hends : r.ends = true
    · rw [if_pos hends] at h₁
      obtain ⟨optional, s₂, hlift', h₂⟩ := yields_bind_iff.mp h₁
      obtain ⟨hoptional, rfl⟩ := yields_lift_iff.mp hlift'
      exact ⟨optional, by rw [if_pos hends, hoptional], h₂⟩
    · rw [if_neg hends] at h₁
      obtain ⟨optional, s₂, hpure, h₂⟩ := yields_bind_iff.mp h₁
      obtain ⟨rfl, rfl⟩ := yields_pure_iff.mp hpure
      exact ⟨[], by rw [if_neg hends], h₂⟩
  obtain ⟨optional, hoptional, h₂⟩ := hrest
  obtain ⟨clauses, s₂, hclauses, h₃⟩ := yields_bind_iff.mp (yields_drafting_bind_iff.mp h₂)
  obtain ⟨hgrows, hregistry, hlive⟩ := grows_foldlM_addFilters hclauses
  have hpure := yields_drafting_bind_iff.mp h₃
  obtain ⟨heq, rfl⟩ := yields_pure_iff.mp hpure
  obtain ⟨rfl, rfl⟩ := Prod.mk.inj heq
  exact ⟨⟨chain, optional, clauses⟩, ⟨hlive, hchain, hoptional, hgrows, _, _, hclauses⟩, rfl, rfl,
    hregistry, _, _, rfl, hclauses, rfl⟩

/-- The first derived table of a path that has been cut is that of its first run. -/
theorem exists_of_yields_segmentSelects_cons {needed : List (NodeId × String)} {starts : Bool}
    {segment : List NodeId} {rest : List (List NodeId)} {segments : List Segment}
    (h : (segmentSelects c t p branches needed starts tables (segment :: rest)).Yields s
      (segments, tables') s') :
    let r : Run := ⟨if starts then rootId :: segment else segment, starts, rest.isEmpty⟩
    ∃ (parts : SelectParts) (later : List Segment) (s₁ : CompileState),
      t.ShowsDeclared p.leaf r.ids ∧ parts.Fit c t p branches tables r ∧
      segments = r.segment t p needed s.registry.size parts :: later ∧
      s₁.registry = (s.withSlots t (r.slots t p needed)).registry ∧
      parts.Written c t p tables r (r.segment t p needed s.registry.size parts).select s.draft
        s₁.draft ∧
      (segmentSelects c t p branches needed false parts.clauses.tables rest).Yields s₁
        (later, tables') s' := by
  intro r
  obtain ⟨shown, s₁, hshown, h₁⟩ := yields_bind_iff.mp h
  have hdeclared := showsDeclared_of_projectSteps hshown
  obtain ⟨rfl, rfl⟩ := Projects.projectSteps t p.leaf r.ids _ _ _ hshown
  obtain ⟨helpers, s₂, hhelpers, h₂⟩ := yields_bind_iff.mp h₁
  obtain ⟨rfl, rfl⟩ := Projects.projectHelpers t p.leaf needed r.ids _ _ _ hhelpers
  obtain ⟨⟨query, tables₁⟩, s₃, hselect, h₃⟩ := yields_bind_iff.mp h₂
  obtain ⟨parts, hfit, rfl, rfl, hregistry, hwritten⟩ := yields_select (r := r) hselect
  obtain ⟨⟨later, tables₂⟩, s₄, hlater, h₄⟩ := yields_bind_iff.mp h₃
  obtain ⟨heq, rfl⟩ := yields_pure_iff.mp h₄
  obtain ⟨rfl, rfl⟩ := Prod.mk.inj heq
  rw [CompileState.size_withSlots] at hwritten ⊢
  refine ⟨parts, later, s₃, hdeclared, hfit, rfl, ?_, hwritten, hlater⟩
  rw [hregistry, Run.slots, CompileState.withSlots_append]

/-- The derived tables of a path that has been cut. -/
theorem yields_segmentSelects {needed : List (NodeId × String)} {starts : Bool}
    {runs : List (List NodeId)} {segments : List Segment}
    (h : (segmentSelects c t p branches needed starts tables runs).Yields s
      (segments, tables') s') :
    DerivedTables c t p branches needed s.registry.size tables (Run.ofSegments starts runs)
        segments tables' ∧
      s'.registry = (s.withSlots t
        ((Run.ofSegments starts runs).flatMap (Run.slots t p needed))).registry := by
  induction runs generalizing starts tables segments s with
  | nil =>
    obtain ⟨heq, rfl⟩ := yields_pure_iff.mp h
    obtain ⟨rfl, rfl⟩ := Prod.mk.inj heq
    exact ⟨.nil _ _, by simp [Run.ofSegments]⟩
  | cons segment rest ih =>
    obtain ⟨parts, later, s₁, hdeclared, hfit, rfl, hregistry, -, hlater⟩ :=
      exists_of_yields_segmentSelects_cons h
    obtain ⟨hcut, hregistry'⟩ := ih hlater
    rw [hregistry, CompileState.size_withSlots] at hcut
    refine ⟨.cons parts hdeclared hfit hcut, ?_⟩
    rw [hregistry', Run.ofSegments, List.flatMap_cons, CompileState.withSlots_append,
      CompileState.withSlots, CompileState.withSlots, hregistry]

/-- A path without repeated tables is a single run, and its select is the statement. -/
theorem exists_of_yields_single {q : Query}
    (h : (single c t p branches).Yields s (q, tables) s') :
    ∃ (keys : List Tree.SortKey) (parts : SelectParts) (s₁ : CompileState),
      t.sortKeys p.all = .ok keys ∧ t.ShowsDeclared p.leaf p.all ∧
      parts.Fit c t p branches [] (Run.whole p) ∧ tables = parts.clauses.tables ∧
      s₁.registry = (s.withSlots t (t.shownSlots p.leaf p.all)).registry ∧
      s' = { s₁ with draft := (Draft.closeSingle s₁.draft).2 } ∧
      ∃ select : Select, q = .single select ∧
        select = parts.select t p
          (Slot.nameAll s.registry.size (t.shownSlots p.leaf p.all)) (Run.whole p)
          (keys.map fun key ↦ ⟨⟨p.source key.node, key.column⟩, key.order⟩) ∧
        parts.Written c t p [] (Run.whole p) select s.draft s₁.draft := by
  obtain ⟨keys, s₁, hlift, h₁⟩ := yields_bind_iff.mp h
  obtain ⟨hkeys, rfl⟩ := yields_lift_iff.mp hlift
  obtain ⟨projected, s₂, hprojected, h₂⟩ := yields_bind_iff.mp h₁
  have hdeclared := showsDeclared_of_projectSteps hprojected
  obtain ⟨rfl, rfl⟩ := Projects.projectSteps t p.leaf p.all _ _ _ hprojected
  obtain ⟨⟨query, tables₁⟩, s₃, hselect, h₃⟩ := yields_bind_iff.mp h₂
  have hpure := yields_drafting_bind_iff.mp h₃
  obtain ⟨heq, rfl⟩ := yields_pure_iff.mp hpure
  obtain ⟨rfl, rfl⟩ := Prod.mk.inj heq
  obtain ⟨parts, hfit, rfl, rfl, hregistry, hwritten⟩ := yields_select (r := Run.whole p) hselect
  exact ⟨keys, parts, s₃, hkeys, hdeclared, hfit, rfl, hregistry, rfl, _, rfl, rfl, hwritten⟩

theorem yields_single {nodes : List NodeId} {q : Query} (huncut : t.segments p = [nodes])
    (h : (single c t p branches).Yields s (q, tables) s') :
    ∃ slots, Compiles c t p branches s.registry.size q tables slots ∧
      s'.registry = (s.withSlots t slots).registry := by
  obtain ⟨keys, parts, s₁, hkeys, hdeclared, hfit, rfl, hregistry, rfl, _, rfl, rfl, -⟩ :=
    exists_of_yields_single h
  exact ⟨_, .single parts hkeys huncut hdeclared hfit, hregistry⟩

/-- A path that has been cut becomes its derived tables, joined at its joints. -/
theorem exists_of_yields_split {q : Query} {runs : List (List NodeId)}
    (h : (split c t p runs branches).Yields s (q, tables) s') :
    ∃ keys js segments s₁, t.sortKeys p.all = .ok keys ∧ joints t runs = .ok js ∧
      (segmentSelects c t p branches (neededColumns js keys) true [] runs).Yields s
        (segments, tables) s₁ ∧
      ∃ query : SplitSelect, q = .split query ∧ query = .ofSegments p.leaf segments js keys ∧
        s' = { s₁ with draft := (Draft.closeSplit c.dialect query.projections
          (query.links.map fun l ↦ (l.left, l.right)) query.order s₁.draft).2 } := by
  obtain ⟨keys, s₁, hlift, h₁⟩ := yields_bind_iff.mp h
  obtain ⟨hkeys, rfl⟩ := yields_lift_iff.mp hlift
  obtain ⟨js, s₂, hlift', h₂⟩ := yields_bind_iff.mp h₁
  obtain ⟨hjoints, rfl⟩ := yields_lift_iff.mp hlift'
  obtain ⟨⟨segments, tables₁⟩, s₃, hsegments, h₃⟩ := yields_bind_iff.mp h₂
  have hpure := yields_drafting_bind_iff.mp h₃
  obtain ⟨heq, rfl⟩ := yields_pure_iff.mp hpure
  obtain ⟨rfl, rfl⟩ := Prod.mk.inj heq
  exact ⟨keys, js, segments, s₃, hkeys, hjoints, hsegments, _, rfl, rfl, rfl⟩

theorem yields_split {q : Query} (hcut : ∀ nodes, t.segments p ≠ [nodes])
    (h : (split c t p (t.segments p) branches).Yields s (q, tables) s') :
    ∃ slots, Compiles c t p branches s.registry.size q tables slots ∧
      s'.registry = (s.withSlots t slots).registry := by
  obtain ⟨keys, js, segments, s₁, hkeys, hjoints, hsegments, _, rfl, rfl, rfl⟩ :=
    exists_of_yields_split h
  obtain ⟨hderived, hregistry⟩ := yields_segmentSelects hsegments
  exact ⟨_, .split hkeys hcut hjoints hderived, hregistry⟩

/-- What a path compiles to, in either form. -/
theorem yields_body {q : Query} (h : (body c t p branches).Yields s (q, tables) s') :
    ∃ slots, Compiles c t p branches s.registry.size q tables slots ∧
      s'.registry = (s.withSlots t slots).registry := by
  rw [body] at h
  split at h
  case h_1 nodes huncut => exact yields_single huncut h
  case h_2 hcut => exact yields_split (fun nodes heq ↦ hcut nodes heq) h

/-- A compiled statement is its body with what has been written, from a new draft on. -/
theorem exists_body_of_statement {mode : Mode} {st : Statement}
    (h : (statement c t mode p branches).Yields s st s') :
    ∃ q tables leaf s₂, (body c t p branches).Yields { s with draft := {} } (q, tables) s₂ ∧
      st = {
        mode
        leafTable := leaf
        path := p
        branches
        segments := t.segments p
        dialect := c.dialect
        query := q
        sql := s₂.draft.text
        operands := s₂.draft.operands.toList
        tables } ∧
      s' = { s₂ with journal := s₂.journal.push st } := by
  obtain ⟨leaf, s₁, hlift, h₁⟩ := yields_bind_iff.mp (yields_drafting_bind_iff.mp h)
  obtain ⟨-, rfl⟩ := yields_lift_iff.mp hlift
  obtain ⟨⟨q, tables⟩, s₂, hcatch, h₂⟩ := yields_bind_iff.mp h₁
  obtain ⟨_, _, hget, h₃⟩ := yields_bind_iff.mp h₂
  obtain ⟨rfl, rfl⟩ := yields_get_iff.mp hget
  obtain ⟨_, s₃, hset, h₄⟩ := yields_bind_iff.mp h₃
  obtain rfl := yields_set_iff.mp hset
  obtain ⟨rfl, rfl⟩ := yields_pure_iff.mp h₄
  exact ⟨q, tables, leaf.table, _, yields_tryCatch_iff.mp hcatch, rfl, rfl⟩

/-- What a compiled statement holds. -/
theorem yields_statement {mode : Mode} {st : Statement}
    (h : (statement c t mode p branches).Yields s st s') :
    st.dialect = c.dialect ∧ st.mode = mode ∧ ∃ slots,
      Compiles c t p branches s.registry.size st.query st.tables slots ∧
      s'.registry = (s.withSlots t slots).registry := by
  obtain ⟨q, tables, leaf, s₂, hbody, rfl, rfl⟩ := exists_body_of_statement h
  obtain ⟨slots, hcompiles, hregistry⟩ := yields_body hbody
  exact ⟨rfl, rfl, slots, hcompiles, hregistry⟩

end CompileM

end PathQuery
