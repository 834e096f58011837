import PathQuery.Compile.Plans
import PathQuery.Proofs.Compile.Writing

/-!
# Names of temporary tables

A statement refers to its temporary tables by the names that they are given while it is compiled.
Compilers that differ in these names alone go side by side: they look up the same, give the same
aliases, fail with the same fault, and ask for a name at the same places. What they answer is the
same but for the names, and a name that is joined is that of the same table on both sides.

The numbers of the names may start anywhere. So how many there are, and what a plan compiles to
apart from them, is a matter of the plan alone.
-/

namespace PathQuery

open List (Forall₂)

/-- A compiler that names temporary tables in another way. -/
def Compiler.naming (c : Compiler) (names : String → ℕ → String) : Compiler :=
  { c with temporaryName := names }

/-! ## The same under other names -/

/-- A membership table under another name. -/
def MembershipTable.Renamed (m m' : MembershipTable) : Prop := m' = { m with name := m'.name }

/-- A join of a statement whose membership tables have other names. A temporary table is joined by
the name that it has. -/
inductive Join.Renamed (ms ms' : List MembershipTable) : Join → Join → Prop
  | table {j : Join} {t : Table} (relation : j.relation = .table t) : Join.Renamed ms ms' j j
  | temporary {kind : JoinKind} {k : ℕ} {conditions : List Condition} {m m' : MembershipTable}
      (here : ms[k]? = some m) (there : ms'[k]? = some m') :
      Join.Renamed ms ms' ⟨kind, .temporary m.name, .membership k, conditions⟩
        ⟨kind, .temporary m'.name, .membership k, conditions⟩

/-- A select of a statement whose membership tables have other names. -/
structure Select.Renamed (ms ms' : List MembershipTable) (s s' : Select) : Prop where
  /-- The joins are the same but for the names. -/
  joins : Forall₂ (Join.Renamed ms ms') s.joins s'.joins
  /-- The rest is the same. -/
  rest : s' = { s with joins := s'.joins }

/-- A further derived table of a statement whose membership tables have other names. -/
structure Link.Renamed (ms ms' : List MembershipTable) (l l' : Link) : Prop where
  /-- The derived table is the same but for the names. -/
  select : l.select.Renamed ms ms' l'.select
  /-- The rest is the same. -/
  rest : l' = { l with select := l'.select }

/-- A query whose membership tables have other names. -/
inductive Query.Renamed (ms ms' : List MembershipTable) : Query → Query → Prop
  | single {s s' : Select} (select : s.Renamed ms ms' s') :
      Query.Renamed ms ms' (.single s) (.single s')
  | split {q q' : SplitSelect} (first : q.first.Renamed ms ms' q'.first)
      (links : Forall₂ (Link.Renamed ms ms') q.links q'.links)
      (rest : q' = { q with first := q'.first, links := q'.links }) :
      Query.Renamed ms ms' (.split q) (.split q')

/-- A statement whose membership tables have other names. -/
structure Statement.Renamed (st st' : Statement) : Prop where
  /-- The membership tables are the same but for the names. -/
  tables : Forall₂ MembershipTable.Renamed st.tables st'.tables
  /-- So is the query, where each of them is joined by its name. -/
  query : st.query.Renamed st.tables st'.tables st'.query
  /-- It has the text and the operands of its query, and the rest is the same. -/
  rest : st' = { st with
    query := st'.query
    sql := st'.query.render st.dialect
    operands := st'.query.operands st.dialect
    tables := st'.tables }

/-- A compiled plan whose temporary tables have other names. -/
structure CompiledPlan.Renamed (p p' : CompiledPlan) : Prop where
  /-- The statements are the same but for the names. -/
  statements : Forall₂ Statement.Renamed p.statements p'.statements
  /-- The plan, its trees and the aliases are the same. -/
  rest : p' = { p with statements := p'.statements }

section Prefix

variable {ms ms' ns ns' : List MembershipTable}

theorem getElem?_mono {k : ℕ} {m : MembershipTable} (hms : ms <+: ns) (h : ms[k]? = some m) :
    ns[k]? = some m := by
  obtain ⟨hlt, rfl⟩ := List.getElem?_eq_some_iff.mp h
  exact List.prefix_iff_getElem?.mp hms k hlt

theorem Join.Renamed.mono {j j' : Join} (h : j.Renamed ms ms' j') (hms : ms <+: ns)
    (hms' : ms' <+: ns') : j.Renamed ns ns' j' := by
  cases h with
  | table relation => exact .table relation
  | temporary here there =>
    exact .temporary (getElem?_mono hms here) (getElem?_mono hms' there)

theorem Select.Renamed.mono {s s' : Select} (h : s.Renamed ms ms' s') (hms : ms <+: ns)
    (hms' : ms' <+: ns') : s.Renamed ns ns' s' :=
  ⟨h.joins.imp fun _ _ hj ↦ hj.mono hms hms', h.rest⟩

end Prefix

/-- What filters have become, from the membership tables `ms` and `ms'` on. -/
structure FilterClauses.Renamed (ms ms' : List MembershipTable) (fc fc' : FilterClauses) :
    Prop where
  /-- The conditions are the same. -/
  conditions : fc'.conditions = fc.conditions
  /-- The membership tables are the same but for the names. -/
  tables : Forall₂ MembershipTable.Renamed fc.tables fc'.tables
  /-- So are the joins. -/
  joins : Forall₂ (Join.Renamed fc.tables fc'.tables) fc.joins fc'.joins
  /-- The tables from before come first on the one side, -/
  before : ms <+: fc.tables
  /-- and on the other. -/
  before' : ms' <+: fc'.tables

namespace FilterClauses.Renamed

variable {ms ms' : List MembershipTable} {fc fc' : FilterClauses}

theorem addCondition (h : fc.Renamed ms ms' fc') (c : Condition) :
    (fc.addCondition c).Renamed ms ms' (fc'.addCondition c) where
  conditions := by rw [FilterClauses.addCondition, FilterClauses.addCondition, h.conditions]
  tables := h.tables
  joins := h.joins
  before := h.before
  before' := h.before'

/-- A table that is added is joined by its own name. -/
theorem addMember (h : fc.Renamed ms ms' fc') (column : ColumnRef) {m m' : MembershipTable}
    (hm : m.Renamed m') : (fc.addMember column m).Renamed ms ms' (fc'.addMember column m') := by
  have hlength : fc'.tables.length = fc.tables.length := h.tables.length_eq.symm
  obtain ⟨hcolumn, hwithout⟩ : m'.column = m.column ∧ m'.without = m.without := by
    rw [hm]
    exact ⟨rfl, rfl⟩
  have hlast : ∀ (ts : List MembershipTable) x, (ts ++ [x])[ts.length]? = some x :=
    fun ts x ↦ by simp
  constructor
  case conditions =>
    rw [FilterClauses.addMember, FilterClauses.addMember, FilterClauses.memberConditions,
      FilterClauses.memberConditions, h.conditions, hlength, hcolumn, hwithout]
  case tables => exact List.rel_append h.tables (.cons hm .nil)
  case joins =>
    refine List.rel_append (h.joins.imp fun _ _ hj ↦ hj.mono (List.prefix_append _ _)
      (List.prefix_append _ _)) (.cons ?_ .nil)
    rw [FilterClauses.memberJoin, FilterClauses.memberJoin, hcolumn, hwithout, hlength]
    exact .temporary (hlast _ m) (hlength ▸ hlast _ m')
  case before => exact h.before.trans (List.prefix_append _ _)
  case before' => exact h.before'.trans (List.prefix_append _ _)

end FilterClauses.Renamed

/-- Something that has been built over membership tables, with all the tables by then. Those from
before, `ms` and `ms'`, come first. -/
structure Built {α β : Type} (ms ms' : List MembershipTable)
    (R : List MembershipTable → List MembershipTable → α → β → Prop)
    (x : α × List MembershipTable) (x' : β × List MembershipTable) : Prop where
  /-- It is the same but for the names of the tables. -/
  fst : R x.2 x'.2 x.1 x'.1
  /-- So are the tables. -/
  tables : Forall₂ MembershipTable.Renamed x.2 x'.2
  /-- The tables from before come first on the one side, -/
  before : ms <+: x.2
  /-- and on the other. -/
  before' : ms' <+: x'.2

theorem FilterClauses.Renamed.select {ms ms' : List MembershipTable} {fc fc' : FilterClauses}
    (h : fc.Renamed ms ms' fc') {chain optional : List Join}
    (hchain : ∀ j ∈ chain, ∃ t, j.relation = .table t)
    (hoptional : ∀ j ∈ optional, ∃ t, j.relation = .table t) {t : Tree} {p : Path}
    {projected : List Projected} {r : Run} {order : List SortColumn} :
    Built ms ms' Select.Renamed
      ((⟨chain, optional, fc⟩ : SelectParts).select t p projected r order, fc.tables)
      ((⟨chain, optional, fc'⟩ : SelectParts).select t p projected r order, fc'.tables) := by
  have hsame : ∀ js : List Join, (∀ j ∈ js, ∃ t, j.relation = .table t) →
      Forall₂ (Join.Renamed fc.tables fc'.tables) js js := by
    intro js hjs
    refine List.forall₂_same.mpr fun j hj ↦ ?_
    obtain ⟨table, htable⟩ := hjs j hj
    exact .table htable
  refine ⟨⟨?_, ?_⟩, h.tables, h.before, h.before'⟩
  · exact List.rel_append (List.rel_append (hsame chain hchain) h.joins) (hsame optional hoptional)
  · rw [SelectParts.select, SelectParts.select, h.conditions]

/-- A derived table under way of a statement whose membership tables have other names. -/
structure CompileM.Segment.Renamed (ms ms' : List MembershipTable) (s s' : Segment) : Prop where
  /-- The select is the same but for the names. -/
  select : s.select.Renamed ms ms' s'.select
  /-- The rest is the same. -/
  rest : s' = { s with select := s'.select }

namespace CompileM.Segment.Renamed

variable {ms ms' : List MembershipTable} {segments segments' : List Segment}
  (h : Forall₂ (Segment.Renamed ms ms') segments segments')
include h

/-- What does not look at the select is read off the one as off the other. -/
theorem map_eq {β : Type} {f : Segment → β} (hf : ∀ s select, f { s with select } = f s) :
    segments'.map f = segments.map f := by
  induction h with
  | nil => rfl
  | cons hfirst _ ih => rw [List.map_cons, List.map_cons, ih, hfirst.rest, hf]

theorem outerRef_eq : outerRef segments' = outerRef segments := by
  have hnodes := map_eq h (f := (·.nodes)) fun _ _ ↦ rfl
  have hprojected := map_eq h (f := fun s ↦ s.shown ++ s.helpers) fun _ _ ↦ rfl
  have hsegment : ∀ ss id, segmentOf ss id =
      (ss.map (·.nodes)).findIdx (·.contains id) + 1 := by
    intro ss id
    rw [segmentOf, List.findIdx_map]
    rfl
  funext leaf id column
  rw [outerRef, outerRef, hsegment, hsegment, hnodes, List.flatMap_def, List.flatMap_def,
    hprojected]

theorem outerProjections_eq : outerProjections segments' = outerProjections segments := by
  have hshown := map_eq h (f := (·.shown)) fun _ _ ↦ rfl
  have hall : ∀ ss, outerProjections ss = ((ss.map (·.shown)).zipIdx 1).flatMap fun (shown, n) ↦
      shown.map fun q ↦ ⟨⟨.segment n, q.name⟩, q.name⟩ := by
    intro ss
    rw [outerProjections, List.zipIdx_map, List.flatMap_map]
    rfl
  rw [hall, hall, hshown]

/-- Joining derived tables refers to what they project. -/
theorem ofSegments (leaf : NodeId) (js : List Joint) (keys : List Tree.SortKey) :
    (Query.split (.ofSegments leaf segments js keys)).Renamed ms ms'
      (.split (.ofSegments leaf segments' js keys)) := by
  constructor
  case first =>
    cases h with
    | nil => exact ⟨.nil, rfl⟩
    | cons hfirst _ => exact hfirst.select
  case links =>
    rw [SplitSelect.ofSegments, SplitSelect.ofSegments, outerRef_eq h]
    have hrest := List.forall₂_drop 1 h
    generalize segments.drop 1 = rest at hrest ⊢
    generalize segments'.drop 1 = rest' at hrest ⊢
    induction hrest generalizing js with
    | nil => exact .nil
    | cons hfirst _ ih =>
      cases js with
      | nil => exact .nil
      | cons j js => exact .cons ⟨hfirst.select, rfl⟩ (ih js)
  case rest =>
    rw [SplitSelect.ofSegments, SplitSelect.ofSegments, outerRef_eq h, outerProjections_eq h]

end CompileM.Segment.Renamed

theorem Tree.relation_stepJoins {t : Tree} {p : Path} {ids : List NodeId} {js : List Join}
    (h : t.stepJoins p ids = .ok js) : ∀ j ∈ js, ∃ table, j.relation = .table table := by
  intro j hj
  obtain ⟨table, l, r, htable, -⟩ := Tree.exists_of_mem_stepJoins h hj
  exact ⟨table, htable⟩

theorem Tree.relation_branchJoins {t : Tree} {d : Dialect} {p : Path} {branches : List NodeId}
    {js : List Join} (h : t.branchJoins d p branches = .ok js) :
    ∀ j ∈ js, ∃ table, j.relation = .table table := by
  intro j hj
  obtain ⟨above, -, h⟩ := bind_eq_ok_iff.mp h
  obtain ⟨⟨id, i⟩, -, hid⟩ := exists_of_mem_right_of_mapM_eq_ok h j hj
  dsimp only at hid
  rw [branchJoin] at hid
  split at hid
  · cases hid
  · next n _ =>
    split at hid
    · cases hid
    · obtain ⟨c, -, hid⟩ := bind_eq_ok_iff.mp hid
      obtain ⟨forms, -, hid⟩ := bind_eq_ok_iff.mp hid
      exact ⟨n.table, (Except.ok.inj hid) ▸ rfl⟩

/-! ## Two runs side by side -/

/-- The same fault twice, or two answers that are related. -/
inductive Outcomes {ε α β : Type} (R : α → β → Prop) : Except ε α → Except ε β → Prop
  | fault (e : ε) : Outcomes R (.error e) (.error e)
  | answer {a : α} {b : β} (h : R a b) : Outcomes R (.ok a) (.ok b)

/-- The two states give the same aliases, and as many temporary tables have been named since there
were `k` of them in the one and `k'` in the other. -/
structure CompileState.Abreast (k k' : ℕ) (s s' : CompileState) : Prop where
  /-- They give the same aliases. -/
  registry : s'.registry = s.registry
  /-- As many tables have been named. -/
  temporaries : ∃ n, s.temporaries = k + n ∧ s'.temporaries = k' + n

namespace CompileM

variable {α β γ δ : Type} {k k' : ℕ} {R : α → β → Prop} {S : γ → δ → Prop}

/-- From states that are abreast the two runs fail with one fault or give related answers, and the
states stay abreast. -/
def Lockstep (k k' : ℕ) (R : α → β → Prop) (m : CompileM α) (m' : CompileM β) : Prop :=
  ∀ ⦃s s'⦄, s.Abreast k k' s' →
    Outcomes R (m.runOn s).1 (m'.runOn s').1 ∧ (m.runOn s).2.Abreast k k' (m'.runOn s').2

namespace Lockstep

theorem pure {a : α} {b : β} (h : R a b) : Lockstep k k' R (pure a) (pure b) :=
  fun _ _ hs ↦ ⟨.answer h, hs⟩

theorem bind {m : CompileM α} {m' : CompileM β} {f : α → CompileM γ} {f' : β → CompileM δ}
    (hm : Lockstep k k' R m m') (hf : ∀ a b, R a b → Lockstep k k' S (f a) (f' b)) :
    Lockstep k k' S (m >>= f) (m' >>= f') := by
  intro s s' hs
  obtain ⟨hanswer, hstate⟩ := hm hs
  rw [runOn_bind, runOn_bind]
  rcases hrun : m.runOn s with ⟨x, s₁⟩
  rcases hrun' : m'.runOn s' with ⟨x', s₁'⟩
  rw [hrun, hrun'] at hanswer hstate
  cases hanswer with
  | fault e => exact ⟨.fault e, hstate⟩
  | answer h => exact hf _ _ h hstate

/-- What comes first answers the same. -/
theorem bind_eq {m m' : CompileM α} {f : α → CompileM γ} {f' : α → CompileM δ}
    (hm : Lockstep k k' Eq m m') (hf : ∀ a, Lockstep k k' S (f a) (f' a)) :
    Lockstep k k' S (m >>= f) (m' >>= f') := by
  refine .bind hm ?_
  rintro a _ rfl
  exact hf a

/-- What does not depend on the state is looked up first, and the same is found twice. -/
theorem lift_bind {x : Except QueryError α} {f : α → CompileM γ} {f' : α → CompileM δ}
    (hf : ∀ a, x = .ok a → Lockstep k k' S (f a) (f' a)) :
    Lockstep k k' S (liftM x >>= f) (liftM x >>= f') := by
  cases x with
  | error e => exact fun _ _ hs ↦ ⟨.fault e, hs⟩
  | ok a => exact hf a rfl

theorem ite {c : Prop} [Decidable c] {m₁ m₂ : CompileM α} {m₁' m₂' : CompileM β}
    (h₁ : Lockstep k k' R m₁ m₁') (h₂ : Lockstep k k' R m₂ m₂') :
    Lockstep k k' R (if c then m₁ else m₂) (if c then m₁' else m₂') := by
  split
  · exact h₁
  · exact h₂

theorem mapM {f : γ → CompileM α} {f' : γ → CompileM β} (hf : ∀ c, Lockstep k k' R (f c) (f' c))
    (cs : List γ) : Lockstep k k' (Forall₂ R) (cs.mapM f) (cs.mapM f') := by
  induction cs with
  | nil =>
    rw [List.mapM_nil, List.mapM_nil]
    exact .pure .nil
  | cons c cs ih =>
    rw [List.mapM_cons, List.mapM_cons]
    exact .bind (hf c) fun a b h ↦ .bind ih fun as bs hs ↦ .pure (.cons h hs)

theorem mapM_eq {f f' : γ → CompileM α} (hf : ∀ c, Lockstep k k' Eq (f c) (f' c)) (cs : List γ) :
    Lockstep k k' Eq (cs.mapM f) (cs.mapM f') := by
  simpa only [List.forall₂_eq_eq_eq] using mapM hf cs

theorem foldlM {f : α → γ → CompileM α} {f' : β → γ → CompileM β}
    (hf : ∀ a b c, R a b → Lockstep k k' R (f a c) (f' b c)) (cs : List γ) {a : α} {b : β}
    (h : R a b) : Lockstep k k' R (cs.foldlM f a) (cs.foldlM f' b) := by
  induction cs generalizing a b with
  | nil =>
    rw [List.foldlM_nil, List.foldlM_nil]
    exact .pure h
  | cons c cs ih =>
    rw [List.foldlM_cons, List.foldlM_cons]
    exact .bind (hf a b c h) fun _ _ h₁ ↦ ih h₁

theorem tryCatch {m : CompileM α} {m' : CompileM β} (hm : Lockstep k k' R m m')
    (g : QueryError → QueryError) : Lockstep k k' R (tryCatch m fun x ↦ throw (g x))
      (tryCatch m' fun x ↦ throw (g x)) := by
  intro s s' hs
  obtain ⟨hanswer, hstate⟩ := hm hs
  rw [runOn_tryCatch, runOn_tryCatch]
  rcases hrun : m.runOn s with ⟨x, s₁⟩
  rcases hrun' : m'.runOn s' with ⟨x', s₁'⟩
  rw [hrun, hrun'] at hanswer hstate
  cases hanswer with
  | fault e => exact ⟨.fault (g e), hstate⟩
  | answer h => exact ⟨.answer h, hstate⟩

/-- What is written plays no part. -/
theorem drafting_bind {w w' : DraftM Unit} {f : Unit → CompileM γ} {f' : Unit → CompileM δ}
    (hf : Lockstep k k' S (f ()) (f' ())) :
    Lockstep k k' S (drafting w >>= f) (drafting w' >>= f') :=
  fun _ _ hs ↦ hf ⟨hs.registry, hs.temporaries⟩

theorem push_journal (st st' : Statement) : Lockstep k k' (fun _ _ ↦ True)
    (modify fun s ↦ { s with journal := s.journal.push st } : CompileM PUnit)
      (modify fun s ↦ { s with journal := s.journal.push st' }) :=
  fun _ _ hs ↦ ⟨.answer trivial, hs.registry, hs.temporaries⟩

/-! ### What is projected -/

theorem project (id : NodeId) (n : Node) (role : Role) (column : String) :
    Lockstep k k' Eq (project id n role column) (project id n role column) := by
  intro s s' hs
  have hregister : s.registry.register ⟨role.labels n, n.table, column⟩ =
      s'.registry.register ⟨role.labels n, n.table, column⟩ := by rw [hs.registry]
  refine ⟨.answer ?_, ?_, hs.temporaries⟩
  · exact congrArg (fun r ↦ (⟨id, role, column, r.1⟩ : Projected)) hregister
  · exact congrArg (·.2) hregister.symm

theorem projectNode (t : Tree) (id : NodeId) (n : Node) (role : Role) :
    Lockstep k k' Eq (projectNode t id n role) (projectNode t id n role) :=
  .lift_bind fun columns _ ↦ .mapM_eq (fun column ↦ .project id n role column) columns

theorem projectSteps (t : Tree) (leaf : NodeId) (ids : List NodeId) :
    Lockstep k k' Eq (projectSteps t leaf ids) (projectSteps t leaf ids) := by
  refine .bind_eq (.mapM_eq (fun id ↦ .lift_bind fun n _ ↦ ?_) ids) fun _ ↦ .pure rfl
  have hnone : Lockstep k k' Eq (Pure.pure [] : CompileM (List Projected)) (Pure.pure []) :=
    .pure rfl
  refine .ite (.bind_eq (.projectNode t id n .result) fun _ ↦ ?_) (.bind_eq hnone fun _ ↦ ?_)
  all_goals
    refine .ite (.bind_eq (.projectNode t id n .labeled) fun _ ↦ ?_) (.bind_eq hnone fun _ ↦ ?_)
    all_goals exact .pure rfl

theorem projectHelpers (t : Tree) (leaf : NodeId) (needed : List (NodeId × String))
    (ids : List NodeId) :
    Lockstep k k' Eq (projectHelpers t leaf needed ids) (projectHelpers t leaf needed ids) := by
  refine .bind_eq (.mapM_eq (fun id ↦ .lift_bind fun n _ ↦ ?_) ids) fun _ ↦ .pure rfl
  exact .mapM_eq (fun column ↦ .project id n .helper column) _

/-! ### Temporary tables -/

/-- Both name a table, each in its own way. -/
theorem nextName (c c' : Compiler) (key : String) :
    Lockstep k k' (fun _ _ ↦ True) (nextName c key) (nextName c' key) := by
  intro s s' hs
  obtain ⟨n, hn, hn'⟩ := hs.temporaries
  refine ⟨.answer trivial, hs.registry, n + 1, ?_, ?_⟩
  · exact congrArg (· + 1) hn
  · exact congrArg (· + 1) hn'

theorem addFilter (c : Compiler) (names : String → ℕ → String) (t : Tree) (table : Table)
    (source : Source) (f : Filter) {ms ms' : List MembershipTable} {fc fc' : FilterClauses}
    (hfc : fc.Renamed ms ms' fc') : Lockstep k k' (FilterClauses.Renamed ms ms')
      (addFilter c t table source fc f) (addFilter (c.naming names) t table source fc' f) := by
  refine .lift_bind fun form _ ↦ ?_
  cases form with
  | always => exact .pure hfc
  | holds condition => exact .drafting_bind (.pure (hfc.addCondition condition))
  | member column type without =>
    refine .bind (.nextName c (c.naming names) f.key) fun name name' _ ↦ ?_
    exact .drafting_bind (.pure (hfc.addMember column rfl))

theorem addFilters (c : Compiler) (names : String → ℕ → String) (t : Tree) (p : Path) (id : NodeId)
    {ms ms' : List MembershipTable} {fc fc' : FilterClauses} (hfc : fc.Renamed ms ms' fc') :
    Lockstep k k' (FilterClauses.Renamed ms ms') (addFilters c t p fc id)
      (addFilters (c.naming names) t p fc' id) :=
  .lift_bind fun n _ ↦
    .foldlM (fun _ _ f hfc ↦ .addFilter c names t n.table (p.source id) f hfc) _ hfc

/-! ### Selects -/

/-- The select of a run joins the tables that its filters have added. -/
theorem select (c : Compiler) (names : String → ℕ → String) (t : Tree) (p : Path)
    (projected : List Projected) (ids branches : List NodeId) (starts ends : Bool)
    (order : List SortColumn) {ms ms' : List MembershipTable}
    (hms : Forall₂ MembershipTable.Renamed ms ms') : Lockstep k k' (Built ms ms' Select.Renamed)
      (select c t p projected ids branches ms starts ends order)
      (select (c.naming names) t p projected ids branches ms' starts ends order) := by
  have hstart : FilterClauses.Renamed ms ms' { tables := ms } { tables := ms' } :=
    ⟨rfl, hms, .nil, List.prefix_refl _, List.prefix_refl _⟩
  -- with or without joins of branches, the walk over the filters and what follows it are the same
  have hrest : ∀ chain optional (opened opened' : DraftM Unit)
      (closed closed' : FilterClauses → DraftM Unit),
      (∀ j ∈ chain, ∃ t, j.relation = .table t) →
      (∀ j ∈ optional, ∃ t, j.relation = .table t) → Lockstep k k' (Built ms ms' Select.Renamed)
      (do
        drafting opened
        let clauses ← ids.foldlM (CompileM.addFilters c t p) { tables := ms }
        drafting (closed clauses)
        return ((⟨chain, optional, clauses⟩ : SelectParts).select t p projected
          ⟨ids, starts, ends⟩ order, clauses.tables))
      (do
        drafting opened'
        let clauses ← ids.foldlM (CompileM.addFilters (c.naming names) t p) { tables := ms' }
        drafting (closed' clauses)
        return ((⟨chain, optional, clauses⟩ : SelectParts).select t p projected
          ⟨ids, starts, ends⟩ order, clauses.tables)) := by
    intro chain optional opened opened' closed closed' hchain hoptional
    refine .drafting_bind <| .bind
      (.foldlM (fun _ _ id hfc ↦ .addFilters c names t p id hfc) ids hstart) ?_
    exact fun clauses clauses' hclauses ↦ .drafting_bind (.pure (hclauses.select hchain hoptional))
  refine .lift_bind fun chain hchain ↦ .ite (.lift_bind fun optional hoptional ↦ ?_) ?_
  · exact hrest chain optional _ _ _ _ (Tree.relation_stepJoins hchain)
      (Tree.relation_branchJoins hoptional)
  · exact hrest chain [] _ _ _ _ (Tree.relation_stepJoins hchain) nofun

theorem single (c : Compiler) (names : String → ℕ → String) (t : Tree) (p : Path)
    (branches : List NodeId) : Lockstep k k' (Built [] [] Query.Renamed) (single c t p branches)
      (single (c.naming names) t p branches) := by
  refine .lift_bind fun keys _ ↦ .bind_eq (.projectSteps t p.leaf p.all) fun projected ↦ ?_
  refine .bind (.select c names t p projected p.all branches true true _ .nil) ?_
  exact fun q q' hq ↦ .drafting_bind (.pure ⟨.single hq.fst, hq.tables, hq.before, hq.before'⟩)

/-! ### Derived tables -/

theorem segmentSelects (c : Compiler) (names : String → ℕ → String) (t : Tree) (p : Path)
    (branches : List NodeId) (needed : List (NodeId × String)) (starts : Bool)
    (runs : List (List NodeId)) {ms ms' : List MembershipTable}
    (hms : Forall₂ MembershipTable.Renamed ms ms') :
    Lockstep k k' (Built ms ms' fun ns ns' ↦ Forall₂ (Segment.Renamed ns ns'))
      (segmentSelects c t p branches needed starts ms runs)
      (segmentSelects (c.naming names) t p branches needed starts ms' runs) := by
  induction runs generalizing starts ms ms' with
  | nil => exact .pure ⟨.nil, hms, List.prefix_refl _, List.prefix_refl _⟩
  | cons run rest ih =>
    refine .bind_eq (.projectSteps t p.leaf _) fun shown ↦ ?_
    refine .bind_eq (.projectHelpers t p.leaf needed _) fun helpers ↦ ?_
    refine .bind (.select c names t p _ _ branches starts rest.isEmpty [] hms) fun q q' hq ↦ ?_
    refine .bind (ih false hq.tables) fun others others' hothers ↦ .pure ?_
    refine ⟨.cons ?_ hothers.fst, hothers.tables, hq.before.trans hothers.before,
      hq.before'.trans hothers.before'⟩
    exact ⟨hq.fst.mono hothers.before hothers.before', rfl⟩

theorem split (c : Compiler) (names : String → ℕ → String) (t : Tree) (p : Path)
    (runs : List (List NodeId)) (branches : List NodeId) :
    Lockstep k k' (Built [] [] Query.Renamed) (split c t p runs branches)
      (split (c.naming names) t p runs branches) := by
  refine .lift_bind fun keys _ ↦ .lift_bind fun js _ ↦ ?_
  refine .bind (.segmentSelects c names t p branches (neededColumns js keys) true runs .nil) ?_
  intro segments segments' h
  exact .drafting_bind
    (.pure ⟨Segment.Renamed.ofSegments h.fst p.leaf js keys, h.tables, h.before, h.before'⟩)

theorem body (c : Compiler) (names : String → ℕ → String) (t : Tree) (p : Path)
    (branches : List NodeId) : Lockstep k k' (Built [] [] Query.Renamed) (body c t p branches)
      (body (c.naming names) t p branches) := by
  rw [CompileM.body, CompileM.body]
  split
  · exact .single c names t p branches
  · exact .split c names t p _ branches

/-! ### Statements -/

theorem statement (c : Compiler) (names : String → ℕ → String) (t : Tree) (mode : Mode) (p : Path)
    (branches : List NodeId) : Lockstep k k' Statement.Renamed (statement c t mode p branches)
      (statement (c.naming names) t mode p branches) := by
  rw [statement_eq_plainStatement, statement_eq_plainStatement]
  refine .drafting_bind <| .lift_bind fun leaf _ ↦
    .bind (.tryCatch (.body c names t p branches) _) fun q q' hq ↦ ?_
  exact .bind (.push_journal _ _) fun _ _ _ ↦ .pure ⟨hq.tables, hq.fst, rfl⟩

theorem modeStatements (c : Compiler) (names : String → ℕ → String) (t : Tree) (mode : Mode) :
    Lockstep k k' (Forall₂ Statement.Renamed) (modeStatements c t mode)
      (modeStatements (c.naming names) t mode) := by
  refine .lift_bind fun paths _ ↦ .mapM (fun p ↦ ?_) paths
  exact .statement c names t mode p.path p.branches

theorem chosenStatements (c : Compiler) (names : String → ℕ → String) (t : Tree)
    (mode : Option Mode) : Lockstep k k' (Forall₂ Statement.Renamed) (chosenStatements c t mode)
      (chosenStatements (c.naming names) t mode) := by
  cases mode with
  | none =>
    refine .lift_bind fun _ _ ↦ .bind (.mapM (.modeStatements c names t) Mode.known) ?_
    exact fun parts parts' hparts ↦ .pure (List.rel_flatten hparts)
  | some m => exact .lift_bind fun _ _ ↦ .modeStatements c names t m

end Lockstep

end CompileM

/-! ## Plans -/

theorem renamed_compileTrees (c : Compiler) (names : String → ℕ → String) (mode : Option Mode)
    (ts : List Tree) {k k' : ℕ} {s s' : CompileState} (hs : s.Abreast k k' s') :
    Forall₂ Statement.Renamed (compileTrees c mode ts s).1.1
      (compileTrees (c.naming names) mode ts s').1.1 ∧
    (compileTrees (c.naming names) mode ts s').1.2 = (compileTrees c mode ts s).1.2 ∧
    (compileTrees c mode ts s).2.Abreast k k' (compileTrees (c.naming names) mode ts s').2 := by
  induction ts generalizing s s' with
  | nil => exact ⟨.nil, rfl, hs⟩
  | cons t ts ih =>
    obtain ⟨hanswer, hstate⟩ := CompileM.Lockstep.chosenStatements c names t mode hs
    rw [compileTrees, compileTrees]
    rcases hrun : (CompileM.chosenStatements c t mode).runOn s with ⟨x, s₁⟩
    rcases hrun' : (CompileM.chosenStatements (c.naming names) t mode).runOn s' with ⟨x', s₁'⟩
    rw [hrun, hrun'] at hanswer hstate
    cases hanswer with
    | fault e => exact ⟨.nil, rfl, hstate⟩
    | answer hfirst =>
      obtain ⟨hrest, hfault, hstate⟩ := ih hstate
      exact ⟨List.rel_append hfirst hrest, hfault, hstate⟩

/-- **Names of temporary tables are all that compilers leave to chance.** From whatever states, a
plan fails with the same fault or compiles to the same but for the names, and as many of them are
asked for. -/
theorem Plan.renamed_compile (p : Plan) (c : Compiler) (names : String → ℕ → String) (g : Topology)
    (mode : Option Mode) (s s' : CompileState) :
    Outcomes CompiledPlan.Renamed (p.compile c g mode s).1
      (p.compile (c.naming names) g mode s').1 ∧
    ∃ n, (p.compile c g mode s).2.temporaries = s.temporaries + n ∧
      (p.compile (c.naming names) g mode s').2.temporaries = s'.temporaries + n := by
  rw [compile, compile]
  cases p.build g with
  | error e => exact ⟨.fault _, 0, rfl, rfl⟩
  | ok trees =>
    have hs : CompileState.Abreast s.temporaries s'.temporaries { s with registry := {} }
        { s' with registry := {} } := ⟨rfl, 0, rfl, rfl⟩
    obtain ⟨hstatements, hfault, hstate⟩ := renamed_compileTrees c names mode trees hs
    dsimp only
    rcases hrun : compileTrees c mode trees { s with registry := {} } with ⟨⟨sts, fault⟩, s₁⟩
    rcases hrun' : compileTrees (c.naming names) mode trees { s' with registry := {} } with
      ⟨⟨sts', fault'⟩, s₁'⟩
    rw [hrun, hrun'] at hstatements hfault hstate
    obtain rfl : fault' = fault := hfault
    cases fault' with
    | some e => exact ⟨.fault _, hstate.temporaries⟩
    | none =>
      refine ⟨.answer ⟨hstatements, ?_⟩, hstate.temporaries⟩
      rw [hstate.registry]

end PathQuery
