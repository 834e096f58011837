import Mathlib.Logic.Function.Basic
import PathQuery.Proofs.Compile.Writing

/-!
# Compiling behind other statements

Statements share a registry, so what a path compiles to depends on how many aliases have been given
before. It depends on nothing else about them: behind `k` aliases the compiler does, step by step,
what it does on an empty registry, with the `i`-th alias renamed to the `(k + i)`-th. Two runs are
kept side by side for this. Their answers are the same up to the renaming, their faults are the
same, and whatever happens the one registry stays the other with the earlier columns put before it.

Faults do not need that much: from whatever two states, the compiler either succeeds twice or fails
twice with one fault. Whether the one state is behind the other is a parameter `e` of the relation
between the runs, so both facts come from one walk over the compiler.
-/

namespace PathQuery

/-! ## Renaming aliases -/

/-- The alias `k` places later; what is no alias stays as it is. -/
noncomputable def laterAlias (k : ℕ) : String → String :=
  Function.extend aliasName (fun i ↦ aliasName (k + i)) id

@[simp] theorem laterAlias_aliasName (k i : ℕ) : laterAlias k (aliasName i) = aliasName (k + i) :=
  aliasName_injective.extend_apply _ _ i

@[simp] theorem laterAlias_empty (k : ℕ) : laterAlias k "" = "" := by
  refine Function.extend_apply' _ _ _ ?_
  rintro ⟨i, hi⟩
  rw [aliasName, String.append_eq_empty_iff] at hi
  exact absurd hi.1 (by decide)

section MapAliases

variable (f : String → String)

/-- A projected column under another alias. -/
def Projected.mapAlias (q : Projected) : Projected := { q with name := f q.name }

/-- A column that is referred to by its alias. -/
def ColumnRef.mapAlias (c : ColumnRef) : ColumnRef := { c with column := f c.column }

/-- A select of tables under other aliases. It gives aliases but refers to none. -/
def Select.mapAliases (s : Select) : Select :=
  { s with projections := s.projections.map fun q ↦ { q with name := f q.name } }

/-- A further derived table under other aliases, by which it is joined as well. -/
def Link.mapAliases (l : Link) : Link :=
  ⟨l.select.mapAliases f, l.left.mapAlias f, l.right.mapAlias f⟩

/-- Derived tables under other aliases. The statement refers to all their columns by alias. -/
def SplitSelect.mapAliases (s : SplitSelect) : SplitSelect where
  projections := s.projections.map fun q ↦ ⟨q.column.mapAlias f, f q.name⟩
  first := s.first.mapAliases f
  links := s.links.map (Link.mapAliases f)
  order := s.order.map fun o ↦ { o with column := o.column.mapAlias f }

/-- A query under other aliases. -/
def Query.mapAliases : Query → Query
  | .single s => .single (s.mapAliases f)
  | .split s => .split (s.mapAliases f)

/-- A statement under other aliases, with the text and the operands that its query then has. -/
def Statement.mapAliases (st : Statement) : Statement :=
  { st with
    query := st.query.mapAliases f
    sql := (st.query.mapAliases f).render st.dialect
    operands := (st.query.mapAliases f).operands st.dialect }

/-- A derived table under way under other aliases. -/
def CompileM.Segment.mapAliases (s : Segment) : Segment :=
  ⟨s.select.mapAliases f, s.nodes, s.shown.map (Projected.mapAlias f),
    s.helpers.map (Projected.mapAlias f)⟩

end MapAliases

/-! ## Looking up a renamed alias -/

section Lookup

variable {f : String → String}

theorem Projected.find?_mapAlias (ps : List Projected) (leaf id : NodeId) (column : String) :
    find? (ps.map (mapAlias f)) leaf id column = (find? ps leaf id column).map f := by
  have hunder : ∀ role : Role,
      ((ps.map (mapAlias f)).reverse.find? fun p ↦
        p.node = id ∧ p.role = role ∧ p.column = column).map (·.name) =
      ((ps.reverse.find? fun p ↦ p.node = id ∧ p.role = role ∧ p.column = column).map
        (·.name)).map f := by
    intro role
    rw [← List.map_reverse, List.find?_map, Option.map_map, Option.map_map]
    rfl
  rw [find?, find?]
  simp only [hunder, Option.orElse_eq_or, Option.map_or]
  split <;> rfl

theorem CompileM.segmentOf_mapAliases (segments : List Segment) (id : NodeId) :
    segmentOf (segments.map (Segment.mapAliases f)) id = segmentOf segments id := by
  rw [segmentOf, List.findIdx_map]
  rfl

theorem CompileM.outerRef_mapAliases (hf : f "" = "") (segments : List Segment)
    (leaf id : NodeId) (column : String) :
    outerRef (segments.map (Segment.mapAliases f)) leaf id column =
      (outerRef segments leaf id column).mapAlias f := by
  have hprojected : (segments.map (Segment.mapAliases f)).flatMap (fun s ↦ s.shown ++ s.helpers) =
      (segments.flatMap fun s ↦ s.shown ++ s.helpers).map (Projected.mapAlias f) := by
    rw [List.flatMap_map, List.map_flatMap]
    exact List.flatMap_congr fun s _ ↦ List.map_append.symm
  rw [outerRef, outerRef, segmentOf_mapAliases, hprojected, Projected.find?_mapAlias,
    ColumnRef.mapAlias, ← Option.getD_map f, hf]

theorem CompileM.outerProjections_mapAliases (segments : List Segment) :
    outerProjections (segments.map (Segment.mapAliases f)) =
      (outerProjections segments).map fun q ↦ ⟨q.column.mapAlias f, f q.name⟩ := by
  rw [outerProjections, outerProjections, List.zipIdx_map, List.flatMap_map, List.map_flatMap]
  refine List.flatMap_congr fun x _ ↦ ?_
  change (x.1.shown.map (Projected.mapAlias f)).map _ = (x.1.shown.map _).map _
  rw [List.map_map, List.map_map]
  rfl

/-- Joining derived tables under other aliases refers to them by these aliases. -/
theorem SplitSelect.ofSegments_mapAliases (hf : f "" = "") (leaf : NodeId)
    (segments : List CompileM.Segment) (js : List CompileM.Joint) (keys : List Tree.SortKey) :
    ofSegments leaf (segments.map (CompileM.Segment.mapAliases f)) js keys =
      (ofSegments leaf segments js keys).mapAliases f := by
  have href := CompileM.outerRef_mapAliases hf segments leaf
  have hfirst : ((segments.map (CompileM.Segment.mapAliases f)).head?.map (·.select)).getD default =
      ((segments.head?.map (·.select)).getD default : Select).mapAliases f := by
    cases segments <;> rfl
  have hpairs : ((segments.map (CompileM.Segment.mapAliases f)).drop 1).zip js =
      ((segments.drop 1).zip js).map (Prod.map (CompileM.Segment.mapAliases f) id) := by
    rw [← List.map_drop, List.zip_map_left]
  rw [ofSegments, ofSegments, mapAliases]
  simp only [CompileM.outerProjections_mapAliases, href, hfirst, hpairs, List.map_map]
  rfl

end Lookup

/-! ## Two runs side by side -/

/-- `s'` gives the aliases of `s` behind those of some columns, and the same temporary names. -/
structure CompileState.Behind (earlier : Array Column) (s s' : CompileState) : Prop where
  /-- The columns of the one come after the earlier ones in the other. -/
  registry : s'.registry.columns = earlier ++ s.registry.columns
  /-- They give the same temporary names. -/
  temporaries : s'.temporaries = s.temporaries

theorem CompileState.Behind.size {earlier : Array Column} {s s' : CompileState}
    (h : s.Behind earlier s') : s'.registry.size = earlier.size + s.registry.size := by
  rw [Registry.size, h.registry, Array.size_append, Registry.size]

namespace CompileM

variable {α β γ δ : Type} {e : Prop} {earlier : Array Column}

/-- The same fault twice, or two answers; if `e` holds, the second is the first read through `f`. -/
inductive Alike (e : Prop) (f : α → β) : Except QueryError α → Except QueryError β → Prop
  | fault (x : QueryError) : Alike e f (.error x) (.error x)
  | answer {a : α} {b : β} (h : e → b = f a) : Alike e f (.ok a) (.ok b)

theorem Alike.error_iff {f : α → β} {x : Except QueryError α} {y : Except QueryError β}
    (h : Alike e f x y) (fault : QueryError) : y = .error fault ↔ x = .error fault := by
  cases h with
  | fault x => rw [Except.error.injEq, Except.error.injEq]
  | answer _ => constructor <;> rintro ⟨⟩

theorem Alike.eq_map {f : α → β} {x : Except QueryError α} {y : Except QueryError β}
    (h : Alike True f x y) : y = x.map f := by
  cases h with
  | fault x => rfl
  | answer hb => exact congrArg Except.ok (hb trivial)

/-- `m'` succeeds when `m` does and fails with the fault of `m` otherwise. If `e` holds and the
state of `m'` is behind that of `m`, it answers what `m` answers, read through `f`, and the states
stay one behind the other whatever the outcome. -/
def Mirrors (e : Prop) (earlier : Array Column) (f : α → β) (m : CompileM α) (m' : CompileM β) :
    Prop :=
  ∀ ⦃s s'⦄, (e → s.Behind earlier s') → Alike e f (m.runOn s).1 (m'.runOn s').1 ∧
    (e → (m.runOn s).2.Behind earlier (m'.runOn s').2)

namespace Mirrors

theorem pure {f : α → β} {a : α} {b : β} (hb : e → b = f a) :
    Mirrors e earlier f (pure a) (pure b) :=
  fun _ _ h ↦ ⟨.answer hb, h⟩

theorem bind {f : α → β} {h : γ → δ} {m : CompileM α} {m' : CompileM β} {g : α → CompileM γ}
    {g' : β → CompileM δ} (hm : Mirrors e earlier f m m')
    (hg : ∀ a b, (e → b = f a) → Mirrors e earlier h (g a) (g' b)) :
    Mirrors e earlier h (m >>= g) (m' >>= g') := by
  intro s s' hs
  obtain ⟨hanswer, hstate⟩ := hm hs
  rw [runOn_bind, runOn_bind]
  rcases hrun : m.runOn s with ⟨x, s₁⟩
  rcases hrun' : m'.runOn s' with ⟨x', s₁'⟩
  rw [hrun, hrun'] at hanswer hstate
  cases hanswer with
  | fault x => exact ⟨.fault x, hstate⟩
  | answer hb => exact hg _ _ hb hstate

theorem pure_bind {h : γ → δ} {a : α} {g : α → CompileM γ} {g' : α → CompileM δ}
    (hg : Mirrors e earlier h (g a) (g' a)) :
    Mirrors e earlier h (Pure.pure a >>= g) (Pure.pure a >>= g') := hg

/-- What does not depend on the state is looked up first, and the same is found twice. -/
theorem lift_bind {h : γ → δ} {x : Except QueryError α} {g : α → CompileM γ} {g' : α → CompileM δ}
    (hg : ∀ a, Mirrors e earlier h (g a) (g' a)) :
    Mirrors e earlier h (liftM x >>= g) (liftM x >>= g') := by
  cases x with
  | error fault => exact fun _ _ hs ↦ ⟨.fault fault, hs⟩
  | ok a => exact hg a

theorem ite {f : α → β} {c : Prop} [Decidable c] {m₁ m₂ : CompileM α} {m₁' m₂' : CompileM β}
    (h₁ : Mirrors e earlier f m₁ m₁') (h₂ : Mirrors e earlier f m₂ m₂') :
    Mirrors e earlier f (if c then m₁ else m₂) (if c then m₁' else m₂') := by
  split
  · exact h₁
  · exact h₂

theorem mapM {f : β → γ} {g : α → CompileM β} {g' : α → CompileM γ}
    (hg : ∀ a, Mirrors e earlier f (g a) (g' a)) (as : List α) :
    Mirrors e earlier (List.map f) (as.mapM g) (as.mapM g') := by
  induction as with
  | nil =>
    rw [List.mapM_nil, List.mapM_nil]
    exact .pure fun _ ↦ rfl
  | cons a as ih =>
    rw [List.mapM_cons, List.mapM_cons]
    refine .bind (hg a) fun b b' hb ↦ .bind ih fun bs bs' hbs ↦ .pure fun he ↦ ?_
    rw [hb he, hbs he, List.map_cons]

/-- A fold whose steps answer alike answers alike. -/
theorem foldlM {g : β → α → CompileM β}
    (hg : ∀ b b' a, (e → b' = b) → Mirrors e earlier id (g b a) (g b' a)) (as : List α) {b b' : β}
    (hb : e → b' = b) : Mirrors e earlier id (as.foldlM g b) (as.foldlM g b') := by
  induction as generalizing b b' with
  | nil =>
    rw [List.foldlM_nil, List.foldlM_nil]
    exact .pure hb
  | cons a as ih =>
    rw [List.foldlM_cons, List.foldlM_cons]
    exact .bind (hg b b' a hb) fun _ _ hb₁ ↦ ih hb₁

theorem tryCatch {f : α → β} {m : CompileM α} {m' : CompileM β} (hm : Mirrors e earlier f m m')
    (g : QueryError → QueryError) :
    Mirrors e earlier f (tryCatch m fun x ↦ throw (g x)) (tryCatch m' fun x ↦ throw (g x)) := by
  intro s s' hs
  obtain ⟨hanswer, hstate⟩ := hm hs
  rw [runOn_tryCatch, runOn_tryCatch]
  rcases hrun : m.runOn s with ⟨x, s₁⟩
  rcases hrun' : m'.runOn s' with ⟨x', s₁'⟩
  rw [hrun, hrun'] at hanswer hstate
  cases hanswer with
  | fault x => exact ⟨.fault (g x), hstate⟩
  | answer hb => exact ⟨.answer hb, hstate⟩

/-- What is written plays no part. -/
theorem drafting_bind {h : γ → δ} {w w' : DraftM Unit} {g : Unit → CompileM γ}
    {g' : Unit → CompileM δ} (hg : Mirrors e earlier h (g ()) (g' ())) :
    Mirrors e earlier h (drafting w >>= g) (drafting w' >>= g') :=
  fun _ _ hs ↦ hg fun he ↦ ⟨(hs he).registry, (hs he).temporaries⟩

theorem push_journal (st st' : Statement) :
    Mirrors e earlier id (modify fun s ↦ { s with journal := s.journal.push st } : CompileM PUnit)
      (modify fun s ↦ { s with journal := s.journal.push st' }) :=
  fun _ _ h ↦ ⟨.answer fun _ ↦ rfl, fun he ↦ ⟨(h he).registry, (h he).temporaries⟩⟩

/-! ## What reads and changes the state -/

/-- The alias of a projected column is the one that is as many places later as there are earlier
columns. -/
theorem project (id : NodeId) (n : Node) (role : Role) (column : String) :
    Mirrors e earlier (Projected.mapAlias (laterAlias earlier.size)) (project id n role column)
      (project id n role column) := by
  intro s s' h
  constructor
  · refine .answer fun he ↦ ?_
    change (⟨id, role, column, aliasName s'.registry.size⟩ : Projected) =
      ⟨id, role, column, laterAlias earlier.size (aliasName s.registry.size)⟩
    rw [laterAlias_aliasName, (h he).size]
  · refine fun he ↦ ⟨?_, (h he).temporaries⟩
    change s'.registry.columns.push _ = earlier ++ s.registry.columns.push _
    rw [(h he).registry, Array.append_push]

theorem nextName (c : Compiler) (key : String) :
    Mirrors e earlier id (nextName c key) (nextName c key) := by
  intro s s' h
  constructor
  · refine .answer fun he ↦ ?_
    change c.temporaryName key s'.temporaries = c.temporaryName key s.temporaries
    rw [(h he).temporaries]
  · exact fun he ↦ ⟨(h he).registry, congrArg (· + 1) (h he).temporaries⟩

end Mirrors

/-! ## What is projected -/

namespace Mirrors

variable {c : Compiler} {t : Tree} {p : Path} {branches : List NodeId}

theorem projectNode (t : Tree) (id : NodeId) (n : Node) (role : Role) :
    Mirrors e earlier (List.map (Projected.mapAlias (laterAlias earlier.size)))
      (projectNode t id n role) (projectNode t id n role) :=
  .lift_bind fun columns ↦ .mapM (fun column ↦ .project id n role column) columns

/-- Parts that are answered one after the other are put together. -/
theorem flatten {f : β → γ} {m : CompileM (List (List β))} {m' : CompileM (List (List γ))}
    (hm : Mirrors e earlier (List.map (List.map f)) m m') :
    Mirrors e earlier (List.map f) (do return (← m).flatten) (do return (← m').flatten) := by
  refine .bind hm fun parts parts' hparts ↦ .pure fun he ↦ ?_
  rw [hparts he, List.map_flatten]

theorem projectSteps (t : Tree) (leaf : NodeId) (ids : List NodeId) :
    Mirrors e earlier (List.map (Projected.mapAlias (laterAlias earlier.size)))
      (projectSteps t leaf ids) (projectSteps t leaf ids) := by
  refine .flatten (.mapM (fun id ↦ .lift_bind fun n ↦ ?_) ids)
  -- each of the four cases projects in two parts and joins them
  have hnone : Mirrors e earlier (List.map (Projected.mapAlias (laterAlias earlier.size)))
      (Pure.pure []) (Pure.pure []) := .pure fun _ ↦ rfl
  refine .ite (.bind (.projectNode t id n .result) ?_) (.bind hnone ?_)
  all_goals
    intro result result' hresult
    refine .ite (.bind (.projectNode t id n .labeled) ?_) (.bind hnone ?_)
    all_goals
      intro labeled labeled' hlabeled
      exact .pure fun he ↦ by rw [hresult he, hlabeled he, List.map_append]

theorem projectHelpers (t : Tree) (leaf : NodeId) (needed : List (NodeId × String))
    (ids : List NodeId) :
    Mirrors e earlier (List.map (Projected.mapAlias (laterAlias earlier.size)))
      (projectHelpers t leaf needed ids) (projectHelpers t leaf needed ids) :=
  .flatten (.mapM (fun id ↦ .lift_bind fun n ↦
    .mapM (fun column ↦ .project id n .helper column) _) ids)

/-! ## Selects -/

theorem addFilter (c : Compiler) (t : Tree) (table : Table) (source : Source) (f : Filter)
    {fc fc' : FilterClauses} (hfc : e → fc' = fc) :
    Mirrors e earlier id (addFilter c t table source fc f) (addFilter c t table source fc' f) := by
  refine .lift_bind fun form ↦ ?_
  cases form with
  | always => exact .pure hfc
  | holds condition => exact .drafting_bind (.pure fun he ↦ by rw [hfc he, id])
  | member column type without =>
    refine .bind (.nextName c f.key) fun name name' hname ↦ .drafting_bind (.pure fun he ↦ ?_)
    rw [hfc he, hname he, id, id]

theorem addFilters (c : Compiler) (t : Tree) (p : Path) (id : NodeId) {fc fc' : FilterClauses}
    (hfc : e → fc' = fc) :
    Mirrors e earlier (fun fc ↦ fc) (addFilters c t p fc id) (addFilters c t p fc' id) :=
  .lift_bind fun n ↦ .foldlM (fun _ _ f hfc ↦ .addFilter c t n.table (p.source id) f hfc) _ hfc

/-- Nothing in a select but what it projects shows an alias. -/
theorem select (ids : List NodeId) (starts ends : Bool) (order : List SortColumn)
    (f : String → String) {projected projected' : List Projected}
    (hprojected : e → projected' = projected.map (Projected.mapAlias f))
    {tables tables' : List MembershipTable} (htables : e → tables' = tables) :
    Mirrors e earlier (Prod.map (Select.mapAliases f) id)
      (select c t p projected ids branches tables starts ends order)
      (select c t p projected' ids branches tables' starts ends order) := by
  -- with or without joins of branches, the walk over the filters and what follows it are the same
  have hrest : ∀ chain optional (opened : DraftM Unit)
      (closed closed' : FilterClauses → DraftM Unit),
      Mirrors e earlier (Prod.map (Select.mapAliases f) id)
      (do
        drafting opened
        let clauses ← ids.foldlM (CompileM.addFilters c t p) { tables }
        drafting (closed clauses)
        return ((⟨chain, optional, clauses⟩ : SelectParts).select t p projected
          ⟨ids, starts, ends⟩ order, clauses.tables))
      (do
        drafting opened
        let clauses ← ids.foldlM (CompileM.addFilters c t p) { tables := tables' }
        drafting (closed' clauses)
        return ((⟨chain, optional, clauses⟩ : SelectParts).select t p projected'
          ⟨ids, starts, ends⟩ order, clauses.tables)) := by
    intro chain optional opened closed closed'
    refine .drafting_bind <| .bind (.foldlM (fun _ _ id hfc ↦ .addFilters c t p id hfc) ids ?_) ?_
    · exact fun he ↦ by rw [htables he]
    · intro clauses clauses' hclauses
      refine .drafting_bind (.pure fun he ↦ ?_)
      have hprojections : (projected.map (Projected.mapAlias f)).map (Projected.projection p) =
          (projected.map (Projected.projection p)).map fun q ↦ { q with name := f q.name } := by
        rw [List.map_map, List.map_map]
        rfl
      rw [hclauses he, hprojected he, SelectParts.select, SelectParts.select, hprojections]
      rfl
  refine .lift_bind fun chain ↦ .ite (.lift_bind fun optional ↦ ?_) (.pure_bind ?_)
  · exact hrest chain optional _ _ _
  · exact hrest chain [] _ _ _

theorem single : Mirrors e earlier (Prod.map (Query.mapAliases (laterAlias earlier.size)) id)
    (single c t p branches) (single c t p branches) := by
  refine .lift_bind fun keys ↦ .bind (.projectSteps t p.leaf p.all) fun _ _ hprojected ↦ ?_
  refine .bind (.select p.all true true _ _ hprojected fun _ ↦ rfl) fun q q' hq ↦ ?_
  exact .drafting_bind (.pure fun he ↦ by rw [hq he]; rfl)

/-! ## Derived tables -/

theorem segmentSelects (needed : List (NodeId × String)) (starts : Bool)
    (runs : List (List NodeId)) {tables tables' : List MembershipTable}
    (htables : e → tables' = tables) :
    Mirrors e earlier (Prod.map (List.map (Segment.mapAliases (laterAlias earlier.size))) id)
      (segmentSelects c t p branches needed starts tables runs)
      (segmentSelects c t p branches needed starts tables' runs) := by
  induction runs generalizing starts tables tables' with
  | nil => exact .pure fun he ↦ by rw [htables he]; rfl
  | cons run rest ih =>
    refine .bind (.projectSteps t p.leaf _) fun shown shown' hshown ↦ ?_
    refine .bind (.projectHelpers t p.leaf needed _) fun helpers helpers' hhelpers ↦ ?_
    refine .bind (.select _ starts rest.isEmpty [] (laterAlias earlier.size) (fun he ↦ ?_) htables)
      fun q q' hq ↦ ?_
    · rw [hshown he, hhelpers he, List.map_append]
    · refine .bind (ih false fun he ↦ by rw [hq he]; rfl) fun others others' hothers ↦ ?_
      exact .pure fun he ↦ by rw [hshown he, hhelpers he, hq he, hothers he]; rfl

theorem split (runs : List (List NodeId)) :
    Mirrors e earlier (Prod.map (Query.mapAliases (laterAlias earlier.size)) id)
      (split c t p runs branches) (split c t p runs branches) := by
  refine .lift_bind fun keys ↦ .lift_bind fun js ↦ ?_
  refine .bind (.segmentSelects (neededColumns js keys) true runs fun _ ↦ rfl) ?_
  intro segments segments' hsegments
  refine .drafting_bind (.pure fun he ↦ ?_)
  rw [hsegments he]
  exact congrArg (fun q ↦ (Query.split q, segments.2))
    (SplitSelect.ofSegments_mapAliases (laterAlias_empty earlier.size) p.leaf segments.1 js keys)

theorem body : Mirrors e earlier (Prod.map (Query.mapAliases (laterAlias earlier.size)) id)
    (body c t p branches) (body c t p branches) := by
  rw [CompileM.body]
  split
  · exact .single
  · exact .split _

/-- **Compiling behind earlier columns renames the aliases** and changes nothing else. -/
theorem statement (c : Compiler) (t : Tree) (mode : Mode) (p : Path) (branches : List NodeId) :
    Mirrors e earlier (Statement.mapAliases (laterAlias earlier.size))
      (statement c t mode p branches) (statement c t mode p branches) := by
  rw [statement_eq_plainStatement]
  refine .drafting_bind <| .lift_bind fun leaf ↦ .bind (.tryCatch .body _) fun q q' hq ↦ ?_
  refine .bind (.push_journal _ _) fun _ _ _ ↦ .pure fun he ↦ ?_
  rw [hq he]
  rfl

theorem modeStatements (c : Compiler) (t : Tree) (mode : Mode) :
    Mirrors e earlier (List.map (Statement.mapAliases (laterAlias earlier.size)))
      (modeStatements c t mode) (modeStatements c t mode) := by
  refine .lift_bind fun paths ↦ .mapM (fun p ↦ ?_) paths
  exact .statement c t mode p.path p.branches

theorem allStatements (c : Compiler) (t : Tree) :
    Mirrors e earlier (List.map (Statement.mapAliases (laterAlias earlier.size)))
      (allStatements c t) (allStatements c t) := by
  refine .lift_bind fun _ ↦ .flatten ?_
  exact .mapM (.modeStatements c t) Mode.known

end Mirrors

/-- **Faults do not depend on the state of the compiler.** Whatever aliases have been given and
temporary tables named, compiling a tree fails with one fault or does not fail. -/
theorem error_allStatements_iff (c : Compiler) (t : Tree) (s s' : CompileState)
    (fault : QueryError) : ((allStatements c t).runOn s').1 = .error fault ↔
      ((allStatements c t).runOn s).1 = .error fault := by
  have hmirrors : Mirrors False #[] _ (allStatements c t) (allStatements c t) :=
    .allStatements c t
  obtain ⟨halike, -⟩ := @hmirrors s s' False.elim
  exact halike.error_iff fault

end CompileM

end PathQuery
