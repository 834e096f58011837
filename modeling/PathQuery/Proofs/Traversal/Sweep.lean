import PathQuery.Proofs.Compile.Operands
import PathQuery.Proofs.Compile.Sweep
import PathQuery.Proofs.Traversal.Production

/-!
# A traversal is a sweep

A traversal compiles a statement only when its turn comes, and reads its rows before it compiles the
next. On a database that never fails this makes no difference: the statements it runs are those of
a sweep over its trees, and its results are what their rows stand for, statement by statement.

The two are compared task by task. A *schedule* says what compiling a list of tasks in order comes
to; a sweep follows the schedule of the agenda by its definition, and a traversal follows it step by
step.
-/

namespace PathQuery

/-! ## What a statement answers -/

namespace CompiledTask

variable {x : CompiledTask} {result : ResultSet}

/-- What the cells of a result stand for. -/
def reader (x : CompiledTask) (result : ResultSet) : Except String RowReader :=
  RowReader.ofNames (x.tree.catalog.getD (.empty "")) x.registry x.statement.mode
    (result.names x.statement.sql)

/-- The rows of a result, with a cell for every column. -/
def rows (x : CompiledTask) (result : ResultSet) : List (List Value) :=
  result.rows.map (ResultSet.fitRow (result.names x.statement.sql).length)

/-- Every column of a result is known, and every row can be read. -/
def Readable (x : CompiledTask) (result : ResultSet) : Prop :=
  ∃ reader, x.reader result = .ok reader ∧ reader.Readable (x.rows result)

instance (x : CompiledTask) (result : ResultSet) : Decidable (x.Readable result) :=
  decidable_of_iff ((x.reader result).toOption.any (·.Readable (x.rows result))) <| by
    rw [Readable]
    cases x.reader result <;> simp [Except.toOption]

/-- These are the results of a statement: those of its rows that have a projected element, in
order. -/
structure Answers (x : CompiledTask) (result : ResultSet) (results : List Result) : Prop where
  /-- Every row whose leaf has an identity is read into a result. -/
  reads : ∃ reader, x.reader result = .ok reader ∧
    List.Forall₂ (fun row r ↦ reader.read row = .ok (some r))
      ((x.rows result).filter fun row ↦ !reader.leafIsNull row) results
  /-- Every result carries the mode of the statement. -/
  mode : ∀ r ∈ results, r.mode = x.statement.mode

theorem mode_reader {reader : RowReader} (h : x.reader result = .ok reader) :
    reader.mode = x.statement.mode := by
  obtain ⟨columns, -, h⟩ := bind_eq_ok_iff.mp h
  cases h
  rfl

theorem answers_readAll {reader : RowReader} (h : x.reader result = .ok reader)
    (hreadable : reader.Readable (x.rows result)) :
    x.Answers result (reader.readAll (x.rows result)) := by
  refine ⟨⟨reader, h, RowReader.forall₂_readAll hreadable⟩, fun r hr ↦ ?_⟩
  obtain ⟨row, hrow, hr⟩ := List.mem_filterMap.mp hr
  obtain ⟨found, hfound⟩ := hreadable row hrow
  rw [hfound] at hr
  obtain rfl : found = some r := hr
  rw [RowReader.mode_of_read_eq_ok hfound, mode_reader h]

end CompiledTask

/-! ## Schedules -/

/-- What compiling tasks in order comes to. -/
inductive Schedule (c : Compiler) :
    List Task → CompileState → List CompiledTask → CompileState → Prop
  | nil (s : CompileState) : Schedule c [] s [] s
  | run {tree : Tree} {mode : Mode} {p : OptionalPath} {st : Statement} {tasks : List Task}
      {s s₁ s' : CompileState} {xs : List CompiledTask}
      (first : (CompileM.statement c tree mode p.path p.branches).Yields s st s₁)
      (later : Schedule c tasks s₁ xs s') :
      Schedule c (.run tree mode p :: tasks) s (⟨tree, st, s₁.registry⟩ :: xs) s'
  /-- Aliases do not outlive a mode. -/
  | leave {next : Option Mode} {tasks : List Task} {s s' : CompileState} {xs : List CompiledTask}
      (later : Schedule c tasks { s with registry := {} } xs s') :
      Schedule c (.leave next :: tasks) s xs s'

namespace Schedule

variable {c : Compiler} {tasks tasks' : List Task} {s s₁ s' : CompileState}
  {xs xs' : List CompiledTask}

theorem append (h : Schedule c tasks s xs s₁) (h' : Schedule c tasks' s₁ xs' s') :
    Schedule c (tasks ++ tasks') s (xs ++ xs') s' := by
  induction h with
  | nil => exact h'
  | run first _ ih => exact .run first (ih h')
  | leave _ ih => exact .leave (ih h')

theorem of_modeCompiled {t : Tree} {mode : Mode}
    (h : (CompileM.modeCompiled c t mode).Yields s xs s') : Schedule c (t.tasks mode) s xs s' := by
  obtain ⟨paths, hpaths, hxs⟩ := CompileM.yields_modeCompiled_iff.mp h
  rw [Tree.tasks_of_modePaths hpaths]
  clear h hpaths
  induction paths generalizing s xs with
  | nil =>
    obtain ⟨rfl, rfl⟩ := CompileM.yields_mapM_nil_iff.mp hxs
    exact .nil s'
  | cons p paths ih =>
    obtain ⟨x, s₁, rest, hx, hrest, rfl⟩ := CompileM.yields_mapM_cons_iff.mp hxs
    obtain ⟨st, hst, rfl⟩ := CompileM.yields_compileTask_iff.mp hx
    exact .run hst (ih hrest)

theorem of_trees {trees : List Tree} {mode : Mode} {parts : List (List CompiledTask)}
    (h : (trees.mapM (CompileM.modeCompiled c · mode)).Yields s parts s') :
    Schedule c (trees.flatMap (·.tasks mode)) s parts.flatten s' := by
  induction trees generalizing s parts with
  | nil =>
    obtain ⟨rfl, rfl⟩ := CompileM.yields_mapM_nil_iff.mp h
    exact .nil s'
  | cons t trees ih =>
    obtain ⟨part, s₁, rest, hpart, hrest, rfl⟩ := CompileM.yields_mapM_cons_iff.mp h
    exact (of_modeCompiled hpart).append (ih hrest)

theorem of_sweepMode {trees : List Tree} {mode : Mode} (next : Option Mode)
    (h : (CompileM.sweepMode (CompileM.modeCompiled c) trees mode).Yields s xs s') :
    Schedule c (modeTasks trees mode next) s xs s' := by
  obtain ⟨parts, s₁, hparts, rfl, rfl⟩ := CompileM.yields_sweepMode_iff.mp h
  rw [← List.append_nil parts.flatten]
  exact (of_trees hparts).append (.leave (.nil _))

/-- A sweep follows the agenda of its trees. -/
theorem of_sweep {trees : List Tree}
    (h : (CompileM.sweep (CompileM.modeCompiled c) trees).Yields s xs s') :
    Schedule c (agendaOf trees) s xs s' := by
  obtain ⟨parts, hparts, rfl⟩ := CompileM.yields_sweep_iff.mp h
  obtain ⟨regular, s₁, _, hregular, hrest₁, rfl⟩ := CompileM.yields_mapM_cons_iff.mp hparts
  obtain ⟨optional, s₂, _, hoptional, hrest₂, rfl⟩ := CompileM.yields_mapM_cons_iff.mp hrest₁
  obtain ⟨emit, s₃, _, hemit, hrest₃, rfl⟩ := CompileM.yields_mapM_cons_iff.mp hrest₂
  obtain ⟨rfl, rfl⟩ := CompileM.yields_mapM_nil_iff.mp hrest₃
  have hall := ((of_sweepMode (some .optional) hregular).append
    (of_sweepMode (some .emit) hoptional)).append (of_sweepMode none hemit)
  simpa [agendaOf, agendaFrom] using hall

end Schedule

/-! ## Opening a statement -/

namespace Traversal

variable {t₀ t u : Traversal} {s s' : Session} {ch : Channel} {tree : Tree} {st : Statement}

/-- The next result is the same as long as no statement is run. -/
theorem nextResult_of_extends {rs : List CallRecord} (h : s.Extends ch rs s')
    (hrs : (runCalls rs).countP (fun c ↦ c.kind = .query) = 0) :
    s'.database.nextResult = s.database.nextResult := by
  rw [Database.nextResult, Database.nextResult, h.script, count_query h.calls, hrs, Nat.add_zero]

section Open

variable (hlive : ch.context ≠ .given true) (hscript : s.database.script.NeverFails)
include hlive hscript

/-- A call that cannot fail is answered. -/
theorem exists_answer {m : SessionM (Option String)} {c : Call}
    (hm : m.Emits ch fun failure rs ↦ rs = [⟨c, ch, failure⟩]) :
    ∃ s', m s = (none, s') ∧ s.Extends ch [⟨c, ch, none⟩] s' := by
  obtain ⟨_, hextends, rfl⟩ := hm s
  have hnone : (m s).1 = none := (smooth_cons.mp (hextends.smooth hlive hscript)).1
  rw [hnone] at hextends
  exact ⟨_, Prod.ext_iff.mpr ⟨hnone, rfl⟩, hextends⟩

/-- A statement is prepared and queried, and its rows are there to be read. -/
theorem exists_startQuery (held : Holdings) {reader : RowReader}
    (hreader : (CompiledTask.mk tree st s.compiling.registry).reader s.database.nextResult =
      .ok reader) :
    ∃ s' held', s.Extends ch [⟨.prepare st.sql, ch, none⟩, ⟨.query st.operands, ch, none⟩] s' ∧
      startQuery ch tree st held s =
        ((.ok ⟨reader, (CompiledTask.mk tree st s.compiling.registry).rows
          s.database.nextResult⟩, held'), s') := by
  obtain ⟨s₁, hprepare, hextends₁⟩ := exists_answer hlive hscript (.prepare st.sql)
  have hscript₁ : s₁.database.script.NeverFails := by
    rw [hextends₁.script]
    exact hscript
  obtain ⟨s₂, hquery, hextends₂⟩ :=
    exists_answer hlive hscript₁ (c := .query st.operands) (.call rfl)
  have hextends := hextends₁.trans hextends₂
  rw [CompiledTask.reader, ← hextends.compiling] at hreader
  refine ⟨_, { held with statement := true, rows := true },
    hextends.notify (.executed st.mode st.fingerprint st.operands.length), ?_⟩
  simp only [startQuery, bind, StateT.bind, hprepare, get, getThe, MonadStateOf.get, StateT.get,
    pure, hquery, nextResult_of_extends hextends₁ rfl, hreader]
  rfl

/-- A statement whose temporary tables can be loaded is run, and no other. -/
theorem exists_runStatement {d : Dialect} (hload : d.engine = .sqlite ∨ st.tables = [])
    {reader : RowReader} (hreader : (CompiledTask.mk tree st s.compiling.registry).reader
      s.database.nextResult = .ok reader) :
    ∃ s' rs held, s.Extends ch rs s' ∧ runCalls rs = [.prepare st.sql, .query st.operands] ∧
      runStatement d ch tree st s =
        ((.ok ⟨reader, (CompiledTask.mk tree st s.compiling.registry).rows
          s.database.nextResult⟩, held), s') := by
  obtain ⟨loaded, hextends₁, hloads, hcause⟩ :=
    SessionM.emits_loadTables d ch st st.tables s
  rcases hloaded : SessionM.loadTables d ch st st.tables s with ⟨⟨failure, names⟩, s₁⟩
  rw [hloaded] at hextends₁ hloads hcause
  obtain rfl : failure = none := by
    cases failure with
    | none => rfl
    | some e =>
      exfalso
      rcases hcause e rfl with hblames | ⟨htables, -, hengine⟩
      · exact (hextends₁.smooth hlive hscript).not_blames e hblames
      · rcases hload with hsqlite | hempty
        · rw [hengine] at hsqlite
          cases hsqlite
        · exact htables hempty
  have hscript₁ : s₁.database.script.NeverFails := by
    rw [hextends₁.script]
    exact hscript
  have hquiet := hloads.runCalls_eq_nil
  have hresult := nextResult_of_extends hextends₁ (by rw [hquiet]; rfl)
  rw [← hresult, ← hextends₁.compiling] at hreader ⊢
  obtain ⟨s₂, held, hextends₂, hquery⟩ :=
    exists_startQuery hlive hscript₁ { temporaries := names } hreader
  refine ⟨s₂, _, held, hextends₁.trans hextends₂, ?_, ?_⟩
  · rw [runCalls_append, hquiet]
    rfl
  · simp only [runStatement, bind, StateT.bind, hloaded, hquery]
    rfl

end Open

/-! ## Task by task -/

variable {c : Compiler} {state state' : CompileState} {xs : List CompiledTask}

/-- What is on the agenda comes to these statements, from where the session is. -/
def Due (c : Compiler) (t : Traversal) (xs : List CompiledTask) (state' : CompileState) : Prop :=
  ∃ state, Schedule c t.agenda state xs state' ∧ state.Agrees t.session.compiling

/-- Going on to the next tree passes over the ends of stages, where the aliases are forgotten as the
schedule has it. -/
theorem Due.turn (h : Due c t xs state') (hqueue : t.queue = []) : Due c t.turn.2 xs state' := by
  refine turn_induction (P := fun u ↦ Due c u xs state') ?_ ?_ hqueue h
  · rintro t mode hmode htree hqueue ⟨state, hschedule, hstate⟩
    rw [agenda_leaveStage hmode htree hqueue] at hschedule
    cases hschedule with
    | leave later => exact ⟨_, later, rfl, hstate.temporaries⟩
  · rintro t mode tree hmode htree hqueue ⟨state, hschedule, hstate⟩
    refine ⟨state, ?_, hstate⟩
    rwa [agenda_takeTree hmode htree hqueue]

/-- Compiling in a session goes as in any state that agrees. -/
theorem exists_compile {mode : Mode} {p : OptionalPath}
    (hstate : state.Agrees s.compiling)
    (hst : (CompileM.statement c tree mode p.path p.branches).Yields state st state') :
    ∃ s₁, SessionM.compile (CompileM.statement c tree mode p.path p.branches) s = (.ok st, s₁) ∧
      s₁.database = s.database ∧ state'.Agrees s₁.compiling := by
  obtain ⟨st', state₁, hyields, hagree⟩ := CompileM.follows_statement c tree mode p hst
    { s.compiling with journal := #[] } fun _ ↦ ⟨hstate.registry, hstate.temporaries⟩
  obtain ⟨hsame, hstate'⟩ := hagree trivial
  rw [hsame] at hyields
  have hcompile : SessionM.compile (CompileM.statement c tree mode p.path p.branches) s = (.ok st,
      { s with
        compiling := { state₁ with journal := #[] }
        notices := s.notices ++ state₁.journal.map Notice.compiled }) := by
    rw [SessionM.compile, hyields]
  exact ⟨_, hcompile, rfl, hstate'.registry, hstate'.temporaries⟩

/-- A statement yields its results, and no other is started. -/
theorem Poised.exists_run {job : Job} {rest : List Job} (h : Poised t)
    (hqueue : t.queue = job :: rest) (hstate : state.Agrees t.session.compiling)
    (hst : (CompileM.statement t.compiler job.tree job.mode job.path.path
      job.path.branches).Yields state st state')
    (hscript : t.session.database.script.NeverFails)
    (hload : t.compiler.dialect.engine = .sqlite ∨ st.tables = [])
    (hreadable : CompiledTask.Readable ⟨job.tree, st, state'.registry⟩
      t.session.database.nextResult) :
    ∃ results u, CompiledTask.Answers ⟨job.tree, st, state'.registry⟩
        t.session.database.nextResult results ∧
      Runs t results [.prepare st.sql, .query st.operands] u ∧ u.Before t ∧ Poised u ∧
      u.agenda = { t with queue := rest }.agenda ∧ state'.Agrees u.session.compiling := by
  obtain ⟨s₁, hcompile, hdatabase, hstate'⟩ := exists_compile hstate hst
  rw [← hstate'.registry, ← hdatabase] at hreadable ⊢
  rw [← hdatabase] at hscript
  obtain ⟨reader, hreader, hrows⟩ := hreadable
  obtain ⟨s₂, rs, held, hextends, hrs, hrun⟩ :=
    exists_runStatement (channel_context_ne h.live) hscript hload hreader
  -- the traversal with the statement open
  set t₁ : Traversal := { t with
    queue := rest
    session := s₂
    holdings := held
    stream := some ⟨reader, _⟩ }
  have hstep : t.step = .moves t₁ :=
    h.step_of_opened hqueue (by rw [openStatement_of_ok hcompile, hrun])
  have hopened : Runs t [] [.prepare st.sql, .query st.operands] t₁ := by
    refine ⟨.moves hstep (.refl t₁), ⟨rs, ?_, hrs⟩, ?_⟩
    · rw [Session.calls, Session.calls, ← hdatabase]
      exact hextends.calls
    · rw [← hdatabase]
      exact hextends.script
  have hscript₁ : t₁.session.database.script.NeverFails := by
    rw [hextends.script]
    exact hscript
  obtain ⟨u, hread, hpoised, hagenda, hcompiling⟩ :=
    exists_runs_of_stream hscript₁ hrows rfl h.buffer h.live
  refine ⟨_, u, CompiledTask.answers_readAll hreader hrows, hopened.trans hread,
    hread.produces.before_of_moves hstep, hpoised, hagenda, ?_⟩
  rw [hcompiling, hextends.compiling]
  exact hstate'

/-- Where no tree is left nothing is due. The traversal stops and gives its connection back, and has
the aliases that the schedule leaves. -/
theorem Poised.exists_stop (h : Poised t) (hdue : Due c t xs state') (hqueue : t.queue = [])
    (hturn : t.turn.1 = false) : xs = [] ∧ ∃ v rs, t.step = .stops v ∧ v.failure = t.failure ∧
      v.session.calls = t.session.calls ++ rs ∧ runCalls rs = [] ∧
      v.session.compiling.registry = state'.registry := by
  have hstep := h.step_of_turn hqueue
  obtain ⟨hempty, hdone⟩ := done_of_turn hqueue hturn
  obtain ⟨state, hschedule, hstate⟩ := hdue.turn hqueue
  rw [agenda_of_done hempty hdone] at hschedule
  cases hschedule
  obtain ⟨rs, hcalls, hrelease, hcompiling⟩ :=
    SessionM.exists_giveBack t.turn.2.channel t.turn.2.session
  obtain ⟨stage, root, queue, registry, notices, hsame⟩ := exists_turn hqueue
  rw [if_neg (by simp [hturn])] at hstep
  refine ⟨rfl, _, rs, hstep, ?_, ?_, ?_, ?_⟩
  · rw [hsame]
    rfl
  · refine hcalls.trans ?_
    rw [hsame]
    rfl
  · rw [runCalls, List.filter_eq_nil_iff]
    intro call hcall
    obtain ⟨r, hr, rfl⟩ := List.mem_map.mp hcall
    rw [hrelease r hr]
    exact Bool.false_ne_true
  · exact (congrArg CompileState.registry hcompiling).trans hstate.registry

/-- A traversal follows the schedule of its agenda: it starts the statements one after the other,
yields the results of each before it starts the next, and stops after the last. -/
theorem Poised.exists_runs {script : Script} {n : ℕ} (h : Poised t)
    (hdue : Due t₀.compiler t xs state') (hactive : Active t₀ t)
    (hdatabase : t.session.database.script = script)
    (hcount : t.session.database.count .query = n) (hscript : script.NeverFails)
    (hload : ∀ x ∈ xs, t₀.compiler.dialect.engine = .sqlite ∨ x.statement.tables = [])
    (hreadable : ∀ y ∈ xs.zipIdx n, y.1.Readable (script.results.getD y.2 {})) :
    ∃ parts u, List.Forall₂ (fun y part ↦ y.1.Answers (script.results.getD y.2 {}) part)
        (xs.zipIdx n) parts ∧
      Runs t parts.flatten
        (xs.flatMap fun x ↦ [.prepare x.statement.sql, .query x.statement.operands]) u ∧
      Poised u ∧ Due t₀.compiler u [] state' ∧ u.queue = [] ∧ u.turn.1 = false := by
  -- the induction is on what is left to be done: a step goes on to a tree, or a statement is run
  induction t using wellFounded_before.induction generalizing xs n with
  | _ t ih =>
  cases hqueue : t.queue with
  | nil =>
    have hstep := h.step_of_turn hqueue
    have hdue' := hdue.turn hqueue
    cases hturn : t.turn.1 with
    | false =>
      obtain ⟨rfl, -⟩ := h.exists_stop hdue hqueue hturn
      exact ⟨[], t, .nil, .refl t, h, hdue, hqueue, hturn⟩
    | true =>
      rw [hturn] at hstep
      have hmoved : Runs t [] [] t.turn.2 := by
        obtain ⟨stage, root, queue, registry, notices, hsame⟩ := exists_turn hqueue
        refine ⟨.moves hstep (.refl _), ⟨[], ?_, rfl⟩, ?_⟩
        · rw [hsame, List.append_nil]
          rfl
        · rw [hsame]
      obtain ⟨parts, u, hparts, hruns, hend⟩ := ih _ (before_of_moves hstep) (h.turn hqueue) hdue'
        (hactive.of_produces hmoved.produces) (hmoved.script.trans hdatabase)
        (hmoved.count_query.trans hcount) hload hreadable
      exact ⟨parts, u, hparts, hmoved.trans hruns, hend⟩
  | cons job rest =>
    obtain ⟨state, hschedule, hstate⟩ := hdue
    rw [agenda_of_queue hqueue] at hschedule
    cases hschedule with
    | @run _ _ _ st _ _ state₁ _ xs first later =>
    rw [List.zipIdx_cons, List.forall_mem_cons] at hreadable
    rw [List.forall_mem_cons] at hload
    have hcompiler : t.compiler = t₀.compiler := hactive.tracked.1
    have hresult : t.session.database.nextResult = script.results.getD n {} := by
      rw [Database.nextResult, hdatabase, hcount]
    obtain ⟨results, t₁, hanswers, hruns, hbefore, hpoised, hagenda, hstate₁⟩ :=
      h.exists_run hqueue hstate (by rwa [hcompiler]) (by rwa [hdatabase])
        (by rw [hcompiler]; exact hload.1) (by rw [hresult]; exact hreadable.1)
    rw [hresult] at hanswers
    -- one statement has been queried since
    have hcount₁ : t₁.session.database.count .query = n + 1 := by
      rw [hruns.count_query, hcount]
      rfl
    obtain ⟨parts, u, hparts, hrest, hend⟩ := ih _ hbefore hpoised
      ⟨state₁, by rwa [hagenda], hstate₁⟩ (hactive.of_produces hruns.produces)
      (hruns.script.trans hdatabase) hcount₁ hload.2 hreadable.2
    exact ⟨results :: parts, u, .cons hanswers hparts, hruns.trans hrest, hend⟩

/-! ## Starting -/

theorem exists_check (htotal : (CompileM.allStatements c tree).Total) (s : Session) :
    ∃ s₁, SessionM.check c tree s = (.ok (), s₁) ∧ s₁.database = s.database ∧
      s₁.compiling.registry = s.compiling.registry := by
  obtain ⟨sts, state, hsts⟩ := htotal { s.compiling with registry := {}, journal := #[] }
  refine ⟨_, Prod.ext_iff.mpr ⟨?_, rfl⟩, rfl, rfl⟩
  have hcompile : (SessionM.compile (CompileM.allStatements c tree)
      { s with compiling := { s.compiling with registry := {} } }).1 = .ok sts := by
    rw [SessionM.compile, hsts]
  exact congrArg (Except.map fun _ ↦ ()) hcompile

theorem exists_checkAll {trees : List Tree}
    (htotal : ∀ tree ∈ trees, (CompileM.allStatements c tree).Total) (i : ℕ) (s : Session) :
    ∃ s₁, SessionM.checkAll c i trees s = (none, s₁) ∧ s₁.database = s.database ∧
      s₁.compiling.registry = s.compiling.registry := by
  induction trees generalizing i s with
  | nil => exact ⟨s, rfl, rfl, rfl⟩
  | cons tree trees ih =>
    rw [List.forall_mem_cons] at htotal
    obtain ⟨s₁, hcheck, hdatabase, hregistry⟩ := exists_check htotal.1 s
    obtain ⟨s₂, hrest, hdatabase', hregistry'⟩ := ih htotal.2 (i + 1) s₁
    rw [checkAll_cons, hcheck]
    exact ⟨s₂, hrest, hdatabase'.trans hdatabase, hregistry'.trans hregistry⟩

/-- Taking a connection starts no statement. -/
theorem runCalls_of_connects {opening : List CallRecord} (h : Connects opening) :
    runCalls opening = [] := by
  rw [runCalls, List.filter_eq_nil_iff]
  intro call hcall
  obtain ⟨r, hr, rfl⟩ := List.mem_map.mp hcall
  obtain ⟨source, hsource⟩ := h r hr
  rw [hsource]
  exact Bool.false_ne_true

/-- A connection can be had from a database that never fails. -/
theorem exists_acquire {s : Session} (hscript : s.database.script.NeverFails) :
    ∃ k s' rs, SessionM.acquire (.given false) s = (.ok k, s') ∧ s'.calls = s.calls ++ rs ∧
      runCalls rs = [] ∧ s'.database.script = s.database.script ∧
      s'.compiling = s.compiling := by
  have hacquired := acquired s (.given false)
  rcases hacquire : SessionM.acquire (.given false) s with ⟨answer, s'⟩
  rw [hacquire] at hacquired
  cases hacquired with
  | @refused words opening _ hextends hconnects hrefused =>
    obtain ⟨r, hr, hwords⟩ := hrefused
    rw [hextends.smooth (by simp) hscript r hr] at hwords
    cases hwords
  | @taken k opening s₁ _ hextends hconnects hsmooth hcalls hlent hsame hcompiling hgauge =>
    refine ⟨k, s', opening ++ [⟨.acquire, ⟨some k, .given false⟩, none⟩], rfl, ?_, ?_,
      hsame.trans hextends.script, hcompiling.trans hextends.compiling⟩
    · rw [hcalls, hextends.calls, List.append_assoc]
    · rw [runCalls_append, runCalls_of_connects hconnects]
      rfl

/-- A traversal of trees that compile starts, and has its whole agenda before it. -/
theorem Unstarted.exists_start (h : Unstarted t t) (hlive : t.canceled = false)
    (hbuffer : t.buffer = []) (hscript : t.session.database.script.NeverFails)
    (htotal : ∀ tree ∈ t.trees, (CompileM.allStatements t.compiler tree).Total) :
    ∃ u rs, t.start = (.ok (), u) ∧ Poised u ∧ u.agenda = t.agenda ∧
      u.session.calls = t.session.calls ++ rs ∧ runCalls rs = [] ∧
      u.session.database.script = t.session.database.script ∧
      u.session.compiling.registry = t.session.compiling.registry ∧
      u.session.compiling.temporaries =
        (SessionM.checkAll t.compiler 0 t.trees t.session).2.compiling.temporaries := by
  obtain ⟨s₁, hcheck, hdatabase, hregistry⟩ := exists_checkAll htotal 0 t.session
  obtain ⟨k, s₂, rs, hacquire, hcalls, hrs, hsame, hcompiling⟩ :=
    exists_acquire (s := s₁) (by rwa [hdatabase])
  have hstart : t.start = (.ok (), { t with
      started := true
      connection := some k
      session := (SessionM.notify (.started t.trees.length) s₂).2 }) := by
    rw [start_eq, hcheck]
    dsimp only
    rw [if_neg (by simp [hlive]), hlive, hacquire]
  refine ⟨_, rs, hstart, ⟨h.stream, hbuffer, hlive⟩, rfl, ?_, hrs, ?_, ?_, ?_⟩
  · rw [Session.calls, Session.calls, ← hdatabase]
    exact hcalls
  · rw [← hdatabase]
    exact hsame
  · exact (congrArg CompileState.registry hcompiling).trans hregistry
  · rw [hcheck]
    exact congrArg CompileState.temporaries hcompiling

theorem collect_of_start (h : Unstarted t t) (hstart : t.start = (.ok (), u))
    (hactive : Active t u) : t.collect none = u.collect none := by
  have hnext : t.next = u.next := by
    rw [hactive.next_eq, next, h.closed, h.failure, h.started, hstart]
    rfl
  rw [collect_none, collect_none, hnext]

/-- What asking for everything comes to, once the sweep over the trees is known. -/
theorem Unstarted.exists_collect (h : Unstarted t t) (hlive : t.canceled = false)
    (hbuffer : t.buffer = []) (hagenda : t.agenda = agendaOf t.trees)
    (hregistry : t.session.compiling.registry = {})
    (hscript : t.session.database.script.NeverFails)
    (htotal : ∀ tree ∈ t.trees, (CompileM.allStatements t.compiler tree).Total)
    {xs : List CompiledTask}
    (hsweep : (CompileM.sweep (CompileM.modeCompiled t.compiler) t.trees).Yields
      { temporaries := (SessionM.checkAll t.compiler 0 t.trees t.session).2.compiling.temporaries }
      xs state)
    (hload : ∀ x ∈ xs, t.compiler.dialect.engine = .sqlite ∨ x.statement.tables = [])
    (hreadable : ∀ y ∈ xs.zipIdx (t.session.database.count .query),
      y.1.Readable (t.session.database.script.results.getD y.2 {})) :
    ∃ parts rs final, t.collect none = ((parts.flatten, false), final) ∧
      List.Forall₂ (fun y part ↦ y.1.Answers (t.session.database.script.results.getD y.2 {}) part)
        (xs.zipIdx (t.session.database.count .query)) parts ∧
      final.session.calls = t.session.calls ++ rs ∧
      runCalls rs =
        (xs.flatMap fun x ↦ [.prepare x.statement.sql, .query x.statement.operands]) ∧
      final.failure = none ∧ final.session.compiling.registry = {} := by
  obtain ⟨u, rs, hstart, hpoised, hdue, hcalls, hrs, hsame, hregistry₁, htemporaries⟩ :=
    h.exists_start hlive hbuffer hscript htotal
  have hactive := (h.start hstart).2 rfl
  have hcount : u.session.database.count .query = t.session.database.count .query := by
    rw [count_query hcalls, hrs]
    rfl
  have hschedule := Schedule.of_sweep hsweep
  rw [← hagenda, ← hdue] at hschedule
  obtain ⟨parts, v, hparts, hruns, hend, hdone, hqueue, hturn⟩ := hpoised.exists_runs
    ⟨_, hschedule, hregistry₁.trans hregistry, htemporaries⟩ hactive hsame hcount hscript hload
    hreadable
  obtain ⟨-, w, rs'', hstep, hfailure, hcalls'', hrs'', hregistry'⟩ :=
    hend.exists_stop hdone hqueue hturn
  obtain ⟨rs', hcalls', hrs'⟩ := hruns.calls
  have hv := hactive.of_produces hruns.produces
  refine ⟨parts, rs ++ rs' ++ rs'', w, ?_, hparts, ?_, ?_, ?_, ?_⟩
  · rw [collect_of_start h hstart hactive]
    exact hactive.collect_of_produces hruns.produces hstep
  · rw [hcalls'', hcalls', hcalls, List.append_assoc, List.append_assoc, List.append_assoc]
  · rw [runCalls_append, runCalls_append, hrs, hrs', hrs'', List.nil_append, List.append_nil]
  · exact hfailure.trans hv.failure
  · exact hregistry'.trans (CompileM.registry_eq_of_yields_sweep hsweep)

/-- On a database that never fails, a traversal of trees that all compile runs the statements of a
sweep over them, each once and in the order of the sweep, and yields the results of one statement
after the other, provided that their temporary tables can be loaded and their rows be read. Nothing
goes wrong, and no alias is left at the end. The sweep counts temporary tables from where checking
the trees has left off. -/
theorem collect_eq_sweep (c : Compiler) (trees : List Tree) (batch : ℤ) (session : Session)
    (hvalid : ∀ t ∈ trees, ∃ sts s, (CompileM.allStatements c t).Yields {} sts s)
    (hregistry : session.compiling.registry = {})
    (hscript : session.database.script.NeverFails) :
    let start : CompileState :=
      { temporaries := (SessionM.checkAll c 0 trees session).2.compiling.temporaries }
    let resultSet (k : ℕ) : ResultSet := session.database.script.results.getD k {}
    ∃ xs s, (CompileM.sweep (CompileM.modeStatements c) trees).Yields start
        (xs.map (·.statement)) s ∧
      (CompileM.sweep (CompileM.modeCompiled c) trees).Yields start xs s ∧
      ((∀ x ∈ xs, c.dialect.engine = .sqlite ∨ x.statement.tables = []) →
        (∀ y ∈ xs.zipIdx (session.database.count .query), y.1.Readable (resultSet y.2)) →
        ∃ parts rs final,
          (ofTrees c trees batch session).collect none = ((parts.flatten, false), final) ∧
          List.Forall₂ (fun y part ↦ y.1.Answers (resultSet y.2) part)
            (xs.zipIdx (session.database.count .query)) parts ∧
          final.session.calls = session.calls ++ rs ∧
          runCalls rs =
            (xs.flatMap fun x ↦ [.prepare x.statement.sql, .query x.statement.operands]) ∧
          final.failure = none ∧ final.session.compiling.registry = {}) := by
  intro start resultSet
  have htotal : ∀ t ∈ trees, (CompileM.allStatements c t).Total := by
    intro t ht
    obtain ⟨sts, s, hsts⟩ := hvalid t ht
    exact (CompileM.follows_allStatements c t).total hsts
  obtain ⟨xs, s, hsweep⟩ := CompileM.total_sweep htotal start
  refine ⟨xs, s, ?_, hsweep, fun hload hreadable ↦ ?_⟩
  · exact hsweep.sweep_map fun t mode s xs s' h ↦ h.modeStatements
  · have hunstarted : Unstarted (ofTrees c trees batch session) (ofTrees c trees batch session) :=
      ⟨rfl, rfl, rfl, rfl, rfl, rfl, rfl, rfl⟩
    exact hunstarted.exists_collect rfl rfl rfl hregistry hscript htotal hsweep hload hreadable

/-- A database that knows two edges and one vertex. The second row has no identity. -/
def sparseSession : Session where
  database := {
    source := ""
    script := { results := [
      { columns := some ["alias4"], rows := [[.int .int64 1], [.null], [.int .int64 2]] },
      { columns := some [] },
      { columns := some ["alias2"], rows := [[.int .int64 3]] },
      { columns := some [] }] } }

/-- Two trees with a regular and an optional statement each, some of which load tables. -/
theorem collect_annotationTree :
    let c : Compiler := { dialect := ⟨.sqlite, "s", 2, true⟩ }
    ∃ parts rs final, (ofTrees c [annotationTree, arrowTree] 2 sparseSession).collect none =
        ((List.flatten parts, false), final) ∧
      parts.length = 4 ∧ final.session.calls = rs ∧ (runCalls rs).length = 8 ∧
      final.failure = none ∧ final.session.compiling.registry = {} := by
  intro c
  have hvalid : ∀ t ∈ [annotationTree, arrowTree],
      ∃ sts s, (CompileM.allStatements c t).Yields {} sts s := by
    intro t ht
    obtain ⟨sts, s, hsts, -⟩ := CompileM.exists_yields (s := {}) (m := CompileM.allStatements c t)
      (P := fun _ _ ↦ true) (by revert t; decide +kernel)
    exact ⟨sts, s, hsts⟩
  obtain ⟨xs, s, -, hsweep, hcollect⟩ := collect_eq_sweep c [annotationTree, arrowTree] 2
    sparseSession hvalid rfl fun _ _ ↦ rfl
  obtain ⟨xs', s', hsweep', hchecked⟩ := CompileM.exists_yields
    (m := CompileM.sweep (CompileM.modeCompiled c) [annotationTree, arrowTree])
    (s := { temporaries := 3 })
    (P := fun xs _ ↦ xs.length = 4 ∧
      (∀ x ∈ xs, c.dialect.engine = .sqlite ∨ x.statement.tables.length = 0) ∧
      ∀ y ∈ xs.zipIdx 0,
        y.1.Readable (sparseSession.database.script.results.getD y.2 {})) (by decide +kernel)
  have htemporaries : (SessionM.checkAll c 0 [annotationTree, arrowTree]
      sparseSession).2.compiling.temporaries = 3 := by decide +kernel
  rw [htemporaries] at hsweep
  obtain ⟨hxs, -⟩ := Prod.mk.inj (hsweep.symm.trans hsweep')
  obtain rfl := Except.ok.inj hxs
  obtain ⟨hlength, hload, hreadable⟩ := of_decide_eq_true hchecked
  obtain ⟨parts, rs, final, hall, hparts, hcalls, hruns, hend⟩ :=
    hcollect (fun x hx ↦ (hload x hx).imp_right List.length_eq_zero_iff.mp) hreadable
  refine ⟨parts, rs, final, hall, ?_, ?_, ?_, hend⟩
  · rw [← hparts.length_eq, List.length_zipIdx, hlength]
  · exact hcalls.trans (List.nil_append rs)
  · rw [hruns, List.length_flatMap]
    simp [hlength]

end Traversal

end PathQuery
