import PathQuery.Proofs.Element.Decoding
import PathQuery.Proofs.Traversal.Release

/-!
# What a traversal produces

A traversal that is asked again and again takes step after step, and some of the steps yield a
result. `Produces t rs u` says that steps lead from `t` to `u` and yield the results `rs` on the
way; where no step is left, asking for everything answers just these results.

On a database that never fails, the rows of an open statement are produced in order, whatever the
size of a batch is, and the statement is closed after the last of them. Rows without a projected
element are passed over.
-/

namespace PathQuery

/-! ## Databases that never fail -/

/-- No call fails. -/
def Script.NeverFails (script : Script) : Prop := ∀ kind n, script.failure? kind n = none

theorem Session.Extends.smooth {s s' : Session} {ch : Channel} {rs : List CallRecord}
    (h : s.Extends ch rs s') (hlive : ch.context ≠ .given true)
    (hscript : s.database.script.NeverFails) : Smooth rs := by
  intro r hr
  obtain ⟨n, hn⟩ := h.answered hlive r hr
  rw [hn, hscript]

/-- A call that prepares a statement or runs it. -/
def Call.isRun : Call → Bool
  | .prepare _ | .query _ => true
  | _ => false

/-- The calls among these that prepare a statement or run it. -/
def runCalls (rs : List CallRecord) : List Call := (rs.map (·.call)).filter Call.isRun

@[simp]
theorem runCalls_append (rs rs' : List CallRecord) :
    runCalls (rs ++ rs') = runCalls rs ++ runCalls rs' := by
  rw [runCalls, List.map_append, List.filter_append, ← runCalls, ← runCalls]

theorem runCalls_cons_of_isRun_eq_false {r : CallRecord} (h : r.call.isRun = false)
    (rs : List CallRecord) : runCalls (r :: rs) = runCalls rs := by
  rw [runCalls, List.map_cons, List.filter_cons_of_neg (by simp [h]), ← runCalls]

theorem Loads.runCalls_eq_nil {rs : List CallRecord} {names : List String} (h : Loads rs names) :
    runCalls rs = [] := by
  induction h with
  | nil => rfl
  | refused m ch e => rfl
  | @created m ch fills rest names filled _ ih =>
    rw [List.cons_append, runCalls_cons_of_isRun_eq_false rfl, runCalls_append, ih,
      List.append_nil, runCalls, List.filter_eq_nil_iff]
    intro call hcall
    obtain ⟨r, hr, rfl⟩ := List.mem_map.mp hcall
    obtain ⟨call, ch, failure⟩ := r
    obtain ⟨⟩ := filled _ hr <;> simp [Call.isRun]

theorem Database.count_eq (db : Database) (kind : CallKind) :
    db.count kind = db.history.toList.countP fun r ↦ r.call.kind = kind := by
  rw [count, ← Array.foldl_toList, ← Nat.zero_add (List.countP _ _)]
  generalize 0 = n
  induction db.history.toList generalizing n with
  | nil => rfl
  | cons r rs ih =>
    rw [List.foldl_cons, ih, List.countP_cons]
    by_cases h : r.call.kind = kind <;> simp [h]
    omega

/-- Queries are counted by the calls that run statements. -/
theorem count_query {s s' : Session} {rs : List CallRecord} (h : s'.calls = s.calls ++ rs) :
    s'.database.count .query =
      s.database.count .query + (runCalls rs).countP fun c ↦ c.kind = .query := by
  have hrs : (runCalls rs).countP (fun c ↦ c.kind = .query) =
      rs.countP fun r ↦ r.call.kind = .query := by
    rw [runCalls, List.countP_filter, List.countP_map]
    congr 1
    funext r
    obtain ⟨call, ch, failure⟩ := r
    cases call <;> rfl
  rw [Database.count_eq, Database.count_eq, hrs, ← List.countP_append, ← Session.calls,
    ← Session.calls, h]

/-! ## Producing -/

namespace Traversal

variable {t₀ t u v : Traversal}

/-- Steps lead from one traversal to another, and yield these results on the way. -/
inductive Produces : Traversal → List Result → Traversal → Prop
  | refl (t : Traversal) : Produces t [] t
  | yields {t u v : Traversal} {r : Result} {rs : List Result} (first : t.step = .yields r u)
      (later : Produces u rs v) : Produces t (r :: rs) v
  | moves {t u v : Traversal} {rs : List Result} (first : t.step = .moves u)
      (later : Produces u rs v) : Produces t rs v

theorem Produces.trans {rs rs' : List Result} (h : Produces t rs u) (h' : Produces u rs' v) :
    Produces t (rs ++ rs') v := by
  induction h with
  | refl => exact h'
  | yields first _ ih => exact .yields first (ih h')
  | moves first _ ih => exact .moves first (ih h')

/-- Every step leaves less to be done. -/
theorem Produces.before {rs : List Result} (h : Produces t rs u) : u = t ∨ u.Before t := by
  induction h with
  | refl => exact .inl rfl
  | yields first _ ih =>
    right
    rcases ih with rfl | hbefore
    · exact before_of_yields first
    · exact hbefore.trans (before_of_yields first)
  | moves first _ ih =>
    right
    rcases ih with rfl | hbefore
    · exact before_of_moves first
    · exact hbefore.trans (before_of_moves first)

theorem Produces.before_of_moves {rs : List Result} (h : Produces u rs v)
    (hstep : t.step = .moves u) : v.Before t := by
  rcases h.before with rfl | hbefore
  · exact Traversal.before_of_moves hstep
  · exact hbefore.trans (Traversal.before_of_moves hstep)

theorem Active.of_produces (h : Active t₀ t) {rs : List Result} (hrs : Produces t rs u) :
    Active t₀ u := by
  induction hrs with
  | refl => exact h
  | yields first _ ih =>
    have hsound := h.sound_step
    rw [first] at hsound
    exact ih hsound
  | moves first _ ih =>
    have hsound := h.sound_step
    rw [first] at hsound
    exact ih hsound

theorem Active.next_eq (h : Active t₀ t) : t.next = t.advance := by
  rw [next, h.closed, h.failure, if_neg (by simp), if_pos h.started]

theorem collect_none (t : Traversal) : t.collect none = match t.next with
    | (none, u) => (([], false), u)
    | (some r, u) => ((r :: (u.collect none).1.1, (u.collect none).1.2), (u.collect none).2) := by
  rw [collect, if_neg (by simp)]
  split
  · next hnext => rw [hnext]
  · next hnext => rw [hnext]; rfl

/-- Asking for everything answers what is produced, up to the step that stops. -/
theorem Active.collect_of_produces (h : Active t₀ t) {rs : List Result} (hrs : Produces t rs u)
    (hstops : u.step = .stops v) : t.collect none = ((rs, false), v) := by
  induction hrs with
  | refl t => rw [collect_none, h.next_eq, advance_eq, hstops]
  | @yields t u w r rs first later ih =>
    have hu : Active t₀ u := h.of_produces (.yields first (.refl u))
    rw [collect_none, h.next_eq, advance_eq, first]
    dsimp only
    rw [ih hu hstops]
  | @moves t u w rs first later ih =>
    -- both traversals answer with what comes after the step
    have hu : Active t₀ u := h.of_produces (.moves first (.refl u))
    rw [← ih hu hstops, collect_none, collect_none, h.next_eq, hu.next_eq,
      advance_eq t, first]

/-- Results that have been read are yielded one by one. -/
theorem produces_buffer {rs : List Result} (h : t.buffer = rs) :
    Produces t rs { t with buffer := [] } := by
  induction rs generalizing t with
  | nil =>
    have hsame : { t with buffer := [] } = t := by rw [← h]
    rw [hsame]
    exact .refl t
  | cons r rs ih =>
    have hstep : t.step = .yields r { t with buffer := rs } := by rw [step, h]
    exact .yields hstep (ih rfl)

/-! ## The rows of a statement -/

/-- A batch of rows that can be read is full or comes to the end of the rows. -/
theorem emits_readBatch_of_readable (ch : Channel) (reader : RowReader) (n : ℕ)
    {rows : List (List Value)} (h : reader.Readable rows) :
    (readBatch ch reader n rows).Emits ch fun answer rs ↦
      runCalls rs = [] ∧ (Smooth rs → answer =
        if rows.length < n then (reader.readAll rows, false, .exhausted)
        else (reader.readAll (rows.take n), true, .full (rows.drop n))) := by
  induction n generalizing rows with
  | zero => exact .pure ⟨rfl, fun _ ↦ by simp [RowReader.readAll]⟩
  | succ n ih =>
    refine .call_bind rfl fun failure ↦ ?_
    cases failure with
    | some e => exact .call_bind rfl fun failure ↦ .pure ⟨rfl, by simp⟩
    | none =>
      cases rows with
      | nil =>
        refine .call_bind rfl fun failure ↦ ?_
        cases failure with
        | some e => exact .pure ⟨rfl, by simp⟩
        | none => exact .pure ⟨rfl, fun _ ↦ by simp [RowReader.readAll]⟩
      | cons row rows =>
        rw [RowReader.Readable, List.forall_mem_cons] at h
        obtain ⟨⟨found, hfound⟩, hrows⟩ := h
        dsimp only
        rw [hfound]
        refine (ih hrows).bind ?_
        rintro answer rs ⟨hrs, hanswer⟩
        refine .pure ⟨?_, fun hsmooth ↦ ?_⟩
        · rw [List.append_nil, runCalls_cons_of_isRun_eq_false rfl, hrs]
        · rw [List.append_nil, smooth_cons] at hsmooth
          rw [hanswer hsmooth.2, RowReader.readAll_cons hfound, List.take_succ_cons,
            RowReader.readAll_cons hfound, List.drop_succ_cons, List.length_cons]
          by_cases hlength : rows.length < n <;> simp [hlength]

theorem channel_context_ne (hlive : t.canceled = false) : t.channel.context ≠ .given true := by
  rw [channel, hlive]
  simp

/-- Nothing fails when a statement is given up, and no other is started. -/
theorem exists_closeStatement (hlive : t.canceled = false)
    (hscript : t.session.database.script.NeverFails) :
    ∃ s rs, t.closeStatement = (none, { t with session := s, holdings := {}, stream := none }) ∧
      t.session.Extends t.channel rs s ∧ runCalls rs = [] := by
  obtain ⟨rs, hextends, closed, dropped, rfl, hclosed, hdropped, hrefused⟩ :=
    t.holdings.emits_release t.compiler.dialect t.channel t.session
  have hsmooth := hextends.smooth (channel_context_ne hlive) hscript
  refine ⟨_, _, ?_, hextends, ?_⟩
  · rw [← hsmooth.eq_none hrefused]
    rfl
  · rw [runCalls_append, runCalls, runCalls, hclosed, hdropped.map_call]
    cases t.holdings.rows <;> cases t.holdings.statement <;> simp [Call.isRun]

section Fill

variable {stream : RowStream} (hlive : t.canceled = false)
  (hscript : t.session.database.script.NeverFails)
  (hreadable : stream.reader.Readable stream.pending)
include hlive hscript hreadable

theorem exists_readBatch : ∃ s rs, t.session.Extends t.channel rs s ∧ runCalls rs = [] ∧
    readBatch t.channel stream.reader (t.extraRows + 1) stream.pending t.session =
      (if stream.pending.length < t.extraRows + 1 then
        (stream.reader.readAll stream.pending, false, .exhausted)
      else (stream.reader.readAll (stream.pending.take (t.extraRows + 1)), true,
        .full (stream.pending.drop (t.extraRows + 1))), s) := by
  obtain ⟨rs, hextends, hrs, hanswer⟩ :=
    emits_readBatch_of_readable t.channel stream.reader (t.extraRows + 1) hreadable
      t.session
  have hsmooth := hextends.smooth (channel_context_ne hlive) hscript
  exact ⟨_, rs, hextends, hrs, Prod.ext_iff.mpr ⟨hanswer hsmooth, rfl⟩⟩

/-- A batch that is full leaves the rows after it. -/
theorem exists_fill_of_le (hlength : t.extraRows + 1 ≤ stream.pending.length) :
    ∃ s rs held, t.session.Extends t.channel rs s ∧ runCalls rs = [] ∧
      t.fill stream = (.ok (), { t with
        session := s
        holdings := held
        stream := some { stream with pending := stream.pending.drop (t.extraRows + 1) }
        buffer := stream.reader.readAll (stream.pending.take (t.extraRows + 1)) }) := by
  obtain ⟨s₁, rs, hextends, hrs, hbatch⟩ := exists_readBatch hlive hscript hreadable
  rw [if_neg (by omega)] at hbatch
  refine ⟨_, rs, { t.holdings with rows := true }, hextends.notify (.decoded stream.reader.mode
    (stream.reader.readAll (stream.pending.take (t.extraRows + 1))).length), hrs, ?_⟩
  simp only [fill, perform, StateT.run]
  rw [hbatch]
  rfl

/-- A batch with the last of the rows gives up the statement. -/
theorem exists_fill_of_lt (hlength : stream.pending.length < t.extraRows + 1) :
    ∃ s rs, t.session.Extends t.channel rs s ∧ runCalls rs = [] ∧ t.fill stream = (.ok (), { t with
      session := s
      holdings := {}
      stream := none
      buffer := stream.reader.readAll stream.pending }) := by
  obtain ⟨s₁, rs, hextends, hrs, hbatch⟩ := exists_readBatch hlive hscript hreadable
  rw [if_pos hlength] at hbatch
  set t₁ : Traversal := { t with
    session := s₁
    buffer := stream.reader.readAll stream.pending
    holdings := { t.holdings with rows := false } } with ht₁
  have hscript₁ : t₁.session.database.script.NeverFails := by
    rw [hextends.script]
    exact hscript
  obtain ⟨s₂, rs', hclose, hextends', hrs'⟩ := exists_closeStatement (t := t₁) hlive hscript₁
  refine ⟨_, rs ++ rs', (hextends.trans hextends').notify (.decoded stream.reader.mode
    (stream.reader.readAll stream.pending).length), ?_, ?_⟩
  · rw [runCalls_append, hrs, hrs', List.nil_append]
  · simp only [fill, perform, StateT.run]
    rw [hbatch]
    dsimp only
    rw [← ht₁, hclose]
    rfl

end Fill

/-- Steps lead from one traversal to another, yield these results and start these statements. -/
structure Runs (t : Traversal) (results : List Result) (calls : List Call) (u : Traversal) :
    Prop where
  /-- The results are yielded. -/
  produces : Produces t results u
  /-- The statements are started. -/
  calls : ∃ rs, u.session.calls = t.session.calls ++ rs ∧ runCalls rs = calls
  /-- The database is the same. -/
  script : u.session.database.script = t.session.database.script

theorem Runs.refl (t : Traversal) : Runs t [] [] t :=
  ⟨.refl t, ⟨[], (List.append_nil _).symm, rfl⟩, rfl⟩

theorem Runs.trans {results results' : List Result} {calls calls' : List Call}
    (h : Runs t results calls u) (h' : Runs u results' calls' v) :
    Runs t (results ++ results') (calls ++ calls') v := by
  obtain ⟨rs, hrs, rfl⟩ := h.calls
  obtain ⟨rs', hrs', rfl⟩ := h'.calls
  refine ⟨h.produces.trans h'.produces, ⟨rs ++ rs', ?_, runCalls_append _ _⟩, ?_⟩
  · rw [hrs', hrs, List.append_assoc]
  · rw [h'.script, h.script]

theorem Runs.count_query {results : List Result} {calls : List Call} (h : Runs t results calls u) :
    u.session.database.count .query =
      t.session.database.count .query + calls.countP fun c ↦ c.kind = .query := by
  obtain ⟨rs, hcalls, rfl⟩ := h.calls
  exact PathQuery.count_query hcalls

/-- A traversal that is about to open a statement, or to go on to another tree. -/
structure Poised (t : Traversal) : Prop where
  stream : t.stream = none
  buffer : t.buffer = []
  live : t.canceled = false

namespace Poised

variable (h : Poised t)
include h

section Queue

variable {job : Job} {rest : List Job} {held : Holdings} {s : Session}
  (hqueue : t.queue = job :: rest)
include hqueue

/-- A statement of the queue is opened if there is one. -/
theorem step_of_queue : t.step = { t with queue := rest }.openJob job := by
  rw [step, h.buffer, h.live, h.stream, hqueue]
  rfl

theorem step_of_opened {stream : RowStream} (hopen : openStatement t.compiler t.channel job.tree
    job.mode job.path t.session = ((.ok stream, held), s)) : t.step = .moves
      { t with queue := rest, session := s, holdings := held, stream := some stream } := by
  have hchannel : { t with queue := rest }.channel = t.channel := rfl
  rw [h.step_of_queue hqueue, openJob]
  simp only [perform, StateT.run, hchannel, hopen]

theorem step_of_unopened {e : TraversalError} (hopen : openStatement t.compiler t.channel job.tree
    job.mode job.path t.session = ((.error e, held), s)) : t.step = .stops
      ({ t with queue := rest, session := s, holdings := held }.fail e) := by
  have hchannel : { t with queue := rest }.channel = t.channel := rfl
  rw [h.step_of_queue hqueue, openJob]
  simp only [perform, StateT.run, hchannel, hopen]

end Queue

/-- The next tree is looked for if there is none. -/
theorem step_of_turn (hqueue : t.queue = []) :
    t.step = if t.turn.1 then .moves t.turn.2 else .stops t.turn.2.finish := by
  rw [step, h.buffer, h.live, h.stream, hqueue]
  rcases t.turn with ⟨_ | _, u⟩ <;> rfl

theorem turn (hqueue : t.queue = []) : Poised t.turn.2 := by
  obtain ⟨stage, root, queue, registry, notices, hsame⟩ := exists_turn hqueue
  rw [hsame]
  exact ⟨h.stream, h.buffer, h.live⟩

end Poised

/-- The results of an open statement are yielded in order, over as many batches as it takes. -/
theorem exists_runs_of_stream {stream : RowStream} (hscript : t.session.database.script.NeverFails)
    (hreadable : stream.reader.Readable stream.pending) (hstream : t.stream = some stream)
    (hbuffer : t.buffer = []) (hlive : t.canceled = false) :
    ∃ u, Runs t (stream.reader.readAll stream.pending) [] u ∧ Poised u ∧ u.agenda = t.agenda ∧
      u.session.compiling = t.session.compiling := by
  induction hn : stream.pending.length using Nat.strong_induction_on generalizing t stream with
  | _ n ih =>
    subst hn
    have hstep : t.step = settle (t.fill stream) := by
      rw [step, hbuffer]
      simp only [hlive, hstream]
      rfl
    by_cases hlength : stream.pending.length < t.extraRows + 1
    · obtain ⟨s, rs, hextends, hrs, hfill⟩ := exists_fill_of_lt hlive hscript hreadable hlength
      rw [hfill] at hstep
      have hproduces := Produces.moves hstep (produces_buffer rfl)
      exact ⟨_, ⟨hproduces, ⟨rs, hextends.calls, hrs⟩, hextends.script⟩, ⟨rfl, rfl, hlive⟩, rfl,
        hextends.compiling⟩
    · obtain ⟨s, rs, held, hextends, hrs, hfill⟩ :=
        exists_fill_of_le hlive hscript hreadable (not_lt.mp hlength)
      rw [hfill] at hstep
      set rest : RowStream := { stream with pending := stream.pending.drop (t.extraRows + 1) }
      set t₁ : Traversal := { t with
        session := s, holdings := held, stream := some rest, buffer := [] }
      -- the batch is yielded first, and what is left of the rows is less
      have hbatch : Runs t (stream.reader.readAll (stream.pending.take (t.extraRows + 1))) [] t₁ :=
        ⟨.moves hstep (produces_buffer rfl), ⟨rs, hextends.calls, hrs⟩, hextends.script⟩
      have hscript₁ : t₁.session.database.script.NeverFails := by
        rw [hextends.script]
        exact hscript
      have hless : rest.pending.length < stream.pending.length := by
        rw [List.length_drop]
        omega
      have hreadable₁ : rest.reader.Readable rest.pending :=
        fun row hrow ↦ hreadable row (List.mem_of_mem_drop hrow)
      obtain ⟨u, hrest, hpoised, hagenda, hcompiling⟩ :=
        ih _ hless hscript₁ hreadable₁ rfl rfl hlive rfl
      refine ⟨u, ?_, hpoised, hagenda, hcompiling.trans hextends.compiling⟩
      have hall := hbatch.trans hrest
      rwa [← RowReader.readAll_append, List.take_append_drop] at hall

end Traversal

end PathQuery
