import PathQuery.Proofs.Traversal.Notices
import PathQuery.Proofs.Traversal.Precheck
import PathQuery.Proofs.Traversal.Refusals

/-!
# The size of a batch

How many rows are read at a time decides how many results wait to be yielded, and nothing else. The
yardstick is a traversal that knows no batches: it runs the statements one after the other, reads
all rows of each, and answers the results up to the first failure (`runTrees`).

A traversal makes the calls of this run, in the same order, and stops for the same reason. Reading
rows in two batches makes the calls of reading them in one, so only two things differ. The sizes of
the batches are noticed, which has no effect. And a traversal that fails drops the batch it is in,
so that it has yielded the results of the batches before and not all that were read.
-/

namespace PathQuery

namespace Traversal

/-! ## Rows in one batch or in several -/

section Rows

variable {ch : Channel} {reader : RowReader} {s s' : Session}

/-- Reads the rows that a full batch has left. -/
def readOn (ch : Channel) (reader : RowReader) :
    List Result × Bool × BatchEnd → SessionM (List Result × Bool × BatchEnd)
  | (results, _, .full pending) => do
    let (later, isOpen, ended) ← readBatch ch reader (pending.length + 1) pending
    return (results ++ later, isOpen, ended)
  | answer => pure answer

/-- All rows are read by reading a batch of them, and then the others. -/
theorem readBatch_eq_bind (ch : Channel) (reader : RowReader) (n : ℕ) (rows : List (List Value)) :
    readBatch ch reader (rows.length + 1) rows =
      readBatch ch reader n rows >>= readOn ch reader := by
  -- both sides take the rows of the batch one by one; what a batch of none leaves is all of them
  induction n generalizing rows with
  | zero => simp [readBatch, readOn]
  | succ n ih =>
    rw [readBatch, readBatch, bind_assoc]
    congr 1
    funext failure
    cases failure with
    | some e =>
      simp [readOn]
    | none =>
      cases rows with
      | nil =>
        simp only [bind_assoc]
        congr 1
        funext failure
        cases failure <;> simp [readOn]
      | cons row rows =>
        dsimp only
        cases reader.read row with
        | error e => simp [readOn]
        | ok found =>
          rw [List.length_cons, ih rows]
          simp only [bind_assoc]
          congr 1
          funext answer
          obtain ⟨results, isOpen, ended⟩ := answer
          cases ended <;> simp [readOn]

theorem readBatch_of_full {n : ℕ} {rows pending : List (List Value)} {results : List Result}
    {isOpen : Bool} (h : readBatch ch reader n rows s = ((results, isOpen, .full pending), s')) :
    readBatch ch reader (rows.length + 1) rows s =
      match readBatch ch reader (pending.length + 1) pending s' with
      | ((later, isOpen, ended), s'') => ((results ++ later, isOpen, ended), s'') := by
  rw [readBatch_eq_bind ch reader n]
  simp only [bind, StateT.bind, h]
  rfl

theorem readBatch_of_ended {n : ℕ} {rows : List (List Value)} {results : List Result}
    {isOpen : Bool} {ended : BatchEnd} (hended : ∀ pending, ended ≠ .full pending)
    (h : readBatch ch reader n rows s = ((results, isOpen, ended), s')) :
    readBatch ch reader (rows.length + 1) rows s = ((results, isOpen, ended), s') := by
  rw [readBatch_eq_bind ch reader n]
  simp only [bind, StateT.bind, h]
  cases ended with
  | full pending => exact absurd rfl (hended pending)
  | _ => rfl

end Rows

/-! ## A traversal without batches -/

/-- Why a statement has failed, by the end of its rows and by what could not be given up. -/
def BatchEnd.failure? (unclosed : Option String) : BatchEnd → Option TraversalError
  | .full _ | .exhausted => unclosed.map .database
  | .fetch words => some (.database words)
  | .unreadable e => some (.row e)

/-- Reads all rows of an open statement and gives it up. -/
def readWhole (d : Dialect) (ch : Channel) (held : Holdings) (stream : RowStream) :
    SessionM (List Result × Option TraversalError) := do
  let (results, isOpen, ended) ←
    readBatch ch stream.reader (stream.pending.length + 1) stream.pending
  let unclosed ← Holdings.release d ch { held with rows := isOpen }
  return (results, ended.failure? unclosed)

/-- Runs tasks in order, up to the first that fails. -/
def runTasks (c : Compiler) (ch : Channel) :
    List Task → SessionM (List Result × Option TraversalError)
  | [] => pure ([], none)
  | .leave _ :: tasks => do
    SessionM.forgetAliases
    runTasks c ch tasks
  | .run tree mode p :: tasks => do
    match ← openStatement c ch tree mode p with
    | (.error e, held) =>
      let _ ← held.release c.dialect ch
      return ([], some e)
    | (.ok stream, held) =>
      match ← readWhole c.dialect ch held stream with
      | (results, some e) => return (results, some e)
      | (results, none) =>
        let (later, failure) ← runTasks c ch tasks
        return (results ++ later, failure)

/-- Checks trees, takes a connection, runs their statements on it and gives it back. -/
def runTrees (c : Compiler) (trees : List Tree) :
    SessionM (List Result × Option TraversalError) := do
  match ← SessionM.checkAll c 0 trees with
  | some e => return ([], some e)
  | none =>
    match ← SessionM.acquire (.given false) with
    | .error words => return ([], some (.noConnection words))
    | .ok k =>
      let answer ← runTasks c ⟨some k, .given false⟩ (agendaOf trees)
      SessionM.giveBack ⟨some k, .given false⟩
      return answer

section Whole

variable {d : Dialect} {ch : Channel} {held : Holdings} {stream : RowStream} {s s' : Session}
  {n : ℕ} {batch : List Result} {isOpen : Bool}

/-- What a full batch has left is read as if it were all. -/
theorem readWhole_of_full {pending : List (List Value)} (b : Bool)
    (h : readBatch ch stream.reader n stream.pending s = ((batch, isOpen, .full pending), s')) :
    readWhole d ch held stream s =
      match readWhole d ch { held with rows := b } { stream with pending } s' with
      | ((later, failure), s'') => ((batch ++ later, failure), s'') := by
  simp only [readWhole, bind, StateT.bind, readBatch_of_full h]
  rfl

theorem readWhole_of_ended {ended : BatchEnd} (hended : ∀ pending, ended ≠ .full pending)
    (h : readBatch ch stream.reader n stream.pending s = ((batch, isOpen, ended), s')) :
    readWhole d ch held stream s =
      ((batch, ended.failure? (Holdings.release d ch { held with rows := isOpen } s').1),
        (Holdings.release d ch { held with rows := isOpen } s').2) := by
  simp only [readWhole, bind, StateT.bind, readBatch_of_ended hended h]
  rfl

end Whole

/-! ## What a traversal comes to -/

variable {ch : Channel} {t₀ t u v : Traversal} {s s' : Session} {results later : List Result}
  {failure : Option TraversalError}

/-- Asking a traversal for everything yields these results, or the first of them if it fails, for
this reason, and leaves a session like this once the connection has been given back. -/
def ComesTo (ch : Channel) (t : Traversal)
    (answer : (List Result × Option TraversalError) × Session) : Prop :=
  ∃ yielded u v, Produces t yielded u ∧ u.step = .stops v ∧
    v.session.Alike (SessionM.giveBack ch answer.2).2 ∧ v.failure = answer.1.2 ∧
    yielded <+: answer.1.1 ∧ (answer.1.2 = none → yielded = answer.1.1)

theorem ComesTo.of_produces (h : Produces t results u) (hu : ComesTo ch u ((later, failure), s)) :
    ComesTo ch t ((results ++ later, failure), s) := by
  obtain ⟨yielded, v, w, hproduces, hstep, hsession, hfailure, hprefix, hall⟩ := hu
  refine ⟨results ++ yielded, v, w, h.trans hproduces, hstep, hsession, hfailure, ?_, ?_⟩
  · exact (List.prefix_append_right_inj results).mpr hprefix
  · intro hnone
    rw [hall hnone]

/-- A step that fails drops what is waiting to be yielded. -/
theorem ComesTo.of_fail {e : TraversalError} (hstep : t.step = .stops (u.fail e))
    (hchannel : u.channel = ch)
    (hsession : (u.holdings.release u.compiler.dialect ch u.session).2.Alike s) :
    ComesTo ch t ((results, some e), s) := by
  have hfail := alike_fail u e
  rw [hchannel] at hfail
  have hgiven := (SessionM.blind_giveBack ch _ _ hsession).2
  refine ⟨[], t, u.fail e, .refl t, hstep, hfail.trans hgiven, rfl, List.nil_prefix, ?_⟩
  rintro ⟨⟩

theorem step_eq_settle {stream : RowStream} (hstream : t.stream = some stream)
    (hbuffer : t.buffer = []) (hcanceled : t.canceled = false) :
    t.step = settle (t.fill stream) := by
  rw [step, hbuffer]
  simp only [hcanceled, hstream]
  rfl

/-- A step that fills the buffer yields it. -/
theorem produces_of_moves (hstep : t.step = .moves u) :
    Produces t u.buffer { u with buffer := [] } :=
  .moves hstep (produces_buffer rfl)

/-- A batch that fails was not full, and fails as it does in a session that differs in its notices
only; and what is still held is given up as it is there. -/
theorem BatchRead.of_error {stream : RowStream} {ended : BatchEnd} {e : TraversalError}
    (h : BatchRead t stream ended (.error e) v) (n : Notice) (hs : t.session.Alike s) :
    let u := (v.perform (SessionM.notify n)).2
    let given := t.holdings.release t.compiler.dialect t.channel s
    (∀ pending, ended ≠ .full pending) ∧ ended.failure? given.1 = some e ∧
      u.channel = t.channel ∧
      (u.holdings.release u.compiler.dialect t.channel u.session).2.Alike given.2 := by
  cases h with
  | @unclosed _ words hfailed =>
    obtain ⟨hreleased, hs'⟩ := t.holdings.blind_release t.compiler.dialect t.channel _ _ hs
    obtain ⟨hwords, rfl⟩ := Prod.mk.inj hfailed
    refine ⟨by simp, ?_, rfl, hs'.notify n⟩
    rw [BatchEnd.failure?, ← hreleased]
    exact congrArg (Option.map TraversalError.database) hwords
  | fetch words =>
    exact ⟨by simp, rfl, rfl, (Holdings.blind_release _ _ _ _ _ (hs.notify n)).2⟩
  | unreadable e =>
    exact ⟨by simp, rfl, rfl, (Holdings.blind_release _ _ _ _ _ (hs.notify n)).2⟩

/-- The rows of an open statement are read batch by batch. -/
theorem Active.reads_whole (h : Active t₀ t) {stream : RowStream} (hstream : t.stream = some stream)
    (hbuffer : t.buffer = []) (hlive : t.canceled = false) (hchannel : t.channel = ch)
    (hs : t.session.Alike s)
    (hread : readWhole t.compiler.dialect ch t.holdings stream s = ((results, failure), s')) :
    (failure = none → ∃ u, Produces t results u ∧ Poised u ∧ u.agenda = t.agenda ∧
      u.channel = ch ∧ u.session.Alike s') ∧
      (failure ≠ none → ComesTo ch t ((results, failure), s')) := by
  -- a batch that is full has taken a row, so fewer are pending when the next one is read
  induction hn : stream.pending.length using Nat.strong_induction_on
    generalizing t stream s results with
  | _ n ih =>
  subst hn hchannel
  have hstep := step_eq_settle hstream hbuffer hlive
  rcases hfill : t.fill stream with ⟨outcome, u⟩
  obtain ⟨batch, isOpen, ended, s₁, v, hbatch, hend, rfl⟩ := exists_batchRead hfill
  rw [hfill] at hstep
  -- the same batch is read in the other session
  obtain ⟨hanswer, hs₁⟩ :=
    blind_readBatch t.channel stream.reader (t.extraRows + 1) stream.pending _ _ hs
  rcases hbatch' : readBatch t.channel stream.reader (t.extraRows + 1) stream.pending s with
    ⟨_, s₂⟩
  rw [hbatch, hbatch'] at hanswer hs₁
  dsimp only at hanswer hs₁
  subst hanswer
  cases outcome with
  | error e =>
    obtain ⟨hended, hfailure, hchannel, hgiven⟩ :=
      hend.of_error (.decoded stream.reader.mode results.length) hs₁
    rw [readWhole_of_ended hended hbatch'] at hread
    obtain ⟨⟨rfl, rfl⟩, rfl⟩ := Prod.mk.inj hread
    have hgivenUp : ended.failure? (Holdings.release t.compiler.dialect t.channel
        { t.holdings with rows := isOpen } s₂).1 = some e := hfailure
    rw [hgivenUp]
    exact ⟨by simp, fun _ ↦ .of_fail hstep hchannel hgiven⟩
  | ok _ =>
  cases hend with
  | full pending =>
    have hproduces := produces_of_moves hstep
    have hless : pending.length < stream.pending.length := by
      have hlength := readBatch_full hbatch
      omega
    rw [readWhole_of_full isOpen hbatch'] at hread
    rcases hrest : readWhole t.compiler.dialect t.channel { t.holdings with rows := isOpen }
      { stream with pending } s₂ with ⟨⟨later, failure'⟩, s₃⟩
    rw [hrest] at hread
    obtain ⟨⟨rfl, rfl⟩, rfl⟩ := Prod.mk.inj hread
    obtain ⟨hdone, hfailed⟩ :=
      ih _ hless (h.of_produces hproduces) rfl rfl hlive rfl (hs₁.notify _) hrest rfl
    refine ⟨fun hnone ↦ ?_, fun hsome ↦ ?_⟩
    · obtain ⟨w, hlater, hpoised, hagenda, hchannel, hw⟩ := hdone hnone
      exact ⟨w, hproduces.trans hlater, hpoised, hagenda, hchannel, hw⟩
    · exact (hfailed hsome).of_produces hproduces
  | exhausted hdone =>
    rw [readWhole_of_ended (by simp) hbatch'] at hread
    obtain ⟨⟨rfl, rfl⟩, rfl⟩ := Prod.mk.inj hread
    obtain ⟨hnone, rfl⟩ := Prod.mk.inj hdone
    -- what is held has been given up in the other session in the same way
    obtain ⟨hreleased, hs₂⟩ := Holdings.blind_release t.compiler.dialect t.channel
      { t.holdings with rows := isOpen } _ _ hs₁
    refine ⟨fun _ ↦ ?_, fun hsome ↦ ?_⟩
    · exact ⟨_, produces_of_moves hstep, ⟨rfl, rfl, hlive⟩, rfl, rfl, hs₂.notify _⟩
    · rw [BatchEnd.failure?, ← hreleased] at hsome
      exact absurd (congrArg _ hnone) hsome

/-- Going on to the next tree does what leaving the stages on the agenda does. -/
theorem exists_runTasks_turn (c : Compiler) (ch : Channel) (hqueue : t.queue = [])
    (hs : t.session.Alike s) :
    ∃ s', t.turn.2.session.Alike s' ∧
      runTasks c ch t.turn.2.agenda s' = runTasks c ch t.agenda s := by
  refine turn_induction (P := fun u ↦ ∃ s', u.session.Alike s' ∧
    runTasks c ch u.agenda s' = runTasks c ch t.agenda s) ?_ ?_ hqueue ⟨s, hs, rfl⟩
  · rintro u mode hmode htree hqueue ⟨s', hs', hruns⟩
    rw [agenda_leaveStage hmode htree hqueue] at hruns
    exact ⟨_, (SessionM.Blind.forgetAliases _ _ hs').2.notify _, hruns⟩
  · rintro u mode tree hmode htree hqueue ⟨s', hs', hruns⟩
    refine ⟨s', hs', ?_⟩
    rwa [agenda_takeTree hmode htree hqueue]

/-- Where no tree is left the traversal stops and gives its connection back. -/
theorem Poised.comesTo_of_done (h : Poised t) (hactive : Active t₀ t) (hqueue : t.queue = [])
    (hturn : t.turn.1 = false) (hs : t.turn.2.session.Alike s) :
    ComesTo t.channel t (([], none), s) := by
  have hstep := h.step_of_turn hqueue
  rw [hturn] at hstep
  have hgiven := (SessionM.blind_giveBack t.turn.2.channel _ _ hs).2
  rw [← channel_turn hqueue]
  refine ⟨[], t, _, .refl t, hstep, hgiven.notify .finished, ?_, List.nil_prefix, fun _ ↦ rfl⟩
  exact (hactive.turn hqueue).failure

/-- What is on the agenda is run step after step, and what it answers is yielded in order. -/
theorem Poised.comesTo (h : Poised t) (hactive : Active t₀ t) (hchannel : t.channel = ch)
    (hs : t.session.Alike s) : ComesTo ch t (runTasks t₀.compiler ch t.agenda s) := by
  -- the induction is on what is left to be done: a step goes on to a tree, or a statement is run
  induction t using wellFounded_before.induction generalizing s with
  | _ t ih =>
  have hcompiler : t.compiler = t₀.compiler := hactive.tracked.1
  cases hqueue : t.queue with
  | nil =>
    obtain ⟨s', hs', hruns⟩ := exists_runTasks_turn t₀.compiler ch hqueue hs
    rw [← hruns]
    cases hturn : t.turn.1 with
    | false =>
      obtain ⟨hempty, hdone⟩ := done_of_turn hqueue hturn
      rw [agenda_of_done hempty hdone, ← hchannel]
      exact h.comesTo_of_done hactive hqueue hturn hs'
    | true =>
      have hstep := h.step_of_turn hqueue
      rw [hturn] at hstep
      have hmoved : Produces t [] t.turn.2 := .moves hstep (.refl _)
      have hrest := ih _ (before_of_moves hstep) (h.turn hqueue) (hactive.of_produces hmoved)
        ((channel_turn hqueue).trans hchannel) hs'
      exact hrest.of_produces hmoved
  | cons job rest =>
    subst hchannel
    rw [agenda_of_queue hqueue, ← hcompiler]
    obtain ⟨hanswer, hs₁⟩ :=
      blind_openStatement t.compiler t.channel job.tree job.mode job.path _ _ hs
    rcases hopen : openStatement t.compiler t.channel job.tree job.mode job.path t.session with
      ⟨⟨outcome, held⟩, s₁⟩
    rcases hopen' : openStatement t.compiler t.channel job.tree job.mode job.path s with ⟨_, s₂⟩
    rw [hopen, hopen'] at hanswer hs₁
    dsimp only at hanswer hs₁
    subst hanswer
    simp only [Job.task, runTasks, bind, StateT.bind, hopen']
    cases outcome with
    | error e =>
      have hstep := h.step_of_unopened hqueue hopen
      exact .of_fail hstep rfl (held.blind_release t.compiler.dialect t.channel _ _ hs₁).2
    | ok stream =>
      set u : Traversal :=
        { t with queue := rest, session := s₁, holdings := held, stream := some stream }
      have hstep : t.step = .moves u := h.step_of_opened hqueue hopen
      have hproduces : Produces t [] u := .moves hstep (.refl u)
      have hu : Active t₀ u := hactive.of_produces hproduces
      rcases hread : readWhole t.compiler.dialect t.channel held stream s₂ with
        ⟨⟨results, failure⟩, s₃⟩
      simp only [StateT.bind, hread]
      obtain ⟨hdone, hfailed⟩ := hu.reads_whole rfl h.buffer h.live rfl hs₁ hread
      cases failure with
      | some e => exact (hfailed (by simp)).of_produces hproduces
      | none =>
        obtain ⟨v, hresults, hpoised, hagenda, hchannel', hs₃⟩ := hdone rfl
        have hall := hproduces.trans hresults
        have hrest := ih _ (hresults.before_of_moves hstep) hpoised (hactive.of_produces hall) hchannel' hs₃
        rw [hagenda, ← hcompiler] at hrest
        exact hrest.of_produces hall

/-! ## From the start -/

theorem Unstarted.collect_of_error (h : Unstarted t t) {e : TraversalError}
    (hstart : t.start = (.error e, u)) (hheld : u.holdings = {})
    (hconnection : u.connection = none) :
    t.collect none = (([], false), u.fail e) ∧ (u.fail e).session.Alike u.session := by
  constructor
  · rw [collect_none, next_eq_nextBy, h.nextBy_of_error hstart]
  · have halike := alike_fail u e
    rw [SessionM.giveBack_of_none hconnection, hheld] at halike
    exact halike

/-- A traversal that is asked for everything does what a traversal without batches does. -/
theorem exists_collect_of_runTrees (c : Compiler) (trees : List Tree) (batch : ℤ)
    (session : Session) : ∃ yielded final,
      (ofTrees c trees batch session).collect none = ((yielded, false), final) ∧
        final.session.Alike (runTrees c trees session).2 ∧
        final.failure = (runTrees c trees session).1.2 ∧
        yielded <+: (runTrees c trees session).1.1 ∧
        ((runTrees c trees session).1.2 = none → yielded = (runTrees c trees session).1.1) := by
  have hunstarted : Unstarted (ofTrees c trees batch session) (ofTrees c trees batch session) :=
    ⟨rfl, rfl, rfl, rfl, rfl, rfl, rfl, rfl⟩
  have hstart := start_eq (ofTrees c trees batch session)
  have hcompiler : (ofTrees c trees batch session).compiler = c := rfl
  have htrees : (ofTrees c trees batch session).trees = trees := rfl
  have hsession : (ofTrees c trees batch session).session = session := rfl
  have hlive : (ofTrees c trees batch session).canceled = false := rfl
  rw [hcompiler, htrees, hsession, hlive] at hstart
  rcases hcheck : SessionM.checkAll c 0 trees session with ⟨invalid, s₁⟩
  rw [hcheck] at hstart
  simp only [runTrees, bind, StateT.bind, hcheck]
  cases invalid with
  | some e =>
    obtain ⟨hcollect, halike⟩ := hunstarted.collect_of_error hstart rfl rfl
    exact ⟨_, _, hcollect, halike, rfl, List.prefix_rfl, fun _ ↦ rfl⟩
  | none =>
    rcases hacquire : SessionM.acquire (.given false) s₁ with ⟨answer, s₂⟩
    dsimp only at hstart
    rw [hacquire] at hstart
    cases answer with
    | error words =>
      obtain ⟨hcollect, halike⟩ := hunstarted.collect_of_error hstart rfl rfl
      simp only [StateT.bind, hacquire]
      exact ⟨_, _, hcollect, halike, rfl, List.prefix_rfl, fun _ ↦ rfl⟩
    | ok k =>
      set u : Traversal := { ofTrees c trees batch session with
        started := true
        connection := some k
        session := (SessionM.notify (.started trees.length) s₂).2 }
      have hactive : Active (ofTrees c trees batch session) u := (hunstarted.start hstart).2 rfl
      have hpoised : Poised u := ⟨rfl, rfl, rfl⟩
      simp only [StateT.bind, hacquire]
      obtain ⟨yielded, w, v, hproduces, hstep, halike, hfailure, hprefix, hall⟩ :=
        hpoised.comesTo hactive (Eq.refl (Channel.mk (some k) (.given false)))
          ((Session.Alike.refl s₂).notify _)
      refine ⟨yielded, v, ?_, halike, hfailure, hprefix, hall⟩
      rw [collect_of_start hunstarted hstart hactive]
      exact hactive.collect_of_produces hproduces hstep

/-! ## Nothing is overlooked -/

theorem smooth_readWhole (d : Dialect) (ch : Channel) (held : Holdings) (stream : RowStream) :
    (readWhole d ch held stream).Emits ch fun answer rs ↦ answer.2 = none → Smooth rs := by
  refine (smooth_readBatch stream.reader _ stream.pending).bind ?_
  rintro ⟨results, isOpen, ended⟩ rs hrs
  refine (Holdings.smooth_release d ch _).bind fun unclosed rs' hrs' ↦ .pure fun hnone ↦ ?_
  rw [List.append_nil, smooth_append]
  cases ended with
  | full pending => exact ⟨hrs (by simp), hrs' (Option.map_eq_none_iff.mp hnone)⟩
  | exhausted => exact ⟨hrs (by simp), hrs' (Option.map_eq_none_iff.mp hnone)⟩
  | fetch words => cases hnone
  | unreadable e => cases hnone

theorem exists_smooth_openStatement {c : Compiler} {tree : Tree} {mode : Mode} {p : OptionalPath}
    {answer : Except TraversalError RowStream × Holdings}
    (h : openStatement c ch tree mode p s = (answer, s')) : ∃ rs, s'.calls = s.calls ++ rs ∧
      s'.database.lent = s.database.lent ∧ ((∃ stream, answer.1 = .ok stream) → Smooth rs) := by
  rcases hcompile : SessionM.compile (CompileM.statement c tree mode p.path p.branches) s with
    ⟨outcome, s₁⟩
  obtain ⟨hdatabase, -⟩ := database_of_compile hcompile
  rw [Session.calls, Session.calls, ← hdatabase]
  cases outcome with
  | error e =>
    rw [openStatement_of_error hcompile] at h
    obtain ⟨rfl, rfl⟩ := Prod.mk.inj h
    exact ⟨[], (List.append_nil _).symm, rfl, by simp⟩
  | ok st =>
    obtain ⟨rs, hextends, hsmooth⟩ := smooth_runStatement c.dialect ch tree st s₁
    rw [← openStatement_of_ok hcompile, h] at hextends hsmooth
    exact ⟨rs, hextends.calls, hextends.lent, hsmooth⟩

theorem exists_smooth_runTasks (c : Compiler) (ch : Channel) (tasks : List Task) (s : Session) :
    ∃ rs, (runTasks c ch tasks s).2.calls = s.calls ++ rs ∧
      (runTasks c ch tasks s).2.database.lent = s.database.lent ∧
      ((runTasks c ch tasks s).1.2 = none → Smooth rs) := by
  induction tasks generalizing s with
  | nil => exact ⟨[], (List.append_nil _).symm, rfl, fun _ ↦ smooth_nil⟩
  | cons task tasks ih =>
    cases task with
    | leave next => exact ih (SessionM.forgetAliases s).2
    | run tree mode p =>
      rcases hopen : openStatement c ch tree mode p s with ⟨⟨outcome, held⟩, s₁⟩
      obtain ⟨rs, hrs, hlent, hsmooth⟩ := exists_smooth_openStatement hopen
      simp only [runTasks, bind, StateT.bind, hopen]
      cases outcome with
      | error e =>
        obtain ⟨rs', hextends, -⟩ := held.smooth_release c.dialect ch s₁
        refine ⟨rs ++ rs', ?_, hextends.lent.trans hlent, by rintro ⟨⟩⟩
        rw [← List.append_assoc, ← hrs]
        exact hextends.calls
      | ok stream =>
        obtain ⟨rs', hextends, hsmooth'⟩ := smooth_readWhole c.dialect ch held stream s₁
        have hread : (readWhole c.dialect ch held stream s₁).2.calls = s.calls ++ (rs ++ rs') := by
          rw [← List.append_assoc, ← hrs]
          exact hextends.calls
        have hlent' := hextends.lent.trans hlent
        rcases hwhole : readWhole c.dialect ch held stream s₁ with ⟨⟨results, failure⟩, s₂⟩
        rw [hwhole] at hsmooth' hread hlent'
        simp only [StateT.bind, hwhole]
        cases failure with
        | some e => exact ⟨rs ++ rs', hread, hlent', by rintro ⟨⟩⟩
        | none =>
          obtain ⟨rs'', hrs'', hlent'', hsmooth''⟩ := ih s₂
          refine ⟨rs ++ rs' ++ rs'', ?_, hlent''.trans hlent', fun hnone ↦ ?_⟩
          · rw [← List.append_assoc, ← hread]
            exact hrs''
          · rw [smooth_append, smooth_append]
            exact ⟨⟨hsmooth ⟨stream, rfl⟩, hsmooth' rfl⟩, hsmooth'' hnone⟩

theorem exists_smooth_runTrees (c : Compiler) (trees : List Tree) (s : Session) :
    ∃ rs, (runTrees c trees s).2.calls = s.calls ++ rs ∧
      ((runTrees c trees s).1.2 = none → Smooth rs) := by
  obtain ⟨hchecked, -⟩ := database_checkAll c 0 trees s
  rcases hcheck : SessionM.checkAll c 0 trees s with ⟨invalid, s₁⟩
  rw [hcheck] at hchecked
  rw [Session.calls, Session.calls, ← hchecked]
  simp only [runTrees, bind, StateT.bind, hcheck]
  cases invalid with
  | some e => exact ⟨[], (List.append_nil _).symm, by rintro ⟨⟩⟩
  | none =>
    have hacquired := acquired s₁ (.given false)
    rcases hacquire : SessionM.acquire (.given false) s₁ with ⟨answer, s₂⟩
    rw [hacquire] at hacquired
    simp only [StateT.bind, hacquire]
    cases hacquired with
    | refused hextends hconnects hrefused => exact ⟨_, hextends.calls, by rintro ⟨⟩⟩
    | @taken k opening s _ hextends hconnects hsmooth hcalls hlent hscript hcompiling hgauge =>
      obtain ⟨rs, hrs, hkept, hsmooth'⟩ :=
        exists_smooth_runTasks c ⟨some k, .given false⟩ (agendaOf trees) s₂
      rcases hruns : runTasks c ⟨some k, .given false⟩ (agendaOf trees) s₂ with ⟨answer, s₃⟩
      rw [hruns] at hrs hkept hsmooth'
      -- the connection is still in use, so it can be given back
      have hheld : k ∈ s₃.database.lent := by
        rw [hkept, hlent]
        exact List.mem_cons_self
      have hgiven := SessionM.calls_giveBack_of_mem ⟨some k, .given false⟩ rfl hheld
      have hopened : s₂.calls =
          s₁.calls ++ (opening ++ [⟨.acquire, ⟨some k, .given false⟩, none⟩]) := by
        rw [hcalls, hextends.calls, List.append_assoc]
      simp only [bind, StateT.bind, hruns]
      refine ⟨opening ++ [⟨.acquire, ⟨some k, .given false⟩, none⟩] ++ rs ++
        [⟨.release, ⟨some k, .given false⟩, none⟩], ?_, fun hnone ↦ ?_⟩
      · refine hgiven.trans ?_
        rw [hrs, hopened]
        simp only [Session.calls, List.append_assoc]
      · simp [hsmooth, hsmooth' hnone]

/-- **The size of a batch decides how much is waiting, and nothing else.** Two traversals of the
same trees that begin on the same session, whatever its database refuses, and read their rows in
batches of whatever size, make the same calls and stop for the same reason. The results of one are
the first results of the other, and they are the same unless the traversals fail. They fail if any
of the calls has been refused. -/
theorem collect_batches (c : Compiler) (trees : List Tree) (session : Session) (b b' : ℤ) :
    let x := (ofTrees c trees b session).collect none
    let y := (ofTrees c trees b' session).collect none
    x.2.session.calls = y.2.session.calls ∧ x.2.failure = y.2.failure ∧
      (x.1.1 <+: y.1.1 ∨ y.1.1 <+: x.1.1) ∧ (x.2.failure = none → x.1.1 = y.1.1) ∧
      ∃ rs, x.2.session.calls = session.calls ++ rs ∧ (x.2.failure = none → Smooth rs) := by
  obtain ⟨results, u, hx, hu, hufailure, huprefix, huall⟩ :=
    exists_collect_of_runTrees c trees b session
  obtain ⟨results', v, hy, hv, hvfailure, hvprefix, hvall⟩ :=
    exists_collect_of_runTrees c trees b' session
  obtain ⟨rs, hrs, hsmooth⟩ := exists_smooth_runTrees c trees session
  rw [hx, hy]
  refine ⟨?_, ?_, ?_, fun hnone ↦ ?_, rs, ?_, fun hnone ↦ ?_⟩
  · exact hu.calls.trans hv.calls.symm
  · exact hufailure.trans hvfailure.symm
  · exact List.prefix_or_prefix_of_prefix huprefix hvprefix
  · rw [hufailure] at hnone
    exact (huall hnone).trans (hvall hnone).symm
  · exact hu.calls.trans hrs
  · exact hsmooth (hufailure.symm.trans hnone)

end Traversal

end PathQuery
