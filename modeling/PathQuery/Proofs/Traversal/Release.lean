import PathQuery.Proofs.Traversal.Agenda
import PathQuery.Proofs.Traversal.Episode
import PathQuery.Proofs.Traversal.Notices

/-!
# Nothing is left open

A traversal may be asked for results, canceled and closed at any time, and the database may refuse
any call. It is then in one of three phases: it has not started, it is under way, or it has come to
its end. Under way its calls account for what it holds, the gauge has counted its statements, and of
the connections it has taken the one it holds is in use; every part of a traversal that makes calls
takes this from one state to the next, whether the calls succeed or not. At its end nothing is held,
the last episode is complete, the connection has been given back after it, and whatever is asked
then makes no more calls.
-/

namespace PathQuery

/-! ## Stopping -/

namespace Traversal

variable {t₀ t u : Traversal}

/-- Nothing is held and nothing is left to be done. -/
structure Stopped (t : Traversal) : Prop where
  /-- No statement, no rows and no temporary table are held. -/
  holdings : t.holdings = {}
  /-- There are no rows to be read. -/
  stream : t.stream = none
  /-- There is no statement to be run. -/
  queue : t.queue = []
  /-- There is no stage left. -/
  stage : t.stage = .done
  /-- There is no result to be yielded. -/
  buffer : t.buffer = []
  /-- The connection has been given back. -/
  connection : t.connection = none

/-- `t` goes on from `t₀`, and its calls since account for what it holds. -/
def Tracked (t₀ t : Traversal) : Prop :=
  t.compiler = t₀.compiler ∧
    t₀.session.Accounts t₀.compiler.dialect t.connection t.holdings t.session

theorem Tracked.notify (h : Tracked t₀ t) (n : Notice) :
    Tracked t₀ (t.perform (SessionM.notify n)).2 :=
  ⟨h.1, h.2.same rfl rfl⟩

theorem Tracked.closeStatement (h : Tracked t₀ t) : Tracked t₀ t.closeStatement.2 := by
  obtain ⟨hcompiler, haccounts⟩ := h
  refine ⟨hcompiler, ?_⟩
  rw [← hcompiler] at haccounts ⊢
  exact haccounts.giveUp t.channel

theorem Tracked.release (h : Tracked t₀ t) (hheld : t.holdings = {}) : Tracked t₀ t.release := by
  obtain ⟨hcompiler, haccounts⟩ := h
  refine ⟨hcompiler, ?_⟩
  rw [hheld] at haccounts
  rw [show t.release.holdings = {} from hheld]
  exact haccounts.giveBack t.channel

theorem stopped_fail (t : Traversal) (e : TraversalError) : (t.fail e).Stopped :=
  ⟨rfl, rfl, rfl, rfl, rfl, rfl⟩

/-- A failure gives up the statement first and then the connection. -/
theorem alike_fail (t : Traversal) (e : TraversalError) : (t.fail e).session.Alike
    (SessionM.giveBack t.channel
      (t.holdings.release t.compiler.dialect t.channel t.session).2).2 := by
  have hreported := (Session.Alike.refl t.session).notify (.failed e)
  obtain ⟨-, hclosed⟩ := t.holdings.blind_release t.compiler.dialect t.channel _ _ hreported
  rw [fail]
  dsimp only
  split
  · exact (SessionM.blind_giveBack t.channel _ _ (hclosed.notify _)).2
  · exact (SessionM.blind_giveBack t.channel _ _ hclosed).2

theorem Tracked.fail (h : Tracked t₀ t) (e : TraversalError) : Tracked t₀ (t.fail e) := by
  have hreported :=
    Tracked.notify (t := { t with failure := some e }) h (.failed e)
  have hclosed := hreported.closeStatement
  rw [Traversal.fail]
  dsimp only
  refine Tracked.release ?_ rfl
  split
  · exact hclosed.notify _
  · exact hclosed

theorem stopped_close (hopen : t.closed = false) : t.close.2.Stopped := by
  rw [close, hopen]
  exact ⟨rfl, rfl, rfl, rfl, rfl, rfl⟩

/-- Closing gives up the statement and the connection as well. -/
theorem session_close (hopen : t.closed = false) : t.close.2.session =
    (SessionM.giveBack t.channel
      (t.holdings.release t.compiler.dialect t.channel t.session).2).2 := by
  rw [close, hopen]
  rfl

theorem closed_close (t : Traversal) : t.close.2.closed := by
  rw [close]
  split
  · next hclosed => exact hclosed
  · rfl

theorem Tracked.close (h : Tracked t₀ t) : Tracked t₀ t.close.2 := by
  rw [Traversal.close]
  split
  · exact h
  · have hclosed := h.closeStatement.release rfl
    exact hclosed

/-- Canceling closes the rows, if they are open. -/
theorem Tracked.cancel (h : Tracked t₀ t) (hopen : t.holdings.rows → t.holdings.statement) :
    Tracked t₀ t.cancel := by
  rw [Traversal.cancel]
  split
  · next hrows =>
    rw [Bool.and_eq_true] at hrows
    have hclosing : (SessionM.call t.channel .closeRows).Emits t.channel _ := .call rfl
    obtain ⟨rs', hextends, rfl⟩ := hclosing t.session
    refine ⟨h.1, h.2.extend t.channel hextends fun haccounted ↦ ?_⟩
    exact haccounted.read [] (hopen hrows.1) hrows.1 (List.forall_mem_nil _) rfl
      hextends.channels
  · exact h

/-! ## Starting -/

theorem checkAll_cons (c : Compiler) (i : ℕ) (tree : Tree) (trees : List Tree) (s : Session) :
    SessionM.checkAll c i (tree :: trees) s = match SessionM.check c tree s with
      | (.error e, s₁) => (some (.invalidTree i e), s₁)
      | (.ok (), s₁) => SessionM.checkAll c (i + 1) trees s₁ := by
  simp only [SessionM.checkAll, bind, StateT.bind]
  rcases SessionM.check c tree s with ⟨_ | _, s₁⟩ <;> rfl

/-- Checking trees makes no call. -/
theorem database_checkAll (c : Compiler) (i : ℕ) (trees : List Tree) (s : Session) :
    (SessionM.checkAll c i trees s).2.database = s.database ∧
      (SessionM.checkAll c i trees s).2.openStatements = s.openStatements := by
  induction trees generalizing i s with
  | nil => exact ⟨rfl, rfl⟩
  | cons tree trees ih =>
    have hcheck : (SessionM.check c tree s).2.database = s.database ∧
        (SessionM.check c tree s).2.openStatements = s.openStatements := ⟨rfl, rfl⟩
    rw [checkAll_cons, ← hcheck.1, ← hcheck.2]
    rcases SessionM.check c tree s with ⟨_ | _, s₁⟩
    · exact ⟨rfl, rfl⟩
    · exact ih _ _

theorem start_eq (t : Traversal) : t.start =
    match SessionM.checkAll t.compiler 0 t.trees t.session with
    | (some e, s) => (.error e, { t with started := true, session := s })
    | (none, s) =>
      if t.canceled then (.error .canceledStart, { t with started := true, session := s })
      else match SessionM.acquire (.given t.canceled) s with
        | (.error e, s) => (.error (.noConnection e), { t with started := true, session := s })
        | (.ok k, s) => (.ok (), { t with
            started := true
            connection := some k
            session := (SessionM.notify (.started t.trees.length) s).2 }) := by
  rw [start]
  simp only [perform, StateT.run]
  rcases SessionM.checkAll t.compiler 0 t.trees t.session with ⟨_ | e, s₁⟩
  · dsimp only
    rcases SessionM.acquire (.given t.canceled) s₁ with ⟨_ | k, s₂⟩ <;> rfl
  · rfl

/-- What starting comes to, by what stands in its way. -/
inductive Started (t : Traversal) : Except TraversalError Unit → Traversal → Prop
  /-- A tree does not compile. -/
  | invalid {e : TraversalError} {s : Session}
      (hcheck : SessionM.checkAll t.compiler 0 t.trees t.session = (some e, s)) :
      Started t (.error e) { t with started := true, session := s }
  /-- No connection is asked for under a cancellation. -/
  | canceled {s : Session}
      (hcheck : SessionM.checkAll t.compiler 0 t.trees t.session = (none, s))
      (hcanceled : t.canceled) :
      Started t (.error .canceledStart) { t with started := true, session := s }
  /-- There is no connection to be had. -/
  | refused {words : String} {s s' : Session}
      (hcheck : SessionM.checkAll t.compiler 0 t.trees t.session = (none, s))
      (hacquire : SessionM.acquire (.given t.canceled) s = (.error words, s')) :
      Started t (.error (.noConnection words)) { t with started := true, session := s' }
  /-- A connection is taken. -/
  | taken {k : ℕ} {s s' : Session}
      (hcheck : SessionM.checkAll t.compiler 0 t.trees t.session = (none, s))
      (hacquire : SessionM.acquire (.given t.canceled) s = (.ok k, s')) :
      Started t (.ok ()) { t with
        started := true
        connection := some k
        session := (SessionM.notify (.started t.trees.length) s').2 }

theorem started_start {outcome : Except TraversalError Unit} (hstart : t.start = (outcome, u)) :
    Started t outcome u := by
  rw [start_eq] at hstart
  rcases hcheck : SessionM.checkAll t.compiler 0 t.trees t.session with ⟨_ | e, s⟩
  · rw [hcheck] at hstart
    dsimp only at hstart
    split at hstart
    · next hcanceled =>
      obtain ⟨rfl, rfl⟩ := Prod.mk.inj hstart
      exact .canceled hcheck hcanceled
    · rcases hacquire : SessionM.acquire (.given t.canceled) s with ⟨words | k, s'⟩
      · rw [hacquire] at hstart
        obtain ⟨rfl, rfl⟩ := Prod.mk.inj hstart
        exact .refused hcheck hacquire
      · rw [hacquire] at hstart
        obtain ⟨rfl, rfl⟩ := Prod.mk.inj hstart
        exact .taken hcheck hacquire
  · rw [hcheck] at hstart
    obtain ⟨rfl, rfl⟩ := Prod.mk.inj hstart
    exact .invalid hcheck

/-! ## Phases -/

/-- A traversal that has not been asked for anything. -/
structure Unstarted (t₀ t : Traversal) : Prop where
  started : t.started = false
  closed : t.closed = false
  failure : t.failure = none
  compiler : t.compiler = t₀.compiler
  session : t.session = t₀.session
  holdings : t.holdings = {}
  stream : t.stream = none
  connection : t.connection = none

/-- A traversal under way. -/
structure Active (t₀ t : Traversal) : Prop where
  started : t.started
  closed : t.closed = false
  failure : t.failure = none
  connected : t.connection.isSome
  /-- What is held is accounted for. -/
  tracked : Tracked t₀ t
  /-- Nothing is held without rows to be read. -/
  idle : t.stream = none → t.holdings = {}
  /-- Rows to be read belong to an open statement, and are open unless they have been canceled. -/
  reading : ∀ stream, t.stream = some stream →
    t.holdings.statement ∧ (t.canceled = false → t.holdings.rows)

/-- A traversal at its end. -/
structure Rested (t₀ t : Traversal) : Prop extends t.Stopped where
  begun : t.started ∨ t.closed ∨ t.failure.isSome
  /-- Nothing is left open. -/
  tracked : Tracked t₀ t

theorem Tracked.rested_fail (h : Tracked t₀ t) (e : TraversalError) : Rested t₀ (t.fail e) :=
  ⟨stopped_fail t e, .inr (.inr rfl), h.fail e⟩

theorem Unstarted.tracked (h : Unstarted t₀ t) : Tracked t₀ t := by
  refine ⟨h.compiler, ?_⟩
  rw [h.connection, h.holdings, h.session]
  exact .refl _ _

/-- Starting takes a connection, if the trees compile and one can be had. -/
theorem Unstarted.start (h : Unstarted t₀ t) {outcome : Except TraversalError Unit}
    {t' : Traversal} (hstart : t.start = (outcome, t')) :
    Tracked t₀ t' ∧ (outcome = .ok () → Active t₀ t') := by
  obtain ⟨hdatabase, hgauge⟩ := database_checkAll t.compiler 0 t.trees t.session
  cases started_start hstart with
  | invalid hcheck =>
    rw [hcheck] at hdatabase hgauge
    exact ⟨⟨h.compiler, h.tracked.2.same hdatabase hgauge⟩, by simp⟩
  | canceled hcheck hcanceled =>
    rw [hcheck] at hdatabase hgauge
    exact ⟨⟨h.compiler, h.tracked.2.same hdatabase hgauge⟩, by simp⟩
  | @refused words s s' hcheck hacquire =>
    have hacquired := acquired s (.given t.canceled)
    rw [hcheck, h.session] at hdatabase hgauge
    rw [hacquire] at hacquired
    obtain ⟨hrefused, -⟩ := hacquired.accounts hdatabase hgauge t₀.compiler.dialect
    refine ⟨⟨h.compiler, ?_⟩, by simp⟩
    rw [show t.connection = none from h.connection, h.holdings]
    exact hrefused words rfl
  | @taken k s s' hcheck hacquire =>
    have hacquired := acquired s (.given t.canceled)
    rw [hcheck, h.session] at hdatabase hgauge
    rw [hacquire] at hacquired
    obtain ⟨-, htaken⟩ := hacquired.accounts hdatabase hgauge t₀.compiler.dialect
    have htracked : Tracked t₀ { t with connection := some k, session := s' } := by
      refine ⟨h.compiler, ?_⟩
      rw [h.holdings]
      exact htaken k rfl
    refine ⟨htracked.notify _, fun _ ↦ ⟨rfl, h.closed, h.failure, rfl, htracked.notify _,
      fun _ ↦ h.holdings, fun stream hstream ↦ ?_⟩⟩
    exact absurd (h.stream.symm.trans hstream) (by simp)

/-! ## Steps -/

namespace Active

theorem rows_le (h : Active t₀ t) (hrows : t.holdings.rows) : t.holdings.statement := by
  cases hstream : t.stream with
  | none =>
    rw [h.idle hstream] at hrows
    cases hrows
  | some stream => exact (h.reading stream hstream).1

/-- What a batch of rows comes to. -/
theorem fill (h : Active t₀ t) {stream : RowStream} (hstream : t.stream = some stream)
    (hlive : t.canceled = false) {outcome : Except TraversalError Unit} {t' : Traversal}
    (hfill : t.fill stream = (outcome, t')) :
    Tracked t₀ t' ∧ (outcome = .ok () → Active t₀ t') := by
  obtain ⟨hstatement, hrows⟩ := h.reading stream hstream
  obtain ⟨hcompiler, haccounts⟩ := h.tracked
  obtain ⟨rs', hextends, fetched, closed, rfl, hfetched, hclosed, hfull, -⟩ :=
    emits_readBatch t.channel stream.reader (t.extraRows + 1) stream.pending t.session
  obtain ⟨results, isOpen, ended, s₁, v, hbatch, hend, rfl⟩ := exists_batchRead hfill
  rw [hbatch] at hextends hclosed hfull
  -- the traversal with the batch read, whatever its end
  have htracked : Tracked t₀ { t with
      session := s₁, buffer := results, holdings := { t.holdings with rows := isOpen } } :=
    ⟨hcompiler, haccounts.extend t.channel hextends fun haccounted ↦
      haccounted.read fetched hstatement (hrows hlive) hfetched hclosed hextends.channels⟩
  cases hend with
  | full pending =>
    refine ⟨htracked.notify _, fun _ ↦
      ⟨h.started, h.closed, h.failure, h.connected, htracked.notify _, ?_, fun _ _ ↦ ?_⟩⟩
    · rintro ⟨⟩
    · exact ⟨hstatement, fun _ ↦ hfull ⟨pending, rfl⟩⟩
  | exhausted hdone =>
    have hclose := htracked.closeStatement
    rw [hdone] at hclose
    obtain ⟨-, rfl⟩ := Prod.mk.inj hdone
    refine ⟨hclose.notify _, fun _ ↦
      ⟨h.started, h.closed, h.failure, h.connected, hclose.notify _, fun _ ↦ rfl, ?_⟩⟩
    rintro _ ⟨⟩
  | unclosed hfailed =>
    have hclose := htracked.closeStatement
    rw [hfailed] at hclose
    exact ⟨hclose.notify _, by simp⟩
  | fetch words => exact ⟨htracked.notify _, by simp⟩
  | unreadable e => exact ⟨htracked.notify _, by simp⟩

theorem cancel (h : Active t₀ t) : Active t₀ t.cancel := by
  have htracked := h.tracked.cancel h.rows_le
  rw [Traversal.cancel] at htracked ⊢
  split at htracked
  · next hrows =>
    rw [if_pos hrows]
    refine ⟨h.started, h.closed, h.failure, h.connected, htracked, fun hstream ↦ ?_, ?_⟩
    · -- rows are open only while there is something to be read
      rw [Bool.and_eq_true, h.idle hstream] at hrows
      cases hrows.1
    · intro stream hstream
      refine ⟨(h.reading stream hstream).1, ?_⟩
      rintro ⟨⟩
  · next hrows =>
    rw [if_neg hrows]
    refine ⟨h.started, h.closed, h.failure, h.connected, htracked, h.idle, fun stream hstream ↦ ?_⟩
    refine ⟨(h.reading stream hstream).1, ?_⟩
    rintro ⟨⟩

/-- Opening a statement keeps account of what it opens. -/
theorem openStatement (h : Active t₀ t) (hstream : t.stream = none) {job : Job}
    {outcome : Except TraversalError RowStream} {held : Holdings} {s : Session}
    (hopen : Traversal.openStatement t.compiler t.channel job.tree job.mode job.path t.session =
      ((outcome, held), s)) :
    Tracked t₀ { t with session := s, holdings := held } ∧
      ∀ stream, outcome = .ok stream → held.statement ∧ held.rows := by
  obtain ⟨hcompiler, haccounts⟩ := h.tracked
  obtain ⟨k, hconnection⟩ := Option.isSome_iff_exists.mp h.connected
  obtain ⟨s₁, rs, ⟨hdatabase, hgauge⟩, hextends, hopens, hok⟩ := exists_openStatement hopen
  rw [h.idle hstream] at haccounts
  refine ⟨⟨hcompiler, ?_⟩, hok⟩
  refine (haccounts.same hdatabase hgauge).extend t.channel hextends fun haccounted ↦ ?_
  have hchannels := hextends.channels
  rw [show t.channel.connection = some k from hconnection] at haccounted hchannels ⊢
  exact haccounted.opens hopens hchannels

/-- Going on to the next tree opens nothing. -/
theorem turn (h : Active t₀ t) (hqueue : t.queue = []) : Active t₀ t.turn.2 := by
  refine turn_induction (P := Active t₀) (fun _ _ _ h ↦ ?_) (fun _ _ _ h ↦ ?_) hqueue h
  · exact ⟨h.started, h.closed, h.failure, h.connected, ⟨h.tracked.1, h.tracked.2.same rfl rfl⟩,
      h.idle, h.reading⟩
  · exact ⟨h.started, h.closed, h.failure, h.connected, h.tracked, h.idle, h.reading⟩

/-- Where no tree is left the connection is given back. -/
theorem finish (h : Active t₀ t) (hbuffer : t.buffer = []) (hstream : t.stream = none)
    (hqueue : t.queue = []) (hturn : t.turn.1 = false) : Rested t₀ t.turn.2.finish := by
  obtain ⟨hempty, hdone⟩ := done_of_turn hqueue hturn
  have hactive := h.turn hqueue
  obtain ⟨stage, root, queue, registry, notices, hsame⟩ := exists_turn hqueue
  rw [hsame] at hempty hdone hactive ⊢
  have hheld := h.idle hstream
  have htracked := (hactive.tracked.release hheld).notify .finished
  exact ⟨⟨hheld, hstream, hempty, hdone, hbuffer, rfl⟩, .inl h.started, htracked⟩

end Active

/-- Whatever a step comes to keeps account. -/
def Progress.Sound (t₀ : Traversal) : Progress → Prop
  | .yields _ t | .moves t => Active t₀ t
  | .stops t => Rested t₀ t

/-- A step keeps account of what it opens, and gives it up when it stops. -/
theorem Active.sound_step (h : Active t₀ t) : t.step.Sound t₀ := by
  have hstep := t.stepped_step
  generalize t.step = p at hstep
  cases hstep with
  | yields hbuffer =>
    exact ⟨h.started, h.closed, h.failure, h.connected, h.tracked, h.idle, h.reading⟩
  | canceled hbuffer hcanceled => exact h.tracked.rested_fail .canceled
  | reads hbuffer hlive hstream hfill => exact (h.fill hstream hlive hfill).2 rfl
  | unread hbuffer hlive hstream hfill => exact (h.fill hstream hlive hfill).1.rested_fail _
  | @opens job rest stream held s hbuffer hlive hstream hqueue hopen =>
    obtain ⟨htracked, hok⟩ := h.openStatement hstream hopen
    refine ⟨h.started, h.closed, h.failure, h.connected, htracked, ?_, fun _ _ ↦ ?_⟩
    · rintro ⟨⟩
    · exact ⟨(hok stream rfl).1, fun _ ↦ (hok stream rfl).2⟩
  | @unopened job rest e held s hbuffer hlive hstream hqueue hopen =>
    obtain ⟨htracked, -⟩ := h.openStatement hstream hopen
    exact Tracked.rested_fail (t := { t with queue := rest, session := s, holdings := held })
      htracked e
  | turns hbuffer hlive hstream hqueue hturn =>
    have hnext := h.turn hqueue
    rwa [hturn] at hnext
  | finishes hbuffer hlive hstream hqueue hturn =>
    have hend := h.finish hbuffer hstream hqueue (by rw [hturn])
    rwa [hturn] at hend

/-- An answer, and what is left after it. -/
def Answered (t₀ : Traversal) (answer : Option Result × Traversal) : Prop :=
  (∃ r, answer.1 = some r ∧ Active t₀ answer.2) ∨ answer.1 = none ∧ Rested t₀ answer.2

theorem Active.answered_advance (h : Active t₀ t) : Answered t₀ t.advance := by
  fun_induction advance t with
  | case1 t r t' hstep =>
    have hsound := h.sound_step
    rw [hstep] at hsound
    exact .inl ⟨r, rfl, hsound⟩
  | case2 t t' hstep =>
    have hsound := h.sound_step
    rw [hstep] at hsound
    exact .inr ⟨rfl, hsound⟩
  | case3 t t' hstep ih =>
    have hsound := h.sound_step
    rw [hstep] at hsound
    exact ih hsound

/-! ## Requests -/

/-- Moves until there is a result or no more, and is canceled after so many steps. -/
def advanceInterrupted : ℕ → Traversal → Option Result × Traversal
  | 0, t => t.cancel.advance
  | k + 1, t =>
    match t.step with
    | .yields r t => (some r, t)
    | .stops t => (none, t)
    | .moves t => advanceInterrupted k t

/-- The next result, if there is one, by a way of moving on. -/
def nextBy (move : Traversal → Option Result × Traversal) (t : Traversal) :
    Option Result × Traversal :=
  if t.closed || t.failure.isSome then (none, t)
  else if t.started then move t
  else match t.start with
    | (.ok (), t) => move t
    | (.error e, t) => (none, t.fail e)

theorem next_eq_nextBy (t : Traversal) : t.next = t.nextBy advance := rfl

/-- What may be asked of a traversal. -/
inductive Request where
  /-- The next result. -/
  | next
  /-- The next result, canceled after so many steps. A cancellation inside a step is seen by the
  step as a call that fails. -/
  | nextInterrupted (k : ℕ)
  /-- To be canceled between two requests. -/
  | cancel
  /-- To be closed. -/
  | close

/-- A traversal after a request. -/
def handle (t : Traversal) : Request → Traversal
  | .next => t.next.2
  | .nextInterrupted k => (t.nextBy (advanceInterrupted k)).2
  | .cancel => t.cancel
  | .close => t.close.2

/-- A traversal after some requests. -/
def handleAll (t : Traversal) (requests : List Request) : Traversal := requests.foldl handle t

theorem Active.answered_advanceInterrupted (h : Active t₀ t) (k : ℕ) :
    Answered t₀ (t.advanceInterrupted k) := by
  induction k generalizing t with
  | zero => exact h.cancel.answered_advance
  | succ k ih =>
    have hsound := h.sound_step
    rw [advanceInterrupted]
    split
    · next r t' hstep =>
      rw [hstep] at hsound
      exact .inl ⟨r, rfl, hsound⟩
    · next t' hstep =>
      rw [hstep] at hsound
      exact .inr ⟨rfl, hsound⟩
    · next t' hstep =>
      rw [hstep] at hsound
      exact ih hsound

/-! ## Nothing happens after the end -/

theorem advance_eq (t : Traversal) : t.advance = match t.step with
    | .yields r u => (some r, u)
    | .stops u => (none, u)
    | .moves u => u.advance := by
  rw [advance]
  split
  · next hstep => rw [hstep]
  · next hstep => rw [hstep]
  · next hstep => rw [hstep]

/-- Giving up nothing makes no call. -/
theorem calls_release_of_eq {held : Holdings} (hheld : held = {}) (d : Dialect) (ch : Channel)
    (s : Session) : (held.release d ch s).2.calls = s.calls := by
  subst hheld
  obtain ⟨rs, hextends, closed, dropped, rfl, hclosed, hdropped, -⟩ :=
    Holdings.emits_release d ch {} s
  obtain rfl := List.map_eq_nil_iff.mp hclosed
  obtain rfl := List.map_eq_nil_iff.mp hdropped
  exact hextends.calls.trans (List.append_nil _)

theorem calls_fail (hheld : t.holdings = {}) (hconnection : t.connection = none)
    (e : TraversalError) : (t.fail e).session.calls = t.session.calls := by
  have halike := alike_fail t e
  rw [SessionM.giveBack_of_none hconnection] at halike
  exact halike.calls.trans (calls_release_of_eq hheld _ _ _)

theorem calls_close (hheld : t.holdings = {}) (hconnection : t.connection = none) :
    t.close.2.session.calls = t.session.calls := by
  by_cases hclosed : t.closed
  · rw [close, if_pos hclosed]
  · rw [session_close (eq_false_of_ne_true hclosed), SessionM.giveBack_of_none hconnection]
    exact calls_release_of_eq hheld _ _ _

theorem Tracked.rested_close (h : Tracked t₀ t) (hopen : t.closed = false) :
    Rested t₀ t.close.2 :=
  ⟨stopped_close hopen, .inr (.inl (closed_close t)), h.close⟩

/-- At the end of the last stage there is nothing to go on to. -/
theorem turn_eq_of_stopped (h : t.Stopped) : t.turn = (false, t) := by
  rw [turn]
  split
  · rfl
  · next mode hmode =>
    rw [h.stage] at hmode
    cases hmode

namespace Rested

theorem fail (h : Rested t₀ t) (e : TraversalError) :
    Rested t₀ (t.fail e) ∧ (t.fail e).session.calls = t.session.calls :=
  ⟨h.tracked.rested_fail e, calls_fail h.holdings h.connection e⟩

theorem close (h : Rested t₀ t) :
    Rested t₀ t.close.2 ∧ t.close.2.session.calls = t.session.calls := by
  refine ⟨?_, calls_close h.holdings h.connection⟩
  by_cases hclosed : t.closed
  · rwa [Traversal.close, if_pos hclosed]
  · exact h.tracked.rested_close (eq_false_of_ne_true hclosed)

theorem cancel (h : Rested t₀ t) :
    Rested t₀ t.cancel ∧ t.cancel.session.calls = t.session.calls := by
  rw [Traversal.cancel, if_neg (by simp [h.holdings])]
  exact ⟨⟨⟨h.holdings, h.stream, h.queue, h.stage, h.buffer, h.connection⟩, h.begun, h.tracked⟩,
    rfl⟩

theorem finish (h : Rested t₀ t) :
    Rested t₀ t.finish ∧ t.finish.session.calls = t.session.calls := by
  have htracked := (h.tracked.release h.holdings).notify .finished
  refine ⟨⟨⟨h.holdings, h.stream, h.queue, h.stage, h.buffer, rfl⟩, h.begun, htracked⟩, ?_⟩
  have hkept : (SessionM.giveBack t.channel t.session).2.calls = t.session.calls := by
    rw [SessionM.giveBack_of_none h.connection]
  exact hkept

theorem step (h : Rested t₀ t) : ∃ u, t.step = .stops u ∧ Rested t₀ u ∧
    u.session.calls = t.session.calls := by
  rw [Traversal.step, h.buffer]
  dsimp only
  split
  · exact ⟨_, rfl, h.fail .canceled⟩
  · rw [h.stream, h.queue]
    dsimp only
    rw [turn_eq_of_stopped h.toStopped]
    exact ⟨_, rfl, h.finish⟩

theorem advance (h : Rested t₀ t) : t.advance.1 = none ∧ Rested t₀ t.advance.2 ∧
    t.advance.2.session.calls = t.session.calls := by
  obtain ⟨u, hstep, hu⟩ := h.step
  rw [advance_eq, hstep]
  exact ⟨rfl, hu⟩

theorem advanceInterrupted (h : Rested t₀ t) (k : ℕ) : (t.advanceInterrupted k).1 = none ∧
    Rested t₀ (t.advanceInterrupted k).2 ∧
      (t.advanceInterrupted k).2.session.calls = t.session.calls := by
  cases k with
  | zero =>
    obtain ⟨hcancel, hcalls⟩ := h.cancel
    rw [← hcalls]
    exact hcancel.advance
  | succ k =>
    obtain ⟨u, hstep, hu⟩ := h.step
    rw [Traversal.advanceInterrupted, hstep]
    exact ⟨rfl, hu⟩

theorem nextBy {move : Traversal → Option Result × Traversal} (h : Rested t₀ t)
    (hmove : (move t).1 = none ∧ Rested t₀ (move t).2 ∧
      (move t).2.session.calls = t.session.calls) :
    (t.nextBy move).1 = none ∧ Rested t₀ (t.nextBy move).2 ∧
      (t.nextBy move).2.session.calls = t.session.calls := by
  rw [Traversal.nextBy]
  split
  · exact ⟨rfl, h, rfl⟩
  · next hgoes =>
    rw [Bool.or_eq_true, not_or] at hgoes
    have hstarted : t.started := h.begun.resolve_right fun hend ↦ hend.elim hgoes.1 hgoes.2
    rw [if_pos hstarted]
    exact hmove

theorem handle (h : Rested t₀ t) (request : Request) :
    Rested t₀ (t.handle request) ∧ (t.handle request).session.calls = t.session.calls := by
  cases request with
  | next => exact (h.nextBy h.advance).2
  | nextInterrupted k => exact (h.nextBy (h.advanceInterrupted k)).2
  | cancel => exact h.cancel
  | close => exact h.close

/-- At its end a traversal makes no more calls, whatever is asked of it. -/
theorem calls_handleAll (h : Rested t₀ t) (requests : List Request) :
    (t.handleAll requests).session.calls = t.session.calls := by
  induction requests generalizing t with
  | nil => rfl
  | cons request requests ih =>
    obtain ⟨hrested, hcalls⟩ := h.handle request
    exact (ih hrested).trans hcalls

end Rested

/-! ## Whatever is asked -/

/-- A traversal that has been asked for this and that. -/
def Reached (t₀ t : Traversal) : Prop :=
  Unstarted t₀ t ∨ Active t₀ t ∨ Rested t₀ t

theorem Answered.reached {answer : Option Result × Traversal} (h : Answered t₀ answer) :
    Reached t₀ answer.2 := by
  rcases h with ⟨_, -, hactive⟩ | ⟨-, hrested⟩
  · exact .inr (.inl hactive)
  · exact .inr (.inr hrested)

namespace Reached

variable (h : Reached t₀ t)
include h

theorem tracked : Tracked t₀ t := by
  rcases h with h | h | h
  · exact h.tracked
  · exact h.tracked
  · exact h.tracked

theorem rested_close : Rested t₀ t.close.2 := by
  rcases h with h | h | h
  · exact h.tracked.rested_close h.closed
  · exact h.tracked.rested_close h.closed
  · exact h.close.1

theorem cancel : Reached t₀ t.cancel := by
  rcases h with h | h | h
  · refine .inl ?_
    rw [Traversal.cancel, if_neg (by simp [h.holdings])]
    exact ⟨h.started, h.closed, h.failure, h.compiler, h.session, h.holdings, h.stream,
      h.connection⟩
  · exact .inr (.inl h.cancel)
  · exact .inr (.inr h.cancel.1)

theorem answered_nextBy {move : Traversal → Option Result × Traversal}
    (hactive : ∀ {u}, Active t₀ u → Answered t₀ (move u))
    (hrested : Rested t₀ t → (move t).1 = none ∧ Rested t₀ (move t).2 ∧
      (move t).2.session.calls = t.session.calls) : Answered t₀ (t.nextBy move) := by
  rcases h with h | h | h
  · rw [nextBy, h.closed, h.failure, h.started]
    dsimp only [Bool.false_or, Option.isSome_none]
    rcases hstart : t.start with ⟨outcome, t'⟩
    obtain ⟨htracked, hstarted⟩ := h.start hstart
    cases outcome with
    | error e => exact .inr ⟨rfl, htracked.rested_fail e⟩
    | ok _ => exact hactive (hstarted rfl)
  · rw [nextBy, h.closed, h.failure, h.started]
    exact hactive h
  · obtain ⟨hnone, hrest, -⟩ := h.nextBy (hrested h)
    exact .inr ⟨hnone, hrest⟩

theorem answered_next : Answered t₀ t.next := by
  rw [next_eq_nextBy]
  exact h.answered_nextBy (fun hu ↦ hu.answered_advance) fun ht ↦ ht.advance

theorem answered_nextInterrupted (k : ℕ) : Answered t₀ (t.nextBy (advanceInterrupted k)) :=
  h.answered_nextBy (fun hu ↦ hu.answered_advanceInterrupted k) fun ht ↦ ht.advanceInterrupted k

theorem handle (request : Request) : Reached t₀ (t.handle request) := by
  cases request with
  | next => exact h.answered_next.reached
  | nextInterrupted k => exact (h.answered_nextInterrupted k).reached
  | cancel => exact h.cancel
  | close => exact .inr (.inr h.rested_close)

theorem handleAll (requests : List Request) : Reached t₀ (t.handleAll requests) := by
  induction requests generalizing t with
  | nil => exact h
  | cons request requests ih => exact ih (h.handle request)

end Reached

/-- A traversal that has come to its end since a session started. -/
structure AtRest (d : Dialect) (s : Session) (t : Traversal) : Prop where
  /-- No rows, no statement and no temporary table are held. -/
  holdings : t.holdings = {}
  /-- There are no rows to be read. -/
  stream : t.stream = none
  /-- No connection is held. -/
  connection : t.connection = none
  /-- The calls are accounted for with nothing held: if a connection was taken, all episodes on it
  are complete, so that every statement that was prepared has been closed and every table that was
  created has been dropped, and the connection has been given back after the last of them. -/
  accounted : ∃ rs, t.session.calls = s.calls ++ rs ∧ Accounted d none {} rs
  /-- The connections in use are those that were in use at the start. -/
  lent : t.session.database.lent = s.database.lent
  /-- The gauge is back where it was. -/
  openStatements : t.session.openStatements = s.openStatements
  /-- Nothing that is asked leads to another call. -/
  quiet : ∀ requests, (t.handleAll requests).session.calls = t.session.calls

/-- The gauge has gone up by the statement that is held. -/
theorem Tracked.openStatements (h : Tracked t₀ t) : t.session.openStatements =
    t₀.session.openStatements + if t.holdings.statement then 1 else 0 := by
  obtain ⟨rs, -, hgauge, haccounted⟩ := h.2.calls
  rw [hgauge, (Steady.of_accounted haccounted).total]
  cases t.holdings.statement <;> rfl

theorem Rested.atRest (h : Rested t₀ t) : AtRest t₀.compiler.dialect t₀.session t := by
  obtain ⟨rs, hcalls, -, haccounted⟩ := h.tracked.2.calls
  rw [h.connection, h.holdings] at haccounted
  refine ⟨h.holdings, h.stream, h.connection, ⟨rs, hcalls, haccounted⟩, ?_, ?_, ?_⟩
  · rw [h.tracked.2.lent, h.connection]
    rfl
  · rw [h.tracked.openStatements, h.holdings]
    exact Int.add_zero _
  · exact h.calls_handleAll

theorem Answered.atRest {answer : Option Result × Traversal} (h : Answered t₀ answer) :
    answer.1.isSome ∨ AtRest t₀.compiler.dialect t₀.session answer.2 := by
  rcases h with ⟨r, hsome, -⟩ | ⟨-, hrested⟩
  · exact .inl (by rw [hsome]; rfl)
  · exact .inr hrested.atRest

/-- **Nothing is left open.** Whatever is asked of a traversal and whatever its database refuses,
its calls come in episodes on one connection, with at most one statement open at any time. What is
held belongs to the episode under way and is held on that connection, the gauge has gone up by the
statement that is open, and of the connections taken since the start the one that is held is in use.
Once there is no result, or the traversal has been closed, nothing is held. -/
theorem atRest_of_handleAll (c : Compiler) (trees : List Tree) (batch : ℤ) (session : Session)
    (requests : List Request) :
    let t := (ofTrees c trees batch session).handleAll requests
    (∃ rs, t.session.calls = session.calls ++ rs ∧
      Accounted c.dialect t.connection t.holdings rs ∧
      ∀ n, openCount (rs.take n) = 0 ∨ openCount (rs.take n) = 1) ∧
    (t.connection.isSome ∨ t.holdings = {}) ∧
    t.session.openStatements = session.openStatements + (if t.holdings.statement then 1 else 0) ∧
    t.session.database.lent = t.connection.toList ++ session.database.lent ∧
    (t.next.1.isSome ∨ AtRest c.dialect session t.next.2) ∧
    (∀ k, (t.nextBy (advanceInterrupted k)).1.isSome ∨
      AtRest c.dialect session (t.nextBy (advanceInterrupted k)).2) ∧
    AtRest c.dialect session t.close.2 := by
  intro t
  have hunstarted : Unstarted (ofTrees c trees batch session) (ofTrees c trees batch session) :=
    ⟨rfl, rfl, rfl, rfl, rfl, rfl, rfl, rfl⟩
  have hreached : Reached (ofTrees c trees batch session) t :=
    Reached.handleAll (.inl hunstarted) requests
  have htracked := hreached.tracked
  obtain ⟨rs, hcalls, -, haccounted⟩ := htracked.2.calls
  refine ⟨⟨rs, hcalls, haccounted, (Steady.of_accounted haccounted).take⟩, haccounted.isSome_or,
    htracked.openStatements, htracked.2.lent, ?_, fun k ↦ ?_, ?_⟩
  · exact hreached.answered_next.atRest
  · exact (hreached.answered_nextInterrupted k).atRest
  · exact hreached.rested_close.atRest

end Traversal

end PathQuery
