import PathQuery.Traversal.Basic

/-!
# Asking for results

Asking for the next result starts the traversal if need be and lets it move until it yields or
stops. It does not go on for ever: a step that yields nothing goes on to another tree, or takes a
statement off the queue, or reads at least one row of the open statement.
-/

namespace PathQuery

namespace Traversal

variable {t u v : Traversal}

/-! ## What a step does -/

/-- What becomes of a traversal that has read a batch of rows, by the end of the batch. -/
inductive BatchRead (t : Traversal) (stream : RowStream) :
    BatchEnd → Except TraversalError Unit → Traversal → Prop
  /-- The rows that are left are read later. -/
  | full (pending : List (List Value)) :
      BatchRead t stream (.full pending) (.ok ()) { t with stream := some { stream with pending } }
  /-- The statement is given up at the end of its rows. -/
  | exhausted {v : Traversal} (h : t.closeStatement = (none, v)) :
      BatchRead t stream .exhausted (.ok ()) v
  | unclosed {v : Traversal} {words : String} (h : t.closeStatement = (some words, v)) :
      BatchRead t stream .exhausted (.error (.database words)) v
  | fetch (words : String) : BatchRead t stream (.fetch words) (.error (.database words)) t
  | unreadable (e : RowError) : BatchRead t stream (.unreadable e) (.error (.row e)) t

/-- A batch is read first, and its size is reported last. -/
theorem exists_batchRead {stream : RowStream} {outcome : Except TraversalError Unit}
    (hfill : t.fill stream = (outcome, u)) : ∃ results isOpen ended s v,
      readBatch t.channel stream.reader (t.extraRows + 1) stream.pending t.session =
        ((results, isOpen, ended), s) ∧
      BatchRead { t with
        session := s, buffer := results, holdings := { t.holdings with rows := isOpen } }
        stream ended outcome v ∧
      u = (v.perform (SessionM.notify (.decoded stream.reader.mode results.length))).2 := by
  rw [fill] at hfill
  simp only [perform, StateT.run] at hfill
  rcases hbatch : readBatch t.channel stream.reader (t.extraRows + 1) stream.pending t.session with
    ⟨⟨results, isOpen, ended⟩, s₁⟩
  rw [hbatch] at hfill
  refine ⟨results, isOpen, ended, s₁, ?_⟩
  dsimp only at hfill
  cases ended with
  | full pending =>
    obtain ⟨rfl, rfl⟩ := Prod.mk.inj hfill
    exact ⟨_, rfl, .full pending, rfl⟩
  | exhausted =>
    dsimp only at hfill
    split at hfill
    · next words v hfailed =>
      obtain ⟨rfl, rfl⟩ := Prod.mk.inj hfill
      exact ⟨v, rfl, .unclosed hfailed, rfl⟩
    · next v hdone =>
      obtain ⟨rfl, rfl⟩ := Prod.mk.inj hfill
      exact ⟨v, rfl, .exhausted hdone, rfl⟩
  | fetch words =>
    obtain ⟨rfl, rfl⟩ := Prod.mk.inj hfill
    exact ⟨_, rfl, .fetch words, rfl⟩
  | unreadable e =>
    obtain ⟨rfl, rfl⟩ := Prod.mk.inj hfill
    exact ⟨_, rfl, .unreadable e, rfl⟩

/-- What a step comes to, by what there is to be done. -/
inductive Stepped (t : Traversal) : Progress → Prop
  /-- A result that has been read is yielded. -/
  | yields {r : Result} {rest : List Result} (hbuffer : t.buffer = r :: rest) :
      Stepped t (.yields r { t with buffer := rest })
  /-- Nothing more is done under a cancellation. -/
  | canceled (hbuffer : t.buffer = []) (hcanceled : t.canceled) :
      Stepped t (.stops (t.fail .canceled))
  /-- A batch of rows is read. -/
  | reads {stream : RowStream} {u : Traversal} (hbuffer : t.buffer = [])
      (hlive : t.canceled = false) (hstream : t.stream = some stream)
      (hfill : t.fill stream = (.ok (), u)) : Stepped t (.moves u)
  | unread {stream : RowStream} {e : TraversalError} {u : Traversal} (hbuffer : t.buffer = [])
      (hlive : t.canceled = false) (hstream : t.stream = some stream)
      (hfill : t.fill stream = (.error e, u)) : Stepped t (.stops (u.fail e))
  /-- A statement is opened. -/
  | opens {job : Job} {rest : List Job} {stream : RowStream} {held : Holdings} {s : Session}
      (hbuffer : t.buffer = []) (hlive : t.canceled = false) (hstream : t.stream = none)
      (hqueue : t.queue = job :: rest)
      (hopen : openStatement t.compiler t.channel job.tree job.mode job.path t.session =
        ((.ok stream, held), s)) :
      Stepped t (.moves
        { t with queue := rest, session := s, holdings := held, stream := some stream })
  | unopened {job : Job} {rest : List Job} {e : TraversalError} {held : Holdings} {s : Session}
      (hbuffer : t.buffer = []) (hlive : t.canceled = false) (hstream : t.stream = none)
      (hqueue : t.queue = job :: rest)
      (hopen : openStatement t.compiler t.channel job.tree job.mode job.path t.session =
        ((.error e, held), s)) :
      Stepped t (.stops ({ t with queue := rest, session := s, holdings := held }.fail e))
  /-- There is another tree with statements. -/
  | turns {u : Traversal} (hbuffer : t.buffer = []) (hlive : t.canceled = false)
      (hstream : t.stream = none) (hqueue : t.queue = []) (hturn : t.turn = (true, u)) :
      Stepped t (.moves u)
  /-- There is none. -/
  | finishes {u : Traversal} (hbuffer : t.buffer = []) (hlive : t.canceled = false)
      (hstream : t.stream = none) (hqueue : t.queue = []) (hturn : t.turn = (false, u)) :
      Stepped t (.stops u.finish)

theorem Stepped.openJob {job : Job} {rest : List Job} (hbuffer : t.buffer = [])
    (hlive : t.canceled = false) (hstream : t.stream = none) (hqueue : t.queue = job :: rest) :
    t.Stepped ({ t with queue := rest }.openJob job) := by
  have hchannel : { t with queue := rest }.channel = t.channel := rfl
  simp only [Traversal.openJob, perform, StateT.run, hchannel]
  rcases hopen : openStatement t.compiler t.channel job.tree job.mode job.path t.session with
    ⟨⟨_ | _, held⟩, s⟩
  · exact .unopened hbuffer hlive hstream hqueue hopen
  · exact .opens hbuffer hlive hstream hqueue hopen

/-- A step looks for a result first, then for a cancellation, then for rows, and then for a
statement. -/
theorem stepped_step (t : Traversal) : t.Stepped t.step := by
  rw [step]
  split
  case h_1 r rest hbuffer => exact .yields hbuffer
  case h_2 hbuffer =>
    split
    case isTrue hcanceled => exact .canceled hbuffer hcanceled
    case isFalse hlive =>
      rw [Bool.not_eq_true] at hlive
      split
      case h_1 stream hstream =>
        rcases hfill : t.fill stream with ⟨_ | _, u⟩
        · exact .unread hbuffer hlive hstream hfill
        · exact .reads hbuffer hlive hstream hfill
      case h_2 hstream =>
        split
        case h_1 job rest hqueue => exact .openJob hbuffer hlive hstream hqueue
        case h_2 hqueue =>
          split
          case h_1 u hturn => exact .turns hbuffer hlive hstream hqueue hturn
          case h_2 u hturn => exact .finishes hbuffer hlive hstream hqueue hturn

/-! ## Steps make progress -/

/-- A measure of what is left: trees and ends of stages, then statements, rows, and results. -/
def remaining (t : Traversal) : Nat × Nat × Nat × Nat :=
  (t.turnsLeft, t.queue.length, t.pendingRows, t.buffer.length)

/-- The order of what is left. -/
def Before (t u : Traversal) : Prop :=
  Prod.Lex (· < ·) (Prod.Lex (· < ·) (Prod.Lex (· < ·) (· < ·))) t.remaining u.remaining

theorem before_iff : t.Before u ↔ t.turnsLeft < u.turnsLeft ∨ t.turnsLeft = u.turnsLeft ∧
    (t.queue.length < u.queue.length ∨ t.queue.length = u.queue.length ∧
      (t.pendingRows < u.pendingRows ∨ t.pendingRows = u.pendingRows ∧
        t.buffer.length < u.buffer.length)) := by
  simp only [Before, remaining, Prod.lex_def]

theorem Before.trans (h : t.Before u) (h' : u.Before v) : t.Before v := by
  rw [before_iff] at h h' ⊢
  omega

theorem wellFounded_before : WellFounded Before :=
  InvImage.wf remaining WellFoundedRelation.wf

/-- A full batch has taken its rows from the front. -/
theorem readBatch_full {ch : Channel} {reader : RowReader} {n : Nat}
    {rows pending : List (List Value)} {results : List Result} {isOpen : Bool} {s s' : Session}
    (h : readBatch ch reader n rows s = ((results, isOpen, .full pending), s')) :
    pending.length + n = rows.length := by
  induction n generalizing rows results s with
  | zero =>
    obtain ⟨hanswer, -⟩ := Prod.mk.inj h
    obtain ⟨-, hrest⟩ := Prod.mk.inj hanswer
    obtain ⟨-, hfull⟩ := Prod.mk.inj hrest
    rw [BatchEnd.full.inj hfull, Nat.add_zero]
  | succ n ih =>
    simp only [readBatch, bind, StateT.bind] at h
    rcases hfetch : SessionM.call ch .fetch s with ⟨_ | e, s₁⟩
    · rw [hfetch] at h
      cases rows with
      | nil =>
        simp only [StateT.bind, bind] at h
        rcases hclose : SessionM.call ch .closeRows s₁ with ⟨_ | e, s₂⟩
        · rw [hclose] at h
          cases h
        · rw [hclose] at h
          cases h
      | cons row rows =>
        cases hread : reader.read row with
        | error e =>
          simp only [hread] at h
          cases h
        | ok found =>
          simp only [hread, StateT.bind, bind] at h
          rcases hrest : readBatch ch reader n rows s₁ with ⟨⟨later, isOpen', ended⟩, s₂⟩
          rw [hrest] at h
          cases h
          rw [List.length_cons, ← ih hrest, Nat.add_assoc]
    · rw [hfetch] at h
      cases h

/-- After a batch that did not fail fewer rows are left, and nothing else has become more. -/
theorem fill_ok {stream : RowStream} (h : t.fill stream = (.ok (), u)) :
    u.turnsLeft = t.turnsLeft ∧ u.queue = t.queue ∧
      u.pendingRows < stream.pending.length + 1 := by
  obtain ⟨results, isOpen, ended, s, v, hbatch, hend, rfl⟩ := exists_batchRead h
  cases hend with
  | full pending =>
    have hlength := readBatch_full hbatch
    refine ⟨rfl, rfl, ?_⟩
    change pending.length + 1 < stream.pending.length + 1
    omega
  | exhausted hdone =>
    obtain ⟨-, rfl⟩ := Prod.mk.inj hdone
    exact ⟨rfl, rfl, Nat.succ_pos _⟩

/-- Going on to another tree leaves fewer of them. -/
theorem turn_moves (h : t.turn = (true, u)) : u.turnsLeft < t.turnsLeft := by
  fun_induction turn t with
  | case1 => cases h
  | case2 t mode hmode htree ih => exact Nat.lt_trans (ih h) (turnsLeft_leaveStage hmode)
  | case3 t mode hmode tree htree hempty ih => exact Nat.lt_trans (ih h) (turnsLeft_takeTree htree)
  | case4 t mode hmode tree htree hjobs =>
    obtain ⟨-, rfl⟩ := Prod.mk.inj h
    exact turnsLeft_takeTree htree

/-- A step that yields nothing leaves less to be done. -/
theorem before_of_moves (h : t.step = .moves u) : u.Before t := by
  have hstep := t.stepped_step
  rw [h] at hstep
  rw [before_iff]
  cases hstep with
  | reads hbuffer hlive hstream hfill =>
    obtain ⟨hturns, hqueue, hrows⟩ := fill_ok hfill
    refine .inr ⟨hturns, .inr ⟨congrArg List.length hqueue, .inl ?_⟩⟩
    rw [pendingRows.eq_def t, hstream]
    exact hrows
  | opens hbuffer hlive hstream hqueue hopened =>
    refine .inr ⟨rfl, .inl ?_⟩
    rw [hqueue]
    exact Nat.lt_succ_self _
  | turns hbuffer hlive hstream hqueue hturn => exact .inl (turn_moves hturn)

/-- A yielded result leaves less to be done. -/
theorem before_of_yields {r : Result} (h : t.step = .yields r u) : u.Before t := by
  have hstep := t.stepped_step
  rw [h] at hstep
  rw [before_iff]
  cases hstep with
  | yields hbuffer =>
    refine .inr ⟨rfl, .inr ⟨rfl, .inr ⟨rfl, ?_⟩⟩⟩
    rw [hbuffer]
    exact Nat.lt_succ_self _

/-! ## Asking -/

/-- Moves until there is a result or no more. -/
def advance (t : Traversal) : Option Result × Traversal :=
  match _h : t.step with
  | .yields r t => (some r, t)
  | .stops t => (none, t)
  | .moves t => advance t
termination_by t.remaining
decreasing_by exact before_of_moves _h

/-- The next result, if there is one. -/
def next (t : Traversal) : Option Result × Traversal :=
  if t.closed || t.failure.isSome then (none, t)
  else if t.started then t.advance
  else match t.start with
    | (.ok (), t) => t.advance
    | (.error e, t) => (none, t.fail e)

/-! ## Asking again and again -/

/-- A result leaves less to be done. -/
theorem before_of_advance {r : Result} (h : t.advance = (some r, u)) : u.Before t := by
  fun_induction advance t with
  | case1 t r' t₁ hstep =>
    cases h
    exact before_of_yields hstep
  | case2 t t₁ hstep => cases h
  | case3 t t₁ hstep ih => exact (ih h).trans (before_of_moves hstep)

theorem remaining_start (t : Traversal) : t.start.2.remaining = t.remaining := by
  simp only [start]
  split
  · rfl
  · split
    · rfl
    · split <;> rfl

/-- A result leaves less to be done. -/
theorem before_of_next {r : Result} (h : t.next = (some r, u)) : u.Before t := by
  rw [next] at h
  by_cases hended : t.closed || t.failure.isSome
  · rw [if_pos hended] at h
    cases h
  · rw [if_neg hended] at h
    by_cases hstarted : t.started
    · rw [if_pos hstarted] at h
      exact before_of_advance h
    · rw [if_neg hstarted] at h
      rcases hstart : t.start with ⟨_ | _, t₁⟩
      · rw [hstart] at h
        cases h
      · rw [hstart] at h
        have hbefore := before_of_advance h
        rwa [Before, show t₁.remaining = t.remaining by rw [← remaining_start t, hstart]] at hbefore

/-- Asks until there is no more, or until there are as many results as the limit says. Answers the
results and whether the limit was met. -/
def collect (t : Traversal) (limit : Option Nat) : (List Result × Bool) × Traversal :=
  if limit = some 0 then (([], true), t)
  else match _h : t.next with
    | (none, t) => (([], false), t)
    | (some r, t) =>
      let ((rs, truncated), t) := collect t (limit.map (· - 1))
      ((r :: rs, truncated), t)
termination_by t.remaining
decreasing_by exact before_of_next _h

/-- Asks until there is no more, then closes the traversal. Answers the results and what went
wrong. -/
def drain (t : Traversal) : (List Result × Option TraversalError) × Traversal :=
  let ((rs, _), t) := t.collect none
  match t.failure with
  | some e => ((rs, some e), t)
  | none =>
    let (failure, t) := t.close
    ((rs, failure.map .database), t)

end Traversal

end PathQuery
