import PathQuery.Proofs.Relational.Statement
import PathQuery.Proofs.Traversal.Release

/-!
# After the end

Once there is no result there never is one again. Whether the reason is settled too depends on how
the traversal came to its end. One that has failed or has been closed turns every request away
unseen. One that is exhausted still takes a step whenever it is asked for a result, and that step
looks for a cancellation before it looks for something to do: an exhausted traversal that is
canceled and asked again fails. Closing is the only way to protect it.
-/

namespace PathQuery

namespace Traversal

variable {t₀ t u : Traversal}

/-! ## Answers -/

/-- The answer to a request, if it asks for a result. -/
def answer? (t : Traversal) : Request → Option (Option Result)
  | .next => some t.next.1
  | .nextInterrupted k => some (t.nextBy (advanceInterrupted k)).1
  | .cancel | .close => none

/-- The answers to requests that are made one after the other. -/
def answers (t : Traversal) : List Request → List (Option Result)
  | [] => []
  | request :: requests => (t.answer? request).toList ++ (t.handle request).answers requests

/-- Whether a result is asked for under a cancellation, before the traversal is closed. A
cancellation before the first step is in time, a later one comes after the end. -/
def asksCanceled : Bool → List Request → Bool
  | _, [] => false
  | canceled, .next :: requests => canceled || asksCanceled canceled requests
  | canceled, .nextInterrupted k :: requests => canceled || k == 0 || asksCanceled canceled requests
  | _, .cancel :: requests => asksCanceled true requests
  | _, .close :: _ => false

/-! ## Failed and closed traversals -/

/-- A traversal that turns every request for a result away. -/
def Barred (t : Traversal) : Prop := t.failure.isSome ∨ t.closed

theorem barred_fail (t : Traversal) (e : TraversalError) : (t.fail e).Barred := .inl rfl

namespace Barred

variable (h : t.Barred)
include h

theorem nextBy_eq (move : Traversal → Option Result × Traversal) : t.nextBy move = (none, t) := by
  rw [nextBy, if_pos]
  rw [Bool.or_eq_true]
  exact h.symm

theorem cancel : t.cancel.Barred ∧ t.cancel.failure = t.failure := by
  rw [Traversal.cancel]
  split
  · exact ⟨h, rfl⟩
  · exact ⟨h, rfl⟩

/-- Closing gives no reason where there is one. -/
theorem close : t.close.2.Barred ∧ t.close.2.failure = t.failure := by
  refine ⟨.inr (closed_close t), ?_⟩
  by_cases hclosed : t.closed
  · rw [Traversal.close, if_pos hclosed]
  · obtain ⟨e, he⟩ := Option.isSome_iff_exists.mp (h.resolve_right hclosed)
    have hkept : t.closeStatement.2.release.failure = some e := he
    rw [Traversal.close, if_neg hclosed]
    simp [hkept, he]

theorem handle (request : Request) :
    (t.handle request).Barred ∧ (t.handle request).failure = t.failure := by
  cases request with
  | next =>
    rw [Traversal.handle, next_eq_nextBy, h.nextBy_eq]
    exact ⟨h, rfl⟩
  | nextInterrupted k =>
    rw [Traversal.handle, h.nextBy_eq]
    exact ⟨h, rfl⟩
  | cancel => exact h.cancel
  | close => exact h.close

theorem failure_handleAll (requests : List Request) :
    (t.handleAll requests).failure = t.failure := by
  induction requests generalizing t with
  | nil => rfl
  | cons request requests ih =>
    obtain ⟨hbarred, hfailure⟩ := h.handle request
    exact (ih hbarred).trans hfailure

end Barred

/-! ## Exhausted traversals -/

/-- A traversal at its end that has neither failed nor been closed. -/
structure Exhausted (t : Traversal) : Prop extends t.Stopped where
  started : t.started
  failure : t.failure = none
  closed : t.closed = false

theorem Rested.barred_or_exhausted (h : Rested t₀ t) : t.Barred ∨ t.Exhausted := by
  by_cases hbarred : t.Barred
  · exact .inl hbarred
  · rw [Barred, not_or, Option.not_isSome_iff_eq_none, Bool.not_eq_true] at hbarred
    obtain ⟨hfailure, hclosed⟩ := hbarred
    have hbegun := h.begun
    rw [hfailure, hclosed] at hbegun
    exact .inr ⟨h.toStopped, by simpa using hbegun, hfailure, hclosed⟩

namespace Exhausted

variable (h : t.Exhausted)
include h

/-- The step of an exhausted traversal looks for a cancellation first. -/
theorem step_eq : t.step = .stops (if t.canceled then t.fail .canceled else t.finish) := by
  rw [step, h.buffer]
  dsimp only
  split
  · rfl
  · rw [h.stream, h.queue]
    dsimp only
    rw [turn_eq_of_stopped h.toStopped]

theorem nextBy_eq (move : Traversal → Option Result × Traversal) : t.nextBy move = move t := by
  rw [nextBy, h.failure, h.closed, if_neg (by simp), if_pos h.started]

theorem finish : t.finish.Exhausted :=
  ⟨⟨h.holdings, h.stream, h.queue, h.stage, h.buffer, rfl⟩, h.started, h.failure, h.closed⟩

theorem cancel_eq : t.cancel = { t with canceled := true } := by
  rw [Traversal.cancel, if_neg (by simp [h.holdings])]

theorem cancel : t.cancel.Exhausted := by
  rw [h.cancel_eq]
  exact ⟨⟨h.holdings, h.stream, h.queue, h.stage, h.buffer, h.connection⟩, h.started, h.failure,
    h.closed⟩

/-- Nothing is left undone, so that closing gives no reason. -/
theorem close : t.close.2.Barred ∧ t.close.2.failure = none := by
  have hkept : t.closeStatement.2.release.failure = none := h.failure
  rw [Traversal.close, h.closed]
  refine ⟨.inr rfl, ?_⟩
  simp [h.stage, hkept]

theorem handle_next : t.handle .next = if t.canceled then t.fail .canceled else t.finish := by
  rw [handle, next_eq_nextBy, h.nextBy_eq, advance_eq, h.step_eq]

theorem handle_nextInterrupted (k : ℕ) : t.handle (.nextInterrupted k) =
    if k = 0 then t.cancel.fail .canceled
    else if t.canceled then t.fail .canceled else t.finish := by
  rw [handle, h.nextBy_eq]
  cases k with
  | zero =>
    have hcanceled : t.cancel.canceled = true := by rw [h.cancel_eq]
    rw [advanceInterrupted, advance_eq, h.cancel.step_eq, if_pos hcanceled, if_pos rfl]
  | succ k => rw [advanceInterrupted, h.step_eq, if_neg k.succ_ne_zero]

end Exhausted

/-! ## Whatever is asked -/

/-- A request that finds an exhausted traversal canceled makes it fail; closing it in time is what
prevents this. -/
theorem Exhausted.failure_handleAll (h : t.Exhausted) (requests : List Request) :
    (t.handleAll requests).failure =
      if asksCanceled t.canceled requests then some .canceled else none := by
  -- a request leaves the traversal exhausted until one finds it canceled or closes it
  induction requests generalizing t with
  | nil => exact h.failure
  | cons request requests ih =>
    have hcons : t.handleAll (request :: requests) = (t.handle request).handleAll requests := rfl
    have hfail : ∀ u : Traversal, ((u.fail .canceled).handleAll requests).failure =
        some .canceled := fun u ↦ (barred_fail u .canceled).failure_handleAll requests
    rw [hcons]
    cases request with
    | next =>
      rw [h.handle_next, asksCanceled]
      by_cases hcanceled : t.canceled
      · rw [if_pos hcanceled, hfail, hcanceled]
        rfl
      · rw [if_neg hcanceled, ih h.finish, eq_false_of_ne_true hcanceled, Bool.false_or]
        rw [show t.finish.canceled = false from eq_false_of_ne_true hcanceled]
    | nextInterrupted k =>
      rw [h.handle_nextInterrupted, asksCanceled]
      by_cases hk : k = 0
      · rw [if_pos hk, hfail]
        simp [hk]
      · by_cases hcanceled : t.canceled
        · rw [if_neg hk, if_pos hcanceled, hfail, hcanceled]
          rfl
        · rw [if_neg hk, if_neg hcanceled, ih h.finish]
          rw [show t.finish.canceled = t.canceled from rfl]
          simp [hk, hcanceled]
    | cancel =>
      have hcanceled : t.cancel.canceled = true := by rw [h.cancel_eq]
      rw [handle, ih h.cancel, hcanceled, asksCanceled]
    | close =>
      obtain ⟨hbarred, hfailure⟩ := h.close
      rw [handle, hbarred.failure_handleAll, hfailure, asksCanceled]
      rfl

theorem Rested.failure_handleAll (h : Rested t₀ t) (requests : List Request) :
    (t.handleAll requests).failure =
      if t.failure.isNone && !t.closed && asksCanceled t.canceled requests then some .canceled
      else t.failure := by
  rcases h.barred_or_exhausted with hbarred | hexhausted
  · rw [hbarred.failure_handleAll, if_neg]
    rcases hbarred with hfailed | hclosed
    · simp [Option.isSome_iff_ne_none.mp hfailed]
    · simp [hclosed]
  · rw [hexhausted.failure_handleAll, hexhausted.failure, hexhausted.closed]
    rfl

theorem Rested.answer?_eq (h : Rested t₀ t) (request : Request) :
    ∀ answer ∈ t.answer? request, answer = none := by
  cases request with
  | next => simpa [answer?, next_eq_nextBy] using (h.nextBy h.advance).1
  | nextInterrupted k => simpa [answer?] using (h.nextBy (h.advanceInterrupted k)).1
  | cancel => simp [answer?]
  | close => simp [answer?]

theorem Rested.answers_eq (h : Rested t₀ t) (requests : List Request) :
    ∀ answer ∈ t.answers requests, answer = none := by
  induction requests generalizing t with
  | nil => simp [answers]
  | cons request requests ih =>
    intro answer hanswer
    rw [answers, List.mem_append, Option.mem_toList] at hanswer
    rcases hanswer with hnow | hlater
    · exact h.answer?_eq request answer hnow
    · exact ih (h.handle request).1 answer hlater

/-- The reason for which a traversal at its end has stopped stays as it is, whatever is asked,
exactly when the traversal has failed or has been closed. -/
theorem Rested.settled_iff (h : Rested t₀ t) :
    (∀ requests, (t.handleAll requests).failure = t.failure) ↔ t.failure.isSome ∨ t.closed := by
  constructor
  · intro hsettled
    rcases h.barred_or_exhausted with hbarred | hexhausted
    · exact hbarred
    · -- a cancellation and one more request would change the reason
      have hasked := hsettled [.cancel, .next]
      rw [hexhausted.failure_handleAll, hexhausted.failure] at hasked
      cases hasked
  · exact fun hbarred requests ↦ Barred.failure_handleAll hbarred requests

/-- A request that is answered with no result leaves a traversal at its end. -/
theorem Reached.rested_of_answer? (h : Reached t₀ t) {request : Request}
    (hend : t.answer? request = some none) : Rested t₀ (t.handle request) := by
  have hrested : ∀ {answer : Option Result × Traversal}, Answered t₀ answer → answer.1 = none →
      Rested t₀ answer.2 := by
    rintro answer (⟨r, hsome, -⟩ | ⟨-, hrested⟩) hnone
    · rw [hnone] at hsome
      cases hsome
    · exact hrested
  cases request with
  | next => exact hrested h.answered_next (Option.some.inj hend)
  | nextInterrupted k => exact hrested (h.answered_nextInterrupted k) (Option.some.inj hend)
  | cancel => cases hend
  | close => cases hend

/-- **After the end there are no more results, but there may be a new reason.** Once a traversal
that has been asked for this and that answers with no result, it answers with none whatever is asked
later. What it has failed with stays as it is if it has failed or has been closed by then. A
traversal that is merely exhausted fails as canceled as soon as a result is asked for under a
cancellation, unless it is closed before. -/
theorem answers_after_end (c : Compiler) (trees : List Tree) (batch : ℤ) (session : Session)
    (requests : List Request) (request : Request)
    (hend : ((ofTrees c trees batch session).handleAll requests).answer? request = some none) :
    let u := ((ofTrees c trees batch session).handleAll requests).handle request
    (∀ later, (∀ answer ∈ u.answers later, answer = none) ∧
      (u.handleAll later).failure =
        if u.failure.isNone && !u.closed && asksCanceled u.canceled later then some .canceled
        else u.failure) ∧
    ((∀ later, (u.handleAll later).failure = u.failure) ↔ u.failure.isSome ∨ u.closed) := by
  intro u
  have hunstarted : Unstarted (ofTrees c trees batch session) (ofTrees c trees batch session) :=
    ⟨rfl, rfl, rfl, rfl, rfl, rfl, rfl, rfl⟩
  have hreached := Reached.handleAll (.inl hunstarted) requests
  have hrested : Rested (ofTrees c trees batch session) u := hreached.rested_of_answer? hend
  exact ⟨fun later ↦ ⟨hrested.answers_eq later, hrested.failure_handleAll later⟩,
    hrested.settled_iff⟩

/-- A database that knows two edges in a row. -/
def arrowSession : Session where
  database := {
    source := ""
    script := { results := [
      { columns := some ["alias3"], rows := [[.int .int64 1]] },
      { columns := some [] }] } }

/-- An exhausted traversal that fails although nothing is left to be done. The cancellations of the
first two requests come too late to matter. -/
theorem answers_after_arrowEnd :
    let t := (ofTrees inlineCompiler [arrowTree] 2 arrowSession).handleAll [.nextInterrupted 9]
    ((ofTrees inlineCompiler [arrowTree] 2 arrowSession).nextBy (advanceInterrupted 9)).1.isSome ∧
      t.answer? (.nextInterrupted 9) = some none ∧
      (t.handle (.nextInterrupted 9)).failure = none ∧
      (t.handleAll [.nextInterrupted 9, .cancel, .next]).failure = some .canceled ∧
      (t.handleAll [.nextInterrupted 9, .close, .cancel, .next]).failure = none := by
  intro t
  have hnone : (t.nextBy (advanceInterrupted 9)).1.isNone := by decide +kernel
  have hend : t.answer? (.nextInterrupted 9) = some none :=
    congrArg some (Option.isNone_iff_eq_none.mp hnone)
  obtain ⟨hlater, -⟩ := answers_after_end inlineCompiler [arrowTree] 2 arrowSession
    [.nextInterrupted 9] (.nextInterrupted 9) hend
  have hsound : (t.handle (.nextInterrupted 9)).failure.isNone := by decide +kernel
  have hclosed : (t.handle (.nextInterrupted 9)).closed = false := by decide +kernel
  have hfailure := Option.isNone_iff_eq_none.mp hsound
  refine ⟨by decide +kernel, hend, hfailure, ?_, ?_⟩
  · refine (hlater [.cancel, .next]).2.trans ?_
    rw [if_pos]
    rw [Bool.and_eq_true, Bool.and_eq_true]
    exact ⟨⟨hsound, by simpa using hclosed⟩, rfl⟩
  · refine (hlater [.close, .cancel, .next]).2.trans ?_
    rw [asksCanceled, Bool.and_false, if_neg Bool.false_ne_true]
    exact hfailure

end Traversal

end PathQuery
