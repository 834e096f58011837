import PathQuery.Proofs.Traversal.Release

/-!
# No refusal is overlooked

What a traversal fails with comes from a call that has been refused, or from a row that cannot be
read. The converse is that it goes on only if no call has been refused: every part of a traversal
that makes calls reports a refusal, be it that of another call made while cleaning up after it.
-/

namespace PathQuery

namespace SessionM

variable {ch : Channel}

theorem smooth_insertAll (m : MembershipTable) (batches : List (List Value)) :
    (insertAll ch m batches).Emits ch fun failure rs ↦ failure = none → Smooth rs := by
  induction batches with
  | nil => exact .pure fun _ ↦ smooth_nil
  | cons batch batches ih =>
    refine .call_bind rfl fun refusal ↦ ?_
    cases refusal with
    | some words => exact .pure (by simp)
    | none => exact ih.mono fun _ _ h hnone ↦ smooth_cons.mpr ⟨rfl, h hnone⟩

theorem smooth_insertValues (m : MembershipTable) :
    (insertValues ch m).Emits ch fun failure rs ↦ failure = none → Smooth rs := by
  refine .call_bind rfl fun refusal ↦ ?_
  cases refusal with
  | some words => exact .pure (by simp)
  | none =>
    refine (smooth_insertAll m _).bind fun failure rs hrs ↦ ?_
    cases failure with
    | some words => exact .call_bind rfl fun _ ↦ .pure (by simp)
    | none =>
      refine .call_bind rfl fun refusal ↦ ?_
      cases refusal with
      | some words => exact .pure (by simp)
      | none => exact .pure fun _ ↦ by simp [hrs]

theorem smooth_loadValues (d : Dialect) (m : MembershipTable) :
    (loadValues d ch m).Emits ch fun failure rs ↦ failure = none → Smooth rs := by
  rw [loadValues]
  split
  · exact smooth_insertValues m
  · exact .pure (by simp)

theorem smooth_loadTables (d : Dialect) (st : Statement) (tables : List MembershipTable) :
    (loadTables d ch st tables).Emits ch fun answer rs ↦ answer.1 = none → Smooth rs := by
  induction tables with
  | nil => exact .pure fun _ ↦ smooth_nil
  | cons m tables ih =>
    refine .call_bind rfl fun refusal ↦ ?_
    cases refusal with
    | some words => exact .pure (by simp)
    | none =>
      refine (smooth_loadValues d m).bind fun failure rs hrs ↦ ?_
      cases failure with
      | some e => exact .pure (by simp)
      | none =>
        refine .notify_bind (ih.bind fun answer rs' hrs' ↦ .pure fun hnone ↦ ?_)
        rw [List.append_nil, smooth_cons, smooth_append]
        exact ⟨rfl, hrs rfl, hrs' hnone⟩

theorem smooth_dropTables (d : Dialect) (names : List String) :
    (dropTables d ch names).Emits ch fun failure rs ↦ failure = none → Smooth rs := by
  induction names with
  | nil => exact .pure fun _ ↦ smooth_nil
  | cons name names ih =>
    refine (Emits.call_over (.inr rfl) rfl).bind ?_
    rintro first _ rfl
    refine ih.bind fun later rs hrs ↦ .pure fun hnone ↦ ?_
    cases first with
    | some words => simp at hnone
    | none =>
      rw [List.append_nil, List.singleton_append, smooth_cons]
      exact ⟨rfl, hrs hnone⟩

theorem smooth_callIf (b : Bool) {m : SessionM (Option String)} {c : Call}
    (hm : m.Emits ch fun failure rs ↦ rs = [⟨c, ch, failure⟩]) :
    (callIf b m).Emits ch fun failure rs ↦ failure = none → Smooth rs := by
  rw [callIf]
  split
  · refine hm.mono ?_
    rintro failure rs rfl rfl
    exact smooth_cons.mpr ⟨rfl, smooth_nil⟩
  · exact .pure fun _ ↦ smooth_nil

end SessionM

theorem Holdings.smooth_release (d : Dialect) (ch : Channel) (held : Holdings) :
    (held.release d ch).Emits ch fun failure rs ↦ failure = none → Smooth rs := by
  rw [release_eq]
  refine (SessionM.smooth_callIf _ (.call rfl)).bind fun rows rs₁ hrows ↦ ?_
  refine (SessionM.smooth_callIf _ .closeStatement).bind fun statement rs₂ hstatement ↦ ?_
  refine (SessionM.smooth_dropTables d _).bind fun tables rs₃ htables ↦ .pure fun hnone ↦ ?_
  -- the first of the three failures is the answer, so there is none of them
  simp only [Option.orElse_eq_orElse, Option.orElse_eq_or, Option.or_eq_none_iff] at hnone
  obtain ⟨rfl, rfl, rfl⟩ := hnone
  simp [hrows, hstatement, htables]

namespace Traversal

variable {ch : Channel}

theorem smooth_startQuery (tree : Tree) (st : Statement) (held : Holdings) :
    (startQuery ch tree st held).Emits ch fun answer rs ↦
      (∃ stream, answer.1 = .ok stream) → Smooth rs := by
  refine (SessionM.Emits.prepare st.sql).bind ?_
  rintro refusal _ rfl
  cases refusal with
  | some words => exact .pure (by simp)
  | none =>
    refine .get_bind fun s ↦ .call_bind rfl fun refusal ↦ ?_
    cases refusal with
    | some words => exact .pure (by simp)
    | none =>
      refine .get_bind fun s' ↦ ?_
      dsimp only
      split
      · exact .pure (by simp)
      · exact .notify_bind (.pure fun _ ↦ by simp)

theorem smooth_runStatement (d : Dialect) (ch : Channel) (tree : Tree) (st : Statement) :
    (runStatement d ch tree st).Emits ch fun answer rs ↦
      (∃ stream, answer.1 = .ok stream) → Smooth rs := by
  refine (SessionM.smooth_loadTables d st st.tables).bind ?_
  rintro ⟨failure, names⟩ rs hrs
  cases failure with
  | some e => exact .pure_bind (.notify_bind (.pure (by simp)))
  | none =>
    refine (smooth_startQuery tree st _).bind ?_
    rintro ⟨outcome, held⟩ rs' hrs'
    cases outcome with
    | error e => exact .notify_bind (.pure (by simp))
    | ok stream =>
      refine .pure fun _ ↦ ?_
      rw [List.append_nil, smooth_append]
      exact ⟨hrs rfl, hrs' ⟨stream, rfl⟩⟩

/-- A batch of rows that ends in a failed fetch says so. -/
theorem smooth_readBatch (reader : RowReader) (n : ℕ) (rows : List (List Value)) :
    (readBatch ch reader n rows).Emits ch fun answer rs ↦
      (∀ words, answer.2.2 ≠ .fetch words) → Smooth rs := by
  induction n generalizing rows with
  | zero => exact .pure fun _ ↦ smooth_nil
  | succ n ih =>
    refine .call_bind rfl fun refusal ↦ ?_
    cases refusal with
    | some words => exact .call_bind rfl fun _ ↦ .pure fun h ↦ absurd rfl (h words)
    | none =>
      cases rows with
      | nil =>
        refine .call_bind rfl fun refusal ↦ ?_
        cases refusal with
        | some words => exact .pure fun h ↦ absurd rfl (h words)
        | none => exact .pure fun _ ↦ by simp
      | cons row rows =>
        dsimp only
        split
        · exact .pure fun _ ↦ by simp
        · refine (ih rows).bind fun answer rs hrs ↦ .pure fun h ↦ ?_
          rw [List.append_nil, smooth_cons]
          exact ⟨rfl, hrs h⟩

end Traversal

end PathQuery
