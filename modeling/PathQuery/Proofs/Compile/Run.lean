import Mathlib.Data.List.Forall2
import PathQuery.Compile.Tree

/-!
# Runs of compiling that succeed

A step of compiling may fail and changes the state even then. Everything said about compiled
statements concerns the runs that succeed, so these get a name: `m.Yields s a s'`. A run of a
sequence succeeds exactly when its parts do, one after the other, which is what the equivalences
below say for each way of putting steps together. Proofs about the compiler take a run apart with
them and never look at how steps are represented.
-/

namespace PathQuery

/-! ## Answers that may be faults -/

section Except

variable {ε α β : Type}

theorem bind_eq_ok_iff {x : Except ε α} {f : α → Except ε β} {b : β} :
    x >>= f = .ok b ↔ ∃ a, x = .ok a ∧ f a = .ok b := by
  cases x <;> simp [bind, Except.bind]

theorem map_eq_ok_iff {x : Except ε α} {f : α → β} {b : β} :
    f <$> x = .ok b ↔ ∃ a, x = .ok a ∧ f a = b := by
  cases x <;> simp [Functor.map, Except.map]

theorem mapError_eq_ok_iff {δ : Type} {x : Except ε α} {f : ε → δ} {a : α} :
    x.mapError f = .ok a ↔ x = .ok a := by
  cases x <;> simp [Except.mapError]

/-- A list of answers is an answer for every element. -/
theorem mapM_eq_ok_iff {f : α → Except ε β} {as : List α} {bs : List β} :
    as.mapM f = .ok bs ↔ List.Forall₂ (fun a b ↦ f a = .ok b) as bs := by
  induction as generalizing bs with
  | nil => cases bs <;> simp [pure, Except.pure]
  | cons a as ih =>
    rw [List.mapM_cons, bind_eq_ok_iff]
    constructor
    · rintro ⟨b, hb, h⟩
      obtain ⟨rest, hrest, h⟩ := bind_eq_ok_iff.mp h
      obtain rfl : b :: rest = bs := by simpa [pure, Except.pure] using h
      exact .cons hb (ih.mp hrest)
    · rintro (_ | ⟨hb, hrest⟩)
      exact ⟨_, hb, bind_eq_ok_iff.mpr ⟨_, ih.mpr hrest, rfl⟩⟩

theorem exists_of_mem_forall₂ {R : α → β → Prop} {as : List α} {bs : List β}
    (h : List.Forall₂ R as bs) {a : α} (ha : a ∈ as) : ∃ b ∈ bs, R a b := by
  induction h with
  | nil => cases ha
  | cons hr _ ih =>
    rcases List.mem_cons.mp ha with rfl | ha
    · exact ⟨_, List.mem_cons_self, hr⟩
    · obtain ⟨b, hb, hr⟩ := ih ha
      exact ⟨b, List.mem_cons_of_mem _ hb, hr⟩

theorem exists_of_mem_of_mapM_eq_ok {f : α → Except ε β} {as : List α} {bs : List β}
    (h : as.mapM f = .ok bs) : ∀ a ∈ as, ∃ b ∈ bs, f a = .ok b :=
  fun _ ↦ exists_of_mem_forall₂ (mapM_eq_ok_iff.mp h)

theorem exists_of_mapM_eq_error {f : α → Except ε β} {as : List α} {e : ε}
    (h : as.mapM f = .error e) : ∃ a ∈ as, f a = .error e := by
  induction as with
  | nil => cases h
  | cons a as ih =>
    rw [List.mapM_cons] at h
    cases ha : f a with
    | error e' =>
      rw [ha] at h
      cases h
      exact ⟨a, by simp, ha⟩
    | ok b =>
      cases has : as.mapM f with
      | error e' =>
        rw [ha, has] at h
        obtain ⟨a', hmem, hfail⟩ := ih (has.trans h)
        exact ⟨a', List.mem_cons_of_mem _ hmem, hfail⟩
      | ok bs =>
        rw [ha, has] at h
        cases h

theorem exists_of_mem_right_of_mapM_eq_ok {f : α → Except ε β} {as : List α} {bs : List β}
    (h : as.mapM f = .ok bs) : ∀ b ∈ bs, ∃ a ∈ as, f a = .ok b :=
  fun _ ↦ exists_of_mem_forall₂ (mapM_eq_ok_iff.mp h).flip

/-- What is read off the answers is read off what they answer, in the same order. -/
theorem map_eq_map_of_mapM_eq_ok {γ : Type} {f : α → Except ε β} {as : List α} {bs : List β}
    {g : β → γ} {g' : α → γ} (h : as.mapM f = .ok bs) (hg : ∀ a b, f a = .ok b → g b = g' a) :
    bs.map g = as.map g' := by
  rw [mapM_eq_ok_iff] at h
  induction h with
  | nil => rfl
  | cons hb _ ih => rw [List.map_cons, List.map_cons, ih, hg _ _ hb]

end Except

namespace CompileM

variable {α β : Type}

/-- Running `m` on `s` succeeds with the answer `a` and leaves the state `s'`. -/
def Yields (m : CompileM α) (s : CompileState) (a : α) (s' : CompileState) : Prop :=
  m.runOn s = (.ok a, s')

/-- A run that can be checked to succeed, with something to be checked of its outcome. -/
theorem exists_yields {m : CompileM α} {s : CompileState} {P : α → CompileState → Bool}
    (h : (match (m s).1 with
      | .ok a => P a (m s).2
      | .error _ => false) = true) : ∃ a s', m.Yields s a s' ∧ P a s' := by
  split at h
  · next a ha => exact ⟨a, (m s).2, Prod.ext ha rfl, h⟩
  · cases h

/-! ## Single steps -/

theorem yields_pure_iff {a b : α} {s s' : CompileState} :
    (pure a : CompileM α).Yields s b s' ↔ b = a ∧ s' = s := by
  rw [Yields, show (pure a : CompileM α).runOn s = (.ok a, s) from rfl]
  simp [eq_comm]

theorem yields_lift_iff {x : Except QueryError α} {a : α} {s s' : CompileState} :
    (liftM x : CompileM α).Yields s a s' ↔ x = .ok a ∧ s' = s := by
  rw [Yields, show (liftM x : CompileM α).runOn s = (x, s) from rfl]
  simp [eq_comm]

theorem yields_get_iff {a s s' : CompileState} :
    (get : CompileM CompileState).Yields s a s' ↔ a = s ∧ s' = s := by
  rw [Yields, show (get : CompileM CompileState).runOn s = (.ok s, s) from rfl]
  simp [eq_comm]

theorem yields_set_iff {a : PUnit} {s s' t : CompileState} :
    (set t : CompileM PUnit).Yields s a s' ↔ s' = t := by
  rw [Yields, show (set t : CompileM PUnit).runOn s = (.ok ⟨⟩, t) from rfl]
  simp [eq_comm]

theorem yields_modify_iff {a : PUnit} {f : CompileState → CompileState} {s s' : CompileState} :
    (modify f : CompileM PUnit).Yields s a s' ↔ s' = f s := by
  rw [Yields, show (modify f : CompileM PUnit).runOn s = (.ok ⟨⟩, f s) from rfl]
  simp [eq_comm]

theorem yields_drafting_iff {m : DraftM Unit} {a : Unit} {s s' : CompileState} :
    (drafting m).Yields s a s' ↔ s' = { s with draft := (m s.draft).2 } :=
  yields_modify_iff

/-! ## Sequences -/

theorem runOn_bind (m : CompileM α) (f : α → CompileM β) (s : CompileState) :
    (m >>= f).runOn s = match m.runOn s with
      | (.ok a, s₁) => (f a).runOn s₁
      | (.error e, s₁) => (.error e, s₁) := by
  simp only [runOn, ExceptT.run_bind, StateT.run_bind]
  change (match StateT.run (ExceptT.run m) s with | (x, s₁) => _) = _
  rcases StateT.run (ExceptT.run m) s with ⟨_ | _, s₁⟩ <;> rfl

theorem yields_bind_iff {m : CompileM α} {f : α → CompileM β} {b : β} {s s' : CompileState} :
    (m >>= f).Yields s b s' ↔ ∃ a s₁, m.Yields s a s₁ ∧ (f a).Yields s₁ b s' := by
  simp only [Yields, runOn_bind]
  rcases m.runOn s with ⟨e | a, s₁⟩
  · simp
  · constructor
    · intro h
      exact ⟨a, s₁, rfl, h⟩
    · rintro ⟨a', s₂, h, h'⟩
      obtain ⟨rfl, rfl⟩ : a = a' ∧ s₁ = s₂ := by simpa using h
      exact h'

/-- A step of writing goes through, and what comes after it finds the text written. -/
theorem yields_drafting_bind_iff {m : DraftM Unit} {f : Unit → CompileM β} {b : β}
    {s s' : CompileState} :
    (drafting m >>= f).Yields s b s' ↔ (f ()).Yields { s with draft := (m s.draft).2 } b s' := by
  rw [yields_bind_iff]
  constructor
  · rintro ⟨_, s₁, hm, h⟩
    obtain rfl := yields_drafting_iff.mp hm
    exact h
  · intro h
    exact ⟨(), _, yields_drafting_iff.mpr rfl, h⟩

/-- Naming a temporary table counts it and changes nothing else. -/
theorem yields_nextName {c : Compiler} {key name : String} {s s' : CompileState}
    (h : (nextName c key).Yields s name s') :
    name = c.temporaryName key s.temporaries ∧
      s' = { s with temporaries := s.temporaries + 1 } := by
  obtain ⟨_, _, hget, h₁⟩ := yields_bind_iff.mp h
  obtain ⟨rfl, rfl⟩ := yields_get_iff.mp hget
  obtain ⟨_, _, hset, h₂⟩ := yields_bind_iff.mp h₁
  obtain rfl := yields_set_iff.mp hset
  exact yields_pure_iff.mp h₂

theorem runOn_tryCatch (m : CompileM α) (g : QueryError → QueryError) (s : CompileState) :
    (tryCatch m fun e ↦ throw (g e) : CompileM α).runOn s = match m.runOn s with
      | (.ok a, s₁) => (.ok a, s₁)
      | (.error e, s₁) => (.error (g e), s₁) := by
  simp only [runOn, tryCatch, MonadExcept.tryCatch, tryCatchThe, MonadExceptOf.tryCatch,
    ExceptT.tryCatch, ExceptT.run_mk, StateT.run_bind]
  change StateT.run m s >>= _ = (match StateT.run m s with
    | (.ok a, s₁) => (.ok a, s₁)
    | (.error e, s₁) => (.error (g e), s₁) : Except QueryError α × CompileState)
  rcases StateT.run m s with ⟨_ | _, s₁⟩ <;> rfl

/-- Renaming the fault of a step changes none of its successful runs. -/
theorem yields_tryCatch_iff {m : CompileM α} {g : QueryError → QueryError} {a : α}
    {s s' : CompileState} :
    (tryCatch m fun e ↦ throw (g e) : CompileM α).Yields s a s' ↔ m.Yields s a s' := by
  simp only [Yields, runOn_tryCatch]
  rcases m.runOn s with ⟨e | a, s₁⟩ <;> simp

theorem yields_mapM_nil_iff {f : α → CompileM β} {bs : List β} {s s' : CompileState} :
    ([].mapM f).Yields s bs s' ↔ bs = [] ∧ s' = s := by
  rw [List.mapM_nil, yields_pure_iff]

theorem yields_mapM_cons_iff {f : α → CompileM β} {a : α} {as : List α} {bs : List β}
    {s s' : CompileState} :
    ((a :: as).mapM f).Yields s bs s' ↔
      ∃ b s₁ rest, (f a).Yields s b s₁ ∧ (as.mapM f).Yields s₁ rest s' ∧ bs = b :: rest := by
  rw [List.mapM_cons, yields_bind_iff]
  constructor
  · rintro ⟨b, s₁, hb, h⟩
    obtain ⟨rest, s₂, hrest, h⟩ := yields_bind_iff.mp h
    obtain ⟨rfl, rfl⟩ := yields_pure_iff.mp h
    exact ⟨b, s₁, rest, hb, hrest, rfl⟩
  · rintro ⟨b, s₁, rest, hb, hrest, rfl⟩
    exact ⟨b, s₁, hb, yields_bind_iff.mpr ⟨rest, s', hrest, yields_pure_iff.mpr ⟨rfl, rfl⟩⟩⟩

theorem yields_foldlM_nil_iff {f : β → α → CompileM β} {b b' : β} {s s' : CompileState} :
    (([] : List α).foldlM f b).Yields s b' s' ↔ b' = b ∧ s' = s := by
  rw [List.foldlM_nil, yields_pure_iff]

theorem yields_foldlM_cons_iff {f : β → α → CompileM β} {a : α} {as : List α} {b b' : β}
    {s s' : CompileState} :
    ((a :: as).foldlM f b).Yields s b' s' ↔
      ∃ b₁ s₁, (f b a).Yields s b₁ s₁ ∧ (as.foldlM f b₁).Yields s₁ b' s' := by
  rw [List.foldlM_cons, yields_bind_iff]

/-- What every step of a fold keeps, the fold keeps. -/
theorem yields_foldlM_induction {P : β → Prop} {f : β → α → CompileM β} {as : List α} {b b' : β}
    {s s' : CompileState} (h : (as.foldlM f b).Yields s b' s') (hb : P b)
    (hstep : ∀ a ∈ as, ∀ b s b' s', P b → (f b a).Yields s b' s' → P b') : P b' := by
  induction as generalizing b s with
  | nil =>
    obtain ⟨rfl, -⟩ := yields_foldlM_nil_iff.mp h
    exact hb
  | cons a as ih =>
    obtain ⟨b₁, s₁, hfirst, hrest⟩ := yields_foldlM_cons_iff.mp h
    obtain ⟨ha, has⟩ := List.forall_mem_cons.mp hstep
    exact ih hrest (ha b s b₁ s₁ hb hfirst) has

end CompileM

end PathQuery
