import PathQuery.Command.World

/-!
# Runs of commands that succeed

A step of a command may fail, and then the command stops. What is said about accepted commands
concerns the runs that succeed: `m.Yields scene a scene'`. A run is taken apart into the runs of
its steps by the lemmas below, one for each way of reading or changing the scene. What only the last
step decides is said of all runs at once: `m.Ensures P`.
-/

namespace PathQuery.Command.CommandM

variable {α β ε : Type} {scene scene' : Scene} {a : α} {b : β}

/-- What `m` comes to in a scene, and the scene afterwards. -/
def runOn (m : CommandM α) (scene : Scene) : Except Failure α × Scene :=
  StateT.run m.run scene

/-- Running `m` in a scene succeeds with the answer `a` and leaves the scene `scene'`. -/
def Yields (m : CommandM α) (scene : Scene) (a : α) (scene' : Scene) : Prop :=
  m.runOn scene = (.ok a, scene')

theorem runOn_bind (m : CommandM α) (f : α → CommandM β) (scene : Scene) :
    (m >>= f).runOn scene = match m.runOn scene with
      | (.ok a, scene₁) => (f a).runOn scene₁
      | (.error e, scene₁) => (.error e, scene₁) := by
  simp only [runOn, ExceptT.run_bind, StateT.run_bind]
  change (match StateT.run m.run scene with | (x, scene₁) => _) = _
  rcases StateT.run m.run scene with ⟨_ | _, _⟩ <;> rfl

theorem yields_bind_iff {m : CommandM α} {f : α → CommandM β} :
    (m >>= f).Yields scene b scene' ↔
      ∃ a scene₁, m.Yields scene a scene₁ ∧ (f a).Yields scene₁ b scene' := by
  simp only [Yields, runOn_bind]
  rcases m.runOn scene with ⟨e | a, scene₁⟩
  · simp
  · constructor
    · exact fun h ↦ ⟨a, scene₁, rfl, h⟩
    · rintro ⟨a', scene₂, h, h'⟩
      cases h
      exact h'

theorem yields_pure_iff {a' : α} :
    (pure a : CommandM α).Yields scene a' scene' ↔ a' = a ∧ scene' = scene := by
  rw [Yields, show (pure a : CommandM α).runOn scene = (.ok a, scene) from rfl]
  simp [eq_comm]

theorem not_yields_throw {failure : Failure} :
    ¬(throw failure : CommandM α).Yields scene a scene' := by
  rintro ⟨⟩

theorem yields_orFail_iff {result : Except ε α} {failure : ε → Failure} :
    (orFail result failure).Yields scene a scene' ↔ result = .ok a ∧ scene' = scene := by
  cases result with
  | error e => exact iff_of_false not_yields_throw (by simp)
  | ok a' => rw [orFail, yields_pure_iff, Except.ok.injEq, eq_comm]

theorem yields_files_iff {fs : FileSystem} :
    files.Yields scene fs scene' ↔ fs = scene.world.files ∧ scene' = scene := by
  rw [Yields, show files.runOn scene = (.ok scene.world.files, scene) from rfl]
  simp [eq_comm]

theorem yields_onFiles {f : FileSystem → α × FileSystem} (h : (onFiles f).Yields scene a scene') :
    f scene.world.files = (a, scene'.world.files) := by
  cases h
  rfl

/-! ## What all runs come to -/

/-- Whatever `m` comes to has the property. -/
def Ensures (m : CommandM α) (P : α → Prop) : Prop :=
  ∀ ⦃scene a scene'⦄, m.Yields scene a scene' → P a

namespace Ensures

variable {P : β → Prop}

theorem bind {m : CommandM α} {f : α → CommandM β} (h : ∀ a, (f a).Ensures P) :
    (m >>= f).Ensures P := by
  intro scene b scene' hb
  obtain ⟨a, scene₁, -, hf⟩ := yields_bind_iff.mp hb
  exact h a hf

theorem pure (h : P b) : (Pure.pure b : CommandM β).Ensures P := by
  intro scene b' scene' hb
  obtain ⟨rfl, -⟩ := yields_pure_iff.mp hb
  exact h

/-- A step that stops the command in some cases does not matter. -/
theorem guarded {c : Prop} [Decidable c] {m : CommandM Unit} {rest : Unit → CommandM β}
    (h : ∀ u, (rest u).Ensures P) : (if c then m >>= rest else rest ()).Ensures P := by
  by_cases hc : c
  · rw [if_pos hc]
    exact .bind h
  · rw [if_neg hc]
    exact h ()

end Ensures

end PathQuery.Command.CommandM
