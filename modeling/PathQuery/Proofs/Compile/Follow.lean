import PathQuery.Proofs.Compile.Run

/-!
# Compiling twice

The compiler is run on one path more than once: to see whether it compiles and then to run its
statement, or before and after a tree has been pruned. One step *follows* another if it succeeds
whenever the other does, from whatever state, and gives the same answer when the two states agree.
States agree when they give the same aliases and the same temporary names from here on; what they
have written into the journal plays no part.

Whether the states agree is a parameter `e` of the relation. With `e` false it says that success
does not depend on the state, with `e` true that the answer depends on the aliases and temporary
names alone, and both are shown by one walk over the compiler.
-/

namespace PathQuery

/-- Two states from which compiling goes the same way. -/
structure CompileState.Agrees (s s' : CompileState) : Prop where
  /-- They give the same aliases. -/
  registry : s'.registry = s.registry
  /-- They give the same temporary names. -/
  temporaries : s'.temporaries = s.temporaries

theorem CompileState.Agrees.refl (s : CompileState) : s.Agrees s := ⟨rfl, rfl⟩

/-- Answers that come element by element are the same where those of the elements are. -/
theorem mapM_eq_ok_of_forall {ε α β : Type} {f f' : α → Except ε β} {as : List α} {bs : List β}
    (hf : ∀ a ∈ as, ∀ b, f a = .ok b → f' a = .ok b) (h : as.mapM f = .ok bs) :
    as.mapM f' = .ok bs := by
  rw [mapM_eq_ok_iff] at h ⊢
  induction h with
  | nil => exact .nil
  | cons hb _ ih =>
    rw [List.forall_mem_cons] at hf
    exact .cons (hf.1 _ hb) (ih hf.2)

namespace CompileM

variable {e : Prop} {α β : Type}

/-- Whenever `m` succeeds, `m'` does from any state, and if the states are known to agree it gives
the same answer and leaves states that agree. -/
def Follows (e : Prop) (m m' : CompileM α) : Prop :=
  ∀ ⦃s a s₁⦄, m.Yields s a s₁ → ∀ s', (e → s.Agrees s') →
    ∃ a' s₁', m'.Yields s' a' s₁' ∧ (e → a' = a ∧ s₁.Agrees s₁')

namespace Follows

theorem pure {a a' : α} (ha : e → a' = a) : Follows e (pure a) (pure a') := by
  intro s b s₁ h s' hs
  obtain ⟨rfl, rfl⟩ := yields_pure_iff.mp h
  exact ⟨a', s', yields_pure_iff.mpr ⟨rfl, rfl⟩, fun he ↦ ⟨ha he, hs he⟩⟩

theorem bind {m m' : CompileM α} {f f' : α → CompileM β} (hm : Follows e m m')
    (hf : ∀ a a', (e → a' = a) → Follows e (f a) (f' a')) :
    Follows e (m >>= f) (m' >>= f') := by
  intro s b s₂ h s' hs
  obtain ⟨a, s₁, ha, hb⟩ := yields_bind_iff.mp h
  obtain ⟨a', s₁', ha', hagree⟩ := hm ha s' hs
  obtain ⟨b', s₂', hb', hagree'⟩ :=
    hf a a' (fun he ↦ (hagree he).1) hb s₁' fun he ↦ (hagree he).2
  exact ⟨b', s₂', yields_bind_iff.mpr ⟨a', s₁', ha', hb'⟩, hagree'⟩

theorem pure_bind {a : α} {f f' : α → CompileM β} (hf : Follows e (f a) (f' a)) :
    Follows e (Pure.pure a >>= f) (Pure.pure a >>= f') := by
  intro s b s₂ h s' hs
  obtain ⟨_, _, hpure, hb⟩ := yields_bind_iff.mp h
  obtain ⟨rfl, rfl⟩ := yields_pure_iff.mp hpure
  obtain ⟨b', s₂', hb', hagree⟩ := hf hb s' hs
  exact ⟨b', s₂', yields_bind_iff.mpr ⟨_, s', yields_pure_iff.mpr ⟨rfl, rfl⟩, hb'⟩, hagree⟩

/-- What does not depend on the state is looked up first. The two may find different things, which
are related by `R`. -/
theorem lift_bind {γ γ' : Type} {x : Except QueryError γ} {x' : Except QueryError γ'}
    {f : γ → CompileM β} {f' : γ' → CompileM β} (R : γ → γ' → Prop)
    (hx : ∀ a, x = .ok a → ∃ a', x' = .ok a' ∧ R a a')
    (hf : ∀ a a', R a a' → Follows e (f a) (f' a')) :
    Follows e (liftM x >>= f) (liftM x' >>= f') := by
  intro s b s₂ h s' hs
  obtain ⟨a, s₁, hlift, hb⟩ := yields_bind_iff.mp h
  obtain ⟨hok, rfl⟩ := yields_lift_iff.mp hlift
  obtain ⟨a', ha', hR⟩ := hx a hok
  obtain ⟨b', s₂', hb', hagree⟩ := hf a a' hR hb s' hs
  exact ⟨b', s₂', yields_bind_iff.mpr ⟨a', s', yields_lift_iff.mpr ⟨ha', rfl⟩, hb'⟩, hagree⟩

theorem lift_bind_eq {γ : Type} {x x' : Except QueryError γ} {f f' : γ → CompileM β}
    (hx : ∀ a, x = .ok a → x' = .ok a) (hf : ∀ a, Follows e (f a) (f' a)) :
    Follows e (liftM x >>= f) (liftM x' >>= f') := by
  refine lift_bind (fun a a' ↦ a' = a) (fun a ha ↦ ⟨a, hx a ha, rfl⟩) ?_
  rintro a a' rfl
  exact hf _

theorem ite {c : Prop} [Decidable c] {m₁ m₁' m₂ m₂' : CompileM α} (h₁ : Follows e m₁ m₁')
    (h₂ : Follows e m₂ m₂') : Follows e (if c then m₁ else m₂) (if c then m₁' else m₂') := by
  split
  · exact h₁
  · exact h₂

theorem mapM {f f' : α → CompileM β} {as : List α} (hf : ∀ a ∈ as, Follows e (f a) (f' a)) :
    Follows e (as.mapM f) (as.mapM f') := by
  induction as with
  | nil =>
    rw [List.mapM_nil, List.mapM_nil]
    exact .pure fun _ ↦ rfl
  | cons a as ih =>
    rw [List.forall_mem_cons] at hf
    rw [List.mapM_cons, List.mapM_cons]
    refine .bind hf.1 fun b b' hb ↦ .bind (ih hf.2) fun bs bs' hbs ↦ .pure fun he ↦ ?_
    rw [hb he, hbs he]

theorem foldlM {f f' : β → α → CompileM β} {as : List α}
    (hf : ∀ a ∈ as, ∀ b b', (e → b' = b) → Follows e (f b a) (f' b' a)) {b b' : β}
    (hb : e → b' = b) : Follows e (as.foldlM f b) (as.foldlM f' b') := by
  induction as generalizing b b' with
  | nil =>
    rw [List.foldlM_nil, List.foldlM_nil]
    exact .pure hb
  | cons a as ih =>
    rw [List.forall_mem_cons] at hf
    rw [List.foldlM_cons, List.foldlM_cons]
    exact .bind (hf.1 b b' hb) fun _ _ hb₁ ↦ ih hf.2 hb₁

theorem tryCatch {m m' : CompileM α} (hm : Follows e m m') (g g' : QueryError → QueryError) :
    Follows e (tryCatch m fun x ↦ throw (g x)) (tryCatch m' fun x ↦ throw (g' x)) := by
  intro s a s₁ h s' hs
  obtain ⟨a', s₁', ha', hagree⟩ := hm (yields_tryCatch_iff.mp h) s' hs
  exact ⟨a', s₁', yields_tryCatch_iff.mpr ha', hagree⟩

/-- What is written plays no part. -/
theorem drafting_bind {w w' : DraftM Unit} {f f' : Unit → CompileM β}
    (hf : Follows e (f ()) (f' ())) :
    Follows e (drafting w >>= f) (drafting w' >>= f') := by
  intro s b s₁ h s' hs
  obtain ⟨b', s₁', hb', hagree⟩ := hf (yields_drafting_bind_iff.mp h)
    { s' with draft := (w' s'.draft).2 } fun he ↦ ⟨(hs he).registry, (hs he).temporaries⟩
  exact ⟨b', s₁', yields_drafting_bind_iff.mpr hb', hagree⟩

theorem push_journal (st st' : Statement) :
    Follows e (modify fun s ↦ { s with journal := s.journal.push st } : CompileM PUnit)
      (modify fun s ↦ { s with journal := s.journal.push st' }) := by
  intro s a s₁ h s' hs
  obtain rfl := yields_modify_iff.mp h
  exact ⟨a, _, yields_modify_iff.mpr rfl, fun he ↦ ⟨rfl, (hs he).registry, (hs he).temporaries⟩⟩

/-! ## What reads and changes the state -/

theorem project (id : NodeId) (n : Node) (role : Role) (column : String) :
    Follows e (project id n role column) (project id n role column) := by
  intro s q s₁ h s' hs
  set slot : Column := ⟨role.labels n, n.table, column⟩
  obtain ⟨rfl, rfl⟩ : q = ⟨id, role, column, (s.registry.register slot).1⟩ ∧
      s₁ = { s with registry := (s.registry.register slot).2 } := by
    obtain ⟨_, _, hget, h₁⟩ := yields_bind_iff.mp h
    obtain ⟨rfl, rfl⟩ := yields_get_iff.mp hget
    obtain ⟨_, _, hset, h₂⟩ := yields_bind_iff.mp h₁
    obtain rfl := yields_set_iff.mp hset
    exact yields_pure_iff.mp h₂
  refine ⟨⟨id, role, column, (s'.registry.register slot).1⟩,
    { s' with registry := (s'.registry.register slot).2 }, ?_, fun he ↦ ?_⟩
  · refine yields_bind_iff.mpr ⟨s', s', yields_get_iff.mpr ⟨rfl, rfl⟩, ?_⟩
    exact yields_bind_iff.mpr ⟨⟨⟩, _, yields_set_iff.mpr rfl, yields_pure_iff.mpr ⟨rfl, rfl⟩⟩
  · rw [(hs he).registry]
    exact ⟨rfl, rfl, (hs he).temporaries⟩

theorem nextName (c : Compiler) (key : String) :
    Follows e (nextName c key) (nextName c key) := by
  intro s name s₁ h s' hs
  obtain ⟨rfl, rfl⟩ := yields_nextName h
  refine ⟨c.temporaryName key s'.temporaries, { s' with temporaries := s'.temporaries + 1 }, ?_,
    fun he ↦ ?_⟩
  · refine yields_bind_iff.mpr ⟨s', s', yields_get_iff.mpr ⟨rfl, rfl⟩, ?_⟩
    exact yields_bind_iff.mpr ⟨⟨⟩, _, yields_set_iff.mpr rfl, yields_pure_iff.mpr ⟨rfl, rfl⟩⟩
  · rw [(hs he).temporaries]
    exact ⟨rfl, (hs he).registry, rfl⟩

end Follows

end CompileM

end PathQuery
