import PathQuery.Proofs.Compile.Thinning

/-!
# Sweeping over trees

The plain way to compile many trees takes the modes one after the other and in each mode the trees
in order. All statements of a mode share one registry, which is emptied when the mode is done. The
rows of a statement are read with the aliases that have been given by the time it is compiled, so
a statement comes with a copy of the registry.

Whether a path compiles does not depend on the state of the compiler. A tree whose statements have
compiled once compiles again, whatever has been compiled before it.
-/

namespace PathQuery

/-- A compiled statement with what its rows are read with. -/
structure CompiledTask where
  /-- The tree. -/
  tree : Tree
  /-- The statement. -/
  statement : Statement
  /-- The aliases that have been given. -/
  registry : Registry

namespace CompileM

variable {α β γ : Type} {c : Compiler} {t : Tree} {mode : Mode} {s s' : CompileState}

/-! ## Sweeps -/

/-- Compiles the statement of a path. -/
def compileTask (c : Compiler) (t : Tree) (mode : Mode) (p : OptionalPath) :
    CompileM CompiledTask := do
  let st ← statement c t mode p.path p.branches
  return ⟨t, st, (← get).registry⟩

/-- Compiles the statements of one mode, in path order. -/
def modeCompiled (c : Compiler) (t : Tree) (mode : Mode) : CompileM (List CompiledTask) := do
  (← modePaths t mode).mapM (compileTask c t mode)

/-- Takes trees in order, and forgets the aliases at the end. -/
def sweepMode (f : Tree → Mode → CompileM (List α)) (trees : List Tree) (mode : Mode) :
    CompileM (List α) := do
  let parts ← trees.mapM (f · mode)
  modify fun s ↦ { s with registry := {} }
  return parts.flatten

/-- Takes the modes one after the other, and trees in order in each of them. -/
def sweep (f : Tree → Mode → CompileM (List α)) (trees : List Tree) : CompileM (List α) := do
  let parts ← Mode.known.mapM (sweepMode f trees)
  return parts.flatten

theorem yields_compileTask_iff {p : OptionalPath} {x : CompiledTask} :
    (compileTask c t mode p).Yields s x s' ↔
      ∃ st, (statement c t mode p.path p.branches).Yields s st s' ∧ x = ⟨t, st, s'.registry⟩ := by
  constructor
  · intro h
    obtain ⟨st, s₁, hst, h₁⟩ := yields_bind_iff.mp h
    obtain ⟨_, _, hget, h₂⟩ := yields_bind_iff.mp h₁
    obtain ⟨rfl, rfl⟩ := yields_get_iff.mp hget
    obtain ⟨rfl, rfl⟩ := yields_pure_iff.mp h₂
    exact ⟨st, hst, rfl⟩
  · rintro ⟨st, hst, rfl⟩
    refine yields_bind_iff.mpr ⟨st, s', hst, yields_bind_iff.mpr ⟨s', s', ?_, ?_⟩⟩
    · exact yields_get_iff.mpr ⟨rfl, rfl⟩
    · exact yields_pure_iff.mpr ⟨rfl, rfl⟩

theorem yields_lift_bind_iff {x : Except QueryError α} {f : α → CompileM β} {b : β} :
    (liftM x >>= f).Yields s b s' ↔ ∃ a, x = .ok a ∧ (f a).Yields s b s' := by
  constructor
  · intro h
    obtain ⟨a, _, hlift, hb⟩ := yields_bind_iff.mp h
    obtain ⟨ha, rfl⟩ := yields_lift_iff.mp hlift
    exact ⟨a, ha, hb⟩
  · rintro ⟨a, ha, hb⟩
    exact yields_bind_iff.mpr ⟨a, s, yields_lift_iff.mpr ⟨ha, rfl⟩, hb⟩

theorem yields_modeCompiled_iff {xs : List CompiledTask} :
    (modeCompiled c t mode).Yields s xs s' ↔ ∃ paths, modePaths t mode = .ok paths ∧
      (paths.mapM (compileTask c t mode)).Yields s xs s' := yields_lift_bind_iff

theorem yields_modeStatements_iff {sts : List Statement} :
    (modeStatements c t mode).Yields s sts s' ↔ ∃ paths, modePaths t mode = .ok paths ∧
      (paths.mapM fun p ↦ statement c t mode p.path p.branches).Yields s sts s' :=
  yields_lift_bind_iff

theorem yields_sweepMode_iff {f : Tree → Mode → CompileM (List α)} {trees : List Tree}
    {xs : List α} : (sweepMode f trees mode).Yields s xs s' ↔
      ∃ parts s₁, (trees.mapM (f · mode)).Yields s parts s₁ ∧ xs = parts.flatten ∧
        s' = { s₁ with registry := {} } := by
  constructor
  · intro h
    obtain ⟨parts, s₁, hparts, h₁⟩ := yields_bind_iff.mp h
    obtain ⟨_, _, hforget, h₂⟩ := yields_bind_iff.mp h₁
    obtain rfl := yields_modify_iff.mp hforget
    obtain ⟨rfl, rfl⟩ := yields_pure_iff.mp h₂
    exact ⟨parts, s₁, hparts, rfl, rfl⟩
  · rintro ⟨parts, s₁, hparts, rfl, rfl⟩
    refine yields_bind_iff.mpr ⟨parts, s₁, hparts, ?_⟩
    exact yields_bind_iff.mpr
      ⟨⟨⟩, _, yields_modify_iff.mpr rfl, yields_pure_iff.mpr ⟨rfl, rfl⟩⟩

theorem yields_sweep_iff {f : Tree → Mode → CompileM (List α)} {trees : List Tree}
    {xs : List α} : (sweep f trees).Yields s xs s' ↔
      ∃ parts, (Mode.known.mapM (sweepMode f trees)).Yields s parts s' ∧ xs = parts.flatten := by
  constructor
  · intro h
    obtain ⟨parts, _, hparts, h₁⟩ := yields_bind_iff.mp h
    obtain ⟨rfl, rfl⟩ := yields_pure_iff.mp h₁
    exact ⟨parts, hparts, rfl⟩
  · rintro ⟨parts, hparts, rfl⟩
    exact yields_bind_iff.mpr ⟨parts, s', hparts, yields_pure_iff.mpr ⟨rfl, rfl⟩⟩

/-- No alias outlives a sweep. -/
theorem registry_eq_of_yields_sweep {f : Tree → Mode → CompileM (List α)} {trees : List Tree}
    {xs : List α} (h : (sweep f trees).Yields s xs s') : s'.registry = {} := by
  obtain ⟨parts, hparts, -⟩ := yields_sweep_iff.mp h
  obtain ⟨_, _, _, -, hrest₁, -⟩ := yields_mapM_cons_iff.mp hparts
  obtain ⟨_, _, _, -, hrest₂, -⟩ := yields_mapM_cons_iff.mp hrest₁
  obtain ⟨_, _, _, hemit, hrest₃, -⟩ := yields_mapM_cons_iff.mp hrest₂
  obtain ⟨-, rfl⟩ := yields_mapM_nil_iff.mp hrest₃
  obtain ⟨_, _, -, -, rfl⟩ := yields_sweepMode_iff.mp hemit
  rfl

/-! ## The statements of a sweep -/

/-- Answers that are read off other answers one by one. -/
theorem Yields.mapM_map {f : α → CompileM β} {g : α → CompileM γ} {k : β → γ}
    (hf : ∀ a s b s', (f a).Yields s b s' → (g a).Yields s (k b) s') {as : List α} {bs : List β}
    (h : (as.mapM f).Yields s bs s') : (as.mapM g).Yields s (bs.map k) s' := by
  induction as generalizing s bs with
  | nil =>
    obtain ⟨rfl, rfl⟩ := yields_mapM_nil_iff.mp h
    exact yields_mapM_nil_iff.mpr ⟨rfl, rfl⟩
  | cons a as ih =>
    obtain ⟨b, s₁, rest, hb, hrest, rfl⟩ := yields_mapM_cons_iff.mp h
    exact yields_mapM_cons_iff.mpr ⟨k b, s₁, rest.map k, hf _ _ _ _ hb, ih hrest, rfl⟩

theorem Yields.sweep_map {f : Tree → Mode → CompileM (List α)}
    {g : Tree → Mode → CompileM (List β)} {k : α → β}
    (hf : ∀ t mode s xs s', (f t mode).Yields s xs s' → (g t mode).Yields s (xs.map k) s')
    {trees : List Tree} {xs : List α} (h : (sweep f trees).Yields s xs s') :
    (sweep g trees).Yields s (xs.map k) s' := by
  obtain ⟨parts, hparts, rfl⟩ := yields_sweep_iff.mp h
  refine yields_sweep_iff.mpr ⟨parts.map (List.map k), hparts.mapM_map ?_, List.map_flatten⟩
  intro mode s xs s' hmode
  obtain ⟨parts, s₁, hparts, rfl, rfl⟩ := yields_sweepMode_iff.mp hmode
  refine yields_sweepMode_iff.mpr ⟨parts.map (List.map k), s₁, ?_, List.map_flatten, rfl⟩
  exact hparts.mapM_map fun t ↦ hf t mode

/-- The statements of a sweep are those that compiling mode by mode gives. -/
theorem Yields.modeStatements {xs : List CompiledTask}
    (h : (modeCompiled c t mode).Yields s xs s') :
    (modeStatements c t mode).Yields s (xs.map (·.statement)) s' := by
  obtain ⟨paths, hpaths, hxs⟩ := yields_modeCompiled_iff.mp h
  refine yields_modeStatements_iff.mpr ⟨paths, hpaths, hxs.mapM_map ?_⟩
  intro p s x s' hx
  obtain ⟨st, hst, rfl⟩ := yields_compileTask_iff.mp hx
  exact hst

/-! ## Compiling again -/

/-- A step that succeeds on every state. -/
def Total (m : CompileM α) : Prop := ∀ s, ∃ a s', m.Yields s a s'

theorem Total.mapM {f : α → CompileM β} {as : List α} (hf : ∀ a ∈ as, (f a).Total) :
    (as.mapM f).Total := by
  induction as with
  | nil => exact fun s ↦ ⟨[], s, yields_mapM_nil_iff.mpr ⟨rfl, rfl⟩⟩
  | cons a as ih =>
    intro s
    rw [List.forall_mem_cons] at hf
    obtain ⟨b, s₁, hb⟩ := hf.1 s
    obtain ⟨bs, s', hbs⟩ := ih hf.2 s₁
    exact ⟨b :: bs, s', yields_mapM_cons_iff.mpr ⟨b, s₁, bs, hb, hbs, rfl⟩⟩

/-- What has succeeded once, and does not depend on the state for that, succeeds always. -/
theorem Follows.total {m : CompileM α} {a : α} (hm : Follows False m m) (h : m.Yields s a s') :
    m.Total := by
  intro s₁
  obtain ⟨a', s₁', ha', -⟩ := hm h s₁ False.elim
  exact ⟨a', s₁', ha'⟩

theorem follows_statement {e : Prop} (c : Compiler) (t : Tree) (mode : Mode) (p : OptionalPath) :
    Follows e (statement c t mode p.path p.branches) (statement c t mode p.path p.branches) :=
  (Tree.Thins.refl t).statement c mode (fun _ _ ↦ trivial) fun _ _ ↦ trivial

theorem follows_allStatements {e : Prop} (c : Compiler) (t : Tree) :
    Follows e (allStatements c t) (allStatements c t) := by
  refine .lift_bind_eq (fun _ h ↦ h) fun _ ↦ .bind (.mapM fun mode _ ↦ ?_) fun _ _ hparts ↦
    .pure fun he ↦ by rw [hparts he]
  exact .lift_bind_eq (fun _ h ↦ h) fun paths ↦ .mapM fun p _ ↦ follows_statement c t mode p

/-- Every element has been met by some run. -/
theorem exists_yields_of_mem {f : α → CompileM β} {as : List α} {bs : List β} {a : α}
    (h : (as.mapM f).Yields s bs s') (ha : a ∈ as) : ∃ s₁ b s₂, (f a).Yields s₁ b s₂ := by
  induction as generalizing s bs with
  | nil => cases ha
  | cons a' as ih =>
    obtain ⟨b, s₁, rest, hb, hrest, rfl⟩ := yields_mapM_cons_iff.mp h
    rcases List.mem_cons.mp ha with rfl | ha
    · exact ⟨s, b, s₁, hb⟩
    · exact ih hrest ha

/-- A tree whose statements compile goes through every mode of a sweep. -/
theorem total_modeCompiled {sts : List Statement} (h : (allStatements c t).Yields s sts s')
    (hmode : mode ∈ Mode.known) : (modeCompiled c t mode).Total := by
  obtain ⟨_, _, -, h₁⟩ := yields_bind_iff.mp h
  obtain ⟨parts, _, hparts, -⟩ := yields_bind_iff.mp h₁
  obtain ⟨_, _, _, hstatements⟩ := exists_yields_of_mem hparts hmode
  obtain ⟨paths, hpaths, hsts⟩ := yields_modeStatements_iff.mp hstatements
  have htasks : (paths.mapM (compileTask c t mode)).Total := by
    refine .mapM fun p hp s ↦ ?_
    obtain ⟨_, _, _, hst⟩ := exists_yields_of_mem hsts hp
    obtain ⟨st, s₁, hst⟩ := (follows_statement c t mode p).total hst s
    exact ⟨_, s₁, yields_compileTask_iff.mpr ⟨st, hst, rfl⟩⟩
  intro s
  obtain ⟨xs, s₁, hxs⟩ := htasks s
  exact ⟨xs, s₁, yields_modeCompiled_iff.mpr ⟨paths, hpaths, hxs⟩⟩

/-- A sweep over trees whose statements compile succeeds from any state. -/
theorem total_sweep {trees : List Tree}
    (h : ∀ t ∈ trees, (allStatements c t).Total) :
    (sweep (modeCompiled c) trees).Total := by
  have hmodes : (Mode.known.mapM (sweepMode (modeCompiled c) trees)).Total := by
    refine .mapM fun mode hmode s ↦ ?_
    have htrees : (trees.mapM (modeCompiled c · mode)).Total := by
      refine .mapM fun t ht ↦ ?_
      obtain ⟨_, _, hsts⟩ := h t ht {}
      exact total_modeCompiled hsts hmode
    obtain ⟨parts, s₁, hparts⟩ := htrees s
    exact ⟨_, _, yields_sweepMode_iff.mpr ⟨parts, s₁, hparts, rfl, rfl⟩⟩
  intro s
  obtain ⟨parts, s', hparts⟩ := hmodes s
  exact ⟨_, s', yields_sweep_iff.mpr ⟨parts, hparts, rfl⟩⟩

end CompileM

end PathQuery
