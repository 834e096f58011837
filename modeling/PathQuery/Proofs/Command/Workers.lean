import Mathlib.Algebra.GroupWithZero.Nat
import PathQuery.Command.World
import PathQuery.Proofs.Compile.Temporaries
import PathQuery.Proofs.Plan.Operands

/-!
# Compiling plans at the same time

Plans are compiled by workers, one for each of them, and a few may be at work at a time. They share
the compiler, which they ask for the names of temporary tables, and the slots that they put what
they have compiled into. A worker that fails reports its fault: the first fault is kept, and the
group is canceled then. A worker that begins after that gives up.

Any worker that can go on may be the next one to do so. Whatever their order, the workers come to an
end. A fault is kept before the group is canceled, so the first fault is never that of a worker that
has given up; and what a worker compiles does not depend on the numbers that it draws, but for the
names of temporary tables.
-/

namespace PathQuery.Command

open List (Forall₂)

/-! ## Workers -/

/-- What a worker fails with. -/
inductive WorkerFault where
  /-- The group had been canceled when it began. -/
  | canceled
  /-- The plan does not compile. -/
  | plan (p : Plan) (e : PlanFault)

/-- The wording of the fault. -/
def WorkerFault.message : WorkerFault → Text
  | .canceled => TraversalError.cancelWord
  | .plan p e => aboutPlan p (Text.ofString e.message)

/-- How far a worker is. -/
inductive WorkerStage where
  /-- It has not been started. -/
  | waiting
  /-- It is to see whether the group has been canceled. -/
  | started
  /-- It compiles its plan, and has drawn these numbers for the names of temporary tables. -/
  | compiling (drawn : List ℕ)
  /-- It is to report that it has failed. -/
  | failed (e : WorkerFault)
  /-- Its fault is kept, and it is to cancel the group. -/
  | reported
  /-- It has come to an end. -/
  | finished

/-- Whether a worker is at work. -/
def WorkerStage.isBusy : WorkerStage → Bool
  | .waiting | .finished => false
  | _ => true

/-- Whether a worker has not been started. -/
def WorkerStage.isWaiting : WorkerStage → Bool
  | .waiting => true
  | _ => false

/-- Whether a worker has come to an end. -/
def WorkerStage.isFinished : WorkerStage → Bool
  | .finished => true
  | _ => false

/-- Workers and what they share. -/
structure Workers where
  /-- How far each of them is. -/
  stages : List WorkerStage
  /-- What each of them has compiled. -/
  slots : List (Option CompiledPlan)
  /-- The next number for the name of a temporary table. -/
  temporaries : ℕ
  /-- The first fault that has been reported. -/
  fault : Option WorkerFault := none
  /-- Whether the group has been canceled. -/
  canceled : Bool := false

namespace Workers

/-- Worker `i` gets on to another stage. -/
def move (ws : Workers) (i : ℕ) (stage : WorkerStage) : Workers :=
  { ws with stages := ws.stages.set i stage }

/-- Workers are started in order, and only so many are at work at a time. -/
def mayStart (ws : Workers) (limit i : ℕ) : Bool :=
  (ws.stages.take i).all (!·.isWaiting) && ws.stages.countP (·.isBusy) < limit

/-- Whether all have come to an end. -/
def isDone (ws : Workers) : Bool := ws.stages.all (·.isFinished)

/-- What is answered in the end. -/
def outcome (ws : Workers) : Except WorkerFault (List (Option CompiledPlan)) :=
  match ws.fault with
  | some e => .error e
  | none => .ok ws.slots

end Workers

/-- Plans to be compiled, and how. -/
structure CompileJob where
  /-- The compiler. -/
  compiler : Compiler
  /-- The topology. -/
  topology : Topology
  /-- The mode, or all of them. -/
  mode : Option Mode
  /-- The plans. -/
  plans : List Plan
  /-- How many workers may be at work at a time. -/
  limit : ℕ

namespace CompileJob

/-- What a worker has compiled with the numbers that it has drawn, unless it needs another one. -/
def attempt? (job : CompileJob) (p : Plan) (drawn : List ℕ) :
    Option (Except PlanFault CompiledPlan) :=
  let names (key : String) (n : ℕ) := job.compiler.temporaryName key (drawn.getD n 0)
  let (outcome, s) := p.compile (job.compiler.naming names) job.topology job.mode {}
  if drawn.length < s.temporaries then none else some outcome

/-- The workers before any has been started, when `k` temporary tables have been named. -/
def workers (job : CompileJob) (k : ℕ) : Workers where
  stages := job.plans.map fun _ ↦ .waiting
  slots := job.plans.map fun _ ↦ none
  temporaries := k

/-- Worker `i` goes on by one step, if it can. -/
def step (job : CompileJob) (ws : Workers) (i : ℕ) : Option Workers :=
  match job.plans[i]?, ws.stages[i]? with
  | some _, some .waiting => if ws.mayStart job.limit i then some (ws.move i .started) else none
  | some _, some .started =>
    some (ws.move i (if ws.canceled then .failed .canceled else .compiling []))
  | some p, some (.compiling drawn) =>
    match job.attempt? p drawn with
    | none => some { ws.move i (.compiling (drawn ++ [ws.temporaries])) with
        temporaries := ws.temporaries + 1 }
    | some (.ok compiled) => some { ws.move i .finished with
        slots := ws.slots.set i (some compiled) }
    | some (.error e) => some (ws.move i (.failed (.plan p e)))
  | some _, some (.failed e) =>
    match ws.fault with
    | none => some { ws.move i .reported with fault := some e }
    | some _ => some (ws.move i .finished)
  | some _, some .reported => some { ws.move i .finished with canceled := true }
  | _, _ => none

/-- Workers go on one after the other, in the order of a schedule. -/
def run (job : CompileJob) (schedule : List ℕ) (ws : Workers) : Option Workers :=
  schedule.foldlM job.step ws

/-! ## Plans on their own -/

/-- From whatever state, the plan compiles to this but for the names of temporary tables. -/
def CompilesTo (job : CompileJob) (p : Plan) (compiled : CompiledPlan) : Prop :=
  ∀ s, ∃ own, (p.compile job.compiler job.topology job.mode s).1 = .ok own ∧ own.Renamed compiled

/-- From whatever state, the plan fails with this fault. -/
def FailsWith (job : CompileJob) (p : Plan) (e : PlanFault) : Prop :=
  ∀ s, (p.compile job.compiler job.topology job.mode s).1 = .error e

/-- How many temporary tables the plan names. -/
def needs (job : CompileJob) (p : Plan) : ℕ :=
  (p.compile job.compiler job.topology job.mode {}).2.temporaries

variable {job : CompileJob} {p : Plan} {drawn : List ℕ}

theorem attempt?_eq_none_iff : job.attempt? p drawn = none ↔ drawn.length < job.needs p := by
  obtain ⟨-, n, hn, hn'⟩ := p.renamed_compile job.compiler
    (fun key n ↦ job.compiler.temporaryName key (drawn.getD n 0)) job.topology job.mode {} {}
  rw [needs, hn, ← hn', attempt?]
  simp

/-- A worker that needs no more numbers has what the plan compiles to on its own. -/
theorem outcomes_of_attempt? {outcome : Except PlanFault CompiledPlan}
    (h : job.attempt? p drawn = some outcome) (s : CompileState) :
    Outcomes CompiledPlan.Renamed (p.compile job.compiler job.topology job.mode s).1 outcome := by
  rw [attempt?] at h
  dsimp only at h
  split at h
  · cases h
  · exact Option.some.inj h ▸ (p.renamed_compile job.compiler _ job.topology job.mode s {}).1

theorem compilesTo_of_attempt? {compiled : CompiledPlan}
    (h : job.attempt? p drawn = some (.ok compiled)) : job.CompilesTo p compiled := by
  intro s
  have hsame := outcomes_of_attempt? h s
  generalize (p.compile job.compiler job.topology job.mode s).1 = own at hsame ⊢
  cases hsame with
  | answer hown => exact ⟨_, rfl, hown⟩

theorem failsWith_of_attempt? {e : PlanFault} (h : job.attempt? p drawn = some (.error e)) :
    job.FailsWith p e := by
  intro s
  have hsame := outcomes_of_attempt? h s
  generalize (p.compile job.compiler job.topology job.mode s).1 = own at hsame ⊢
  cases hsame with
  | fault _ => rfl

/-! ## Steps -/

variable {ws ws' : Workers} {i : ℕ}

/-- What a worker can do. -/
inductive Moves (job : CompileJob) (ws : Workers) (i : ℕ) : Workers → Prop
  | start (here : ws.stages[i]? = some .waiting) (turn : ws.mayStart job.limit i) :
      Moves job ws i (ws.move i .started)
  | begin (here : ws.stages[i]? = some .started) (free : ws.canceled = false) :
      Moves job ws i (ws.move i (.compiling []))
  | giveUp (here : ws.stages[i]? = some .started) (canceled : ws.canceled) :
      Moves job ws i (ws.move i (.failed .canceled))
  | draw {p : Plan} {drawn : List ℕ} (here : ws.stages[i]? = some (.compiling drawn))
      (plan : job.plans[i]? = some p) (needs : drawn.length < job.needs p) :
      Moves job ws i { ws.move i (.compiling (drawn ++ [ws.temporaries])) with
        temporaries := ws.temporaries + 1 }
  | store {p : Plan} {drawn : List ℕ} {compiled : CompiledPlan}
      (here : ws.stages[i]? = some (.compiling drawn)) (plan : job.plans[i]? = some p)
      (compiles : job.CompilesTo p compiled) :
      Moves job ws i { ws.move i .finished with slots := ws.slots.set i (some compiled) }
  | fail {p : Plan} {drawn : List ℕ} {e : PlanFault}
      (here : ws.stages[i]? = some (.compiling drawn)) (plan : job.plans[i]? = some p)
      (fails : job.FailsWith p e) : Moves job ws i (ws.move i (.failed (.plan p e)))
  | report {e : WorkerFault} (here : ws.stages[i]? = some (.failed e)) (first : ws.fault = none) :
      Moves job ws i { ws.move i .reported with fault := some e }
  | passOver {e : WorkerFault} (here : ws.stages[i]? = some (.failed e))
      (late : ws.fault.isSome) : Moves job ws i (ws.move i .finished)
  | cancel (here : ws.stages[i]? = some .reported) :
      Moves job ws i { ws.move i .finished with canceled := true }

theorem moves_of_step (h : job.step ws i = some ws') : job.Moves ws i ws' := by
  rw [step] at h
  split at h
  · next here =>
    split at h
    · next turn => exact Option.some.inj h ▸ .start here turn
    · cases h
  · next here =>
    cases hcanceled : ws.canceled with
    | true =>
      rw [hcanceled, if_pos rfl] at h
      exact Option.some.inj h ▸ .giveUp here hcanceled
    | false =>
      rw [hcanceled, if_neg (by simp)] at h
      exact Option.some.inj h ▸ .begin here hcanceled
  · next p drawn plan here =>
    split at h
    · next hnone => exact Option.some.inj h ▸ .draw here plan (attempt?_eq_none_iff.mp hnone)
    · next compiled hok => exact Option.some.inj h ▸ .store here plan (compilesTo_of_attempt? hok)
    · next e herror => exact Option.some.inj h ▸ .fail here plan (failsWith_of_attempt? herror)
  · next e here =>
    split at h
    · next hnone => exact Option.some.inj h ▸ .report here hnone
    · next e' hsome => exact Option.some.inj h ▸ .passOver here (Option.isSome_of_eq_some hsome)
  · next here => exact Option.some.inj h ▸ .cancel here
  · cases h

/-! ### What is kept -/

/-- The fault is that of a plan that fails on its own. -/
def Blames (job : CompileJob) (e : WorkerFault) : Prop :=
  ∃ p ∈ job.plans, ∃ fault, e = .plan p fault ∧ job.FailsWith p fault

/-- What there is by the time that worker `i` is at a stage. -/
def Backs (job : CompileJob) (ws : Workers) (i : ℕ) : WorkerStage → Prop
  | .failed e => job.Blames e ∨ ws.fault.isSome
  | .reported => ws.fault.isSome
  | .finished => ws.fault.isSome ∨ ∃ compiled, ws.slots[i]? = some (some compiled)
  | _ => True

/-- What holds of workers at any time. -/
structure Sound (job : CompileJob) (ws : Workers) : Prop where
  /-- There is a worker for every plan, -/
  length_stages : ws.stages.length = job.plans.length
  /-- and a slot. -/
  length_slots : ws.slots.length = job.plans.length
  /-- Whoever has failed is to blame for it, or was not the first; whoever has come to an end has
  filled its slot, unless there has been a fault. -/
  backed : ∀ (i : ℕ) stage, ws.stages[i]? = some stage → job.Backs ws i stage
  /-- A slot that is filled has what its plan compiles to. -/
  slots : ∀ (i : ℕ) p compiled, job.plans[i]? = some p → ws.slots[i]? = some (some compiled) →
    job.CompilesTo p compiled
  /-- The fault that is kept is that of a plan. -/
  fault : ∀ e, ws.fault = some e → job.Blames e
  /-- The group is canceled after a fault only. -/
  canceled : ws.canceled → ws.fault.isSome

theorem sound_workers (job : CompileJob) (k : ℕ) : job.Sound (job.workers k) where
  length_stages := List.length_map _
  length_slots := List.length_map _
  backed := by
    intro i stage hstage
    obtain ⟨p, -, rfl⟩ := List.mem_map.mp (List.mem_of_getElem? hstage)
    exact trivial
  slots := by
    intro i p compiled _ hslot
    obtain ⟨q, -, hq⟩ := List.mem_map.mp (List.mem_of_getElem? hslot)
    cases hq
  fault := nofun
  canceled := nofun

namespace Sound

/-- A worker gets on, and what the others rely on stays. -/
theorem backs_of_move (h : job.Sound ws) {stage : WorkerStage}
    (hstages : ws'.stages = ws.stages.set i stage)
    (hslots : ∀ (j : ℕ) compiled, ws.slots[j]? = some (some compiled) →
      ∃ compiled, ws'.slots[j]? = some (some compiled))
    (hfault : ws.fault.isSome → ws'.fault.isSome) (hstage : job.Backs ws' i stage) :
    ∀ (j : ℕ) stage, ws'.stages[j]? = some stage → job.Backs ws' j stage := by
  intro j other hother
  rw [hstages, List.getElem?_set] at hother
  split at hother
  · next heq =>
    subst heq
    split at hother
    · exact Option.some.inj hother ▸ hstage
    · cases hother
  · have hbacked := h.backed j other hother
    cases other with
    | failed e => exact hbacked.imp id hfault
    | reported => exact hfault hbacked
    | finished => exact hbacked.imp hfault fun ⟨compiled, hslot⟩ ↦ hslots j compiled hslot
    | _ => exact trivial

/-- **A step keeps what holds of workers.** -/
theorem of_moves (h : job.Sound ws) (hmoves : job.Moves ws i ws') : job.Sound ws' := by
  have hsame : ∀ (j : ℕ) compiled, ws.slots[j]? = some (some compiled) →
      ∃ compiled, ws.slots[j]? = some (some compiled) := fun _ compiled hslot ↦ ⟨compiled, hslot⟩
  have hlength : ∀ stage, (ws.stages.set i stage).length = job.plans.length :=
    fun stage ↦ List.length_set.trans h.length_stages
  cases hmoves with
  | start here turn =>
    exact ⟨hlength _, h.length_slots, h.backs_of_move rfl hsame id trivial, h.slots, h.fault,
      h.canceled⟩
  | begin here free =>
    exact ⟨hlength _, h.length_slots, h.backs_of_move rfl hsame id trivial, h.slots, h.fault,
      h.canceled⟩
  | giveUp here canceled =>
    exact ⟨hlength _, h.length_slots, h.backs_of_move rfl hsame id (.inr (h.canceled canceled)),
      h.slots, h.fault, h.canceled⟩
  | draw here plan needs =>
    exact ⟨hlength _, h.length_slots, h.backs_of_move rfl hsame id trivial, h.slots, h.fault,
      h.canceled⟩
  | @store p _ compiled here plan compiles =>
    have hlt : i < ws.slots.length := by
      rw [h.length_slots, ← h.length_stages]
      exact (List.getElem?_eq_some_iff.mp here).1
    have hput : (ws.slots.set i (some compiled))[i]? = some (some compiled) := by
      rw [List.getElem?_set_self hlt]
    refine ⟨hlength _, List.length_set.trans h.length_slots,
      h.backs_of_move rfl (fun j old hold ↦ ?_) id (.inr ⟨compiled, hput⟩),
      fun j q new hq hnew ↦ ?_, h.fault, h.canceled⟩
    · by_cases heq : i = j
      · exact heq ▸ ⟨compiled, hput⟩
      · exact ⟨old, (List.getElem?_set_ne heq).trans hold⟩
    · by_cases heq : i = j
      · subst heq
        obtain rfl : p = q := Option.some.inj (plan.symm.trans hq)
        obtain rfl : compiled = new := Option.some.inj (Option.some.inj (hput.symm.trans hnew))
        exact compiles
      · exact h.slots j q new hq ((List.getElem?_set_ne heq).symm.trans hnew)
  | @fail p _ e here plan fails =>
    have hblames : job.Blames (.plan p e) := ⟨p, List.mem_of_getElem? plan, e, rfl, fails⟩
    exact ⟨hlength _, h.length_slots, h.backs_of_move rfl hsame id (.inl hblames), h.slots, h.fault,
      h.canceled⟩
  | @report e here first =>
    have hblames : job.Blames e := (h.backed i _ here).resolve_right (by simp [first])
    refine ⟨hlength _, h.length_slots, h.backs_of_move rfl hsame (fun _ ↦ rfl) rfl, h.slots, ?_,
      fun _ ↦ rfl⟩
    rintro _ ⟨⟩
    exact hblames
  | passOver here late =>
    exact ⟨hlength _, h.length_slots, h.backs_of_move rfl hsame id (.inl late), h.slots, h.fault,
      h.canceled⟩
  | cancel here =>
    have hfault : ws.fault.isSome := h.backed i _ here
    exact ⟨hlength _, h.length_slots, h.backs_of_move rfl hsame id (.inl hfault), h.slots, h.fault,
      fun _ ↦ hfault⟩

end Sound

/-- Whatever the schedule, it holds in the end. -/
theorem sound_of_run {schedule : List ℕ} (h : job.Sound ws)
    (hrun : job.run schedule ws = some ws') : job.Sound ws' := by
  induction schedule generalizing ws with
  | nil => exact Option.some.inj hrun ▸ h
  | cons i schedule ih =>
    obtain ⟨next, hstep, hrest⟩ := Option.bind_eq_some_iff.mp hrun
    exact ih (h.of_moves (moves_of_step hstep)) hrest

/-! ## Coming to an end -/

/-- How many steps a worker has left at most. -/
def remaining (job : CompileJob) (p : Plan) : WorkerStage → ℕ
  | .waiting => job.needs p + 5
  | .started => job.needs p + 4
  | .compiling drawn => job.needs p - drawn.length + 3
  | .failed _ => 2
  | .reported => 1
  | .finished => 0

/-- How many steps the workers have left at most. -/
def left (job : CompileJob) (ws : Workers) : ℕ :=
  (List.zipWith job.remaining job.plans ws.stages).sum

theorem sum_zipWith_set_lt {α β : Type} {f : α → β → ℕ} {as : List α} {bs : List β} {i : ℕ} {a : α}
    {b b' : β} (ha : as[i]? = some a) (hb : bs[i]? = some b) (hlt : f a b' < f a b) :
    (List.zipWith f as (bs.set i b')).sum < (List.zipWith f as bs).sum := by
  induction as generalizing bs i with
  | nil => simp at ha
  | cons x as ih =>
    cases bs with
    | nil => simp at hb
    | cons y bs =>
      cases i with
      | zero =>
        obtain rfl : x = a := by simpa using ha
        obtain rfl : y = b := by simpa using hb
        simpa using hlt
      | succ i => simpa using ih (by simpa using ha) (by simpa using hb)

/-- Every step is one step less. -/
theorem left_lt_of_moves (h : job.Sound ws) (hmoves : job.Moves ws i ws') :
    job.left ws' < job.left ws := by
  have hplan : ∀ {stage}, ws.stages[i]? = some stage → ∃ p, job.plans[i]? = some p := by
    intro stage here
    obtain ⟨hlt, -⟩ := List.getElem?_eq_some_iff.mp here
    exact ⟨_, List.getElem?_eq_getElem (h.length_stages ▸ hlt)⟩
  have hless : ∀ {stage stage' p}, ws.stages[i]? = some stage → job.plans[i]? = some p →
      job.remaining p stage' < job.remaining p stage →
      (List.zipWith job.remaining job.plans (ws.stages.set i stage')).sum < job.left ws :=
    fun here plan ↦ sum_zipWith_set_lt plan here
  cases hmoves with
  | start here turn | begin here free | giveUp here canceled | report here first
  | passOver here late | cancel here =>
    obtain ⟨p, plan⟩ := hplan here
    exact hless here plan (by simp only [remaining]; omega)
  | draw here plan needs =>
    refine hless here plan ?_
    simp only [remaining, List.length_append, List.length_singleton]
    omega
  | store here plan compiles => exact hless here plan (by simp only [remaining]; omega)
  | fail here plan fails => exact hless here plan (by simp only [remaining]; omega)

/-- So schedules are only so long. -/
theorem length_add_left_le_of_run {schedule : List ℕ} (h : job.Sound ws)
    (hrun : job.run schedule ws = some ws') :
    schedule.length + job.left ws' ≤ job.left ws := by
  induction schedule generalizing ws with
  | nil =>
    obtain rfl := Option.some.inj hrun
    exact (Nat.zero_add _).le
  | cons i schedule ih =>
    obtain ⟨next, hstep, hrest⟩ := Option.bind_eq_some_iff.mp hrun
    have hmoves := moves_of_step hstep
    have hless := left_lt_of_moves h hmoves
    have hmore := ih (h.of_moves hmoves) hrest
    rw [List.length_cons]
    omega

theorem left_workers (job : CompileJob) (k : ℕ) :
    job.left (job.workers k) = (job.plans.map fun p ↦ job.needs p + 5).sum := by
  rw [left, workers, List.zipWith_map_right, List.zipWith_self]
  rfl

/-- A worker that is at work can go on. -/
theorem exists_step_of_isBusy {stage : WorkerStage} (plan : job.plans[i]? = some p)
    (here : ws.stages[i]? = some stage) (hbusy : stage.isBusy) :
    ∃ ws', job.step ws i = some ws' := by
  rw [step, plan, here]
  cases stage with
  | waiting => cases hbusy
  | started => exact ⟨_, rfl⟩
  | compiling drawn =>
    cases hattempt : job.attempt? p drawn with
    | none => simp only [hattempt]; exact ⟨_, rfl⟩
    | some outcome => cases outcome <;> simp only [hattempt] <;> exact ⟨_, rfl⟩
  | failed e => cases ws.fault <;> exact ⟨_, rfl⟩
  | reported => exact ⟨_, rfl⟩
  | finished => cases hbusy

theorem exists_first {α : Type} {xs : List α} {f : α → Bool} (h : ∃ x ∈ xs, f x) :
    ∃ i x, xs[i]? = some x ∧ f x ∧ (xs.take i).all (!f ·) := by
  have hlt := List.findIdx_lt_length_of_exists h
  refine ⟨xs.findIdx f, _, List.getElem?_eq_getElem hlt, List.findIdx_getElem, ?_⟩
  refine List.all_eq_true.mpr fun x hx ↦ ?_
  obtain ⟨j, hj, rfl⟩ := List.mem_iff_getElem.mp hx
  rw [List.length_take, lt_min_iff] at hj
  rw [List.getElem_take]
  simpa using List.not_of_lt_findIdx hj.1

/-- **Workers never get stuck.** As long as one of them has not come to an end, one can go on. -/
theorem exists_step (hlimit : 0 < job.limit) (h : job.Sound ws) (hdone : ws.isDone = false) :
    ∃ i ws', job.step ws i = some ws' := by
  have hplan : ∀ i : ℕ, i < ws.stages.length → ∃ p, job.plans[i]? = some p := fun i hlt ↦
    ⟨_, List.getElem?_eq_getElem (h.length_stages ▸ hlt)⟩
  by_cases hbusy : ∃ stage ∈ ws.stages, stage.isBusy
  · obtain ⟨stage, hmem, hbusy⟩ := hbusy
    obtain ⟨i, here⟩ := List.mem_iff_getElem?.mp hmem
    obtain ⟨p, plan⟩ := hplan i (List.getElem?_eq_some_iff.mp here).1
    exact ⟨i, exists_step_of_isBusy plan here hbusy⟩
  · -- nobody is at work, so the first that waits may start
    have hidle : ws.stages.countP (·.isBusy) = 0 :=
      List.countP_eq_zero.mpr fun stage hmem hwork ↦ hbusy ⟨stage, hmem, hwork⟩
    have hwaits : ∃ stage ∈ ws.stages, stage.isWaiting := by
      obtain ⟨stage, hmem, hgoing⟩ := List.all_eq_false.mp hdone
      refine ⟨stage, hmem, ?_⟩
      cases stage with
      | waiting => rfl
      | finished => exact absurd rfl hgoing
      | _ => exact absurd ⟨_, hmem, rfl⟩ hbusy
    obtain ⟨i, stage, here, hwaiting, hbefore⟩ := exists_first hwaits
    obtain ⟨p, plan⟩ := hplan i (List.getElem?_eq_some_iff.mp here).1
    have hturn : ws.mayStart job.limit i := by
      rw [Workers.mayStart, hbefore, hidle]
      simpa using hlimit
    refine ⟨i, ws.move i .started, ?_⟩
    rw [step, plan, here]
    cases stage with
    | waiting => exact if_pos hturn
    | _ => cases hwaiting

/-! ## What is answered -/

/-- What is answered has been compiled by the worker of the plan. -/
theorem Sound.slots_of_isDone (h : job.Sound ws) (hdone : ws.isDone)
    {slots : List (Option CompiledPlan)} (houtcome : ws.outcome = .ok slots) :
    slots.length = job.plans.length ∧ ∀ (i : ℕ) p, job.plans[i]? = some p →
      ∃ compiled, slots[i]? = some (some compiled) ∧ job.CompilesTo p compiled := by
  rw [Workers.outcome] at houtcome
  split at houtcome
  · cases houtcome
  · next hfault =>
    obtain rfl := Except.ok.inj houtcome
    refine ⟨h.length_slots, fun i p plan ↦ ?_⟩
    obtain ⟨hlt, -⟩ := List.getElem?_eq_some_iff.mp plan
    have here : ∃ stage, ws.stages[i]? = some stage :=
      ⟨_, List.getElem?_eq_getElem (h.length_stages ▸ hlt)⟩
    obtain ⟨stage, here⟩ := here
    have hfinished := List.all_eq_true.mp hdone stage (List.mem_of_getElem? here)
    have hbacked := h.backed i stage here
    cases stage with
    | finished =>
      obtain ⟨compiled, hslot⟩ := hbacked.resolve_left (by simp [hfault])
      exact ⟨compiled, hslot, h.slots i p compiled plan hslot⟩
    | _ => cases hfinished

theorem Sound.blames_of_outcome (h : job.Sound ws) {e : WorkerFault}
    (houtcome : ws.outcome = .error e) : job.Blames e := by
  rw [Workers.outcome] at houtcome
  split at houtcome
  · next hfault => exact h.fault _ (Except.error.inj houtcome ▸ hfault)
  · cases houtcome

/-- **Compiling at the same time comes to the same as compiling one after the other.** Whatever the
schedule, it is only so long, and it goes on until all workers have come to an end. Then the plans
have been compiled exactly if each of them compiles on its own. If so, every slot has what its plan
compiles to, but for the names of temporary tables; otherwise what is told is the fault of a plan
that fails on its own. -/
theorem compiles_concurrently {k : ℕ} {schedule : List ℕ} (hlimit : 0 < job.limit)
    (hrun : job.run schedule (job.workers k) = some ws) :
    schedule.length ≤ (job.plans.map fun p ↦ job.needs p + 5).sum ∧
    (ws.isDone = false → ∃ i ws', job.step ws i = some ws') ∧
    (ws.isDone →
      ((∃ slots, ws.outcome = .ok slots) ↔ ∀ p ∈ job.plans,
        ∃ own, (p.compile job.compiler job.topology job.mode {}).1 = .ok own) ∧
      (∀ slots, ws.outcome = .ok slots → slots.length = job.plans.length ∧
        ∀ (i : ℕ) p, job.plans[i]? = some p →
          ∃ compiled, slots[i]? = some (some compiled) ∧ job.CompilesTo p compiled) ∧
      ∀ e, ws.outcome = .error e → ∃ p ∈ job.plans, ∃ fault, job.FailsWith p fault ∧
        e = .plan p fault ∧ e.message = aboutPlan p (Text.ofString fault.message)) := by
  have hstart := job.sound_workers k
  have hsound := sound_of_run hstart hrun
  refine ⟨?_, exists_step hlimit hsound, fun hdone ↦ ⟨⟨?_, fun hall ↦ ?_⟩, ?_, ?_⟩⟩
  · rw [← left_workers job k]
    exact (Nat.le_add_right _ _).trans (length_add_left_le_of_run hstart hrun)
  · rintro ⟨slots, houtcome⟩ p hp
    obtain ⟨i, plan⟩ := List.mem_iff_getElem?.mp hp
    obtain ⟨compiled, -, hcompiles⟩ := (hsound.slots_of_isDone hdone houtcome).2 i p plan
    obtain ⟨own, hown, -⟩ := hcompiles {}
    exact ⟨own, hown⟩
  · cases houtcome : ws.outcome with
    | ok slots => exact ⟨slots, rfl⟩
    | error e =>
      obtain ⟨p, hp, fault, -, hfails⟩ := hsound.blames_of_outcome houtcome
      obtain ⟨own, hown⟩ := hall p hp
      rw [hfails {}] at hown
      cases hown
  · exact fun slots houtcome ↦ hsound.slots_of_isDone hdone houtcome
  · intro e houtcome
    obtain ⟨p, hp, fault, rfl, hfails⟩ := hsound.blames_of_outcome houtcome
    exact ⟨p, hp, fault, hfails, rfl, rfl⟩

/-! ## One after the other -/

theorem forall₂_of_compileAll {ps : List Plan} {s s' : CompileState} {all : List CompiledPlan}
    (h : Plan.compileAll job.compiler job.topology job.mode ps s = (.ok all, s')) :
    Forall₂ (fun p own ↦ ∃ s, (p.compile job.compiler job.topology job.mode s).1 = .ok own)
      ps all := by
  induction ps generalizing s all with
  | nil =>
    obtain ⟨rfl, -⟩ : [] = all ∧ s = s' := by simpa [Plan.compileAll] using h
    exact .nil
  | cons p ps ih =>
    rw [Plan.compileAll] at h
    split at h
    · cases h
    · next own s₁ hp =>
      split at h
      · cases h
      · next rest s₂ hrest =>
        obtain rfl := Except.ok.inj (Prod.mk.inj h).1
        obtain rfl := (Prod.mk.inj h).2
        exact .cons ⟨s, congrArg Prod.fst hp⟩ (ih hrest)

theorem exists_of_compileAll {ps : List Plan} {s s' : CompileState} {p : Plan} {fault : PlanFault}
    (h : Plan.compileAll job.compiler job.topology job.mode ps s = (.error (p, fault), s')) :
    p ∈ ps ∧ ∃ s, (p.compile job.compiler job.topology job.mode s).1 = .error fault := by
  induction ps generalizing s with
  | nil => simp [Plan.compileAll] at h
  | cons q ps ih =>
    rw [Plan.compileAll] at h
    split at h
    · next e s₁ hq =>
      obtain ⟨rfl, rfl⟩ := Prod.mk.inj (Except.error.inj (Prod.mk.inj h).1)
      exact ⟨List.mem_cons_self, s, congrArg Prod.fst hq⟩
    · next own s₁ hq =>
      split at h
      · next e s₂ hrest =>
        obtain rfl := Except.error.inj (Prod.mk.inj h).1
        obtain rfl := (Prod.mk.inj h).2
        obtain ⟨hmem, hfails⟩ := ih hrest
        exact ⟨List.mem_cons_of_mem _ hmem, hfails⟩
      · cases h

/-- What compiles one after the other is answered by the workers, but for the names of temporary
tables. -/
theorem Sound.outcome_of_compileAll (h : job.Sound ws) (hdone : ws.isDone) {s s' : CompileState}
    {all : List CompiledPlan}
    (hall : Plan.compileAll job.compiler job.topology job.mode job.plans s = (.ok all, s')) :
    ∃ slots, ws.outcome = .ok slots ∧ Forall₂
      (fun own slot ↦ ∃ compiled, slot = some compiled ∧ own.Renamed compiled) all slots := by
  have hown := forall₂_of_compileAll hall
  cases houtcome : ws.outcome with
  | error e =>
    obtain ⟨p, hp, fault, -, hfails⟩ := h.blames_of_outcome houtcome
    obtain ⟨own, -, s, hs⟩ := exists_of_mem_forall₂ hown hp
    rw [hfails s] at hs
    cases hs
  | ok slots =>
    obtain ⟨hlength, hslots⟩ := h.slots_of_isDone hdone houtcome
    refine ⟨slots, rfl, List.forall₂_iff_get.mpr ⟨hown.length_eq.symm.trans hlength.symm, ?_⟩⟩
    intro i hi hi'
    have hplan : i < job.plans.length := hlength ▸ hi'
    obtain ⟨s, hs⟩ := (List.forall₂_iff_get.mp hown).2 i hplan hi
    obtain ⟨compiled, hslot, hcompiles⟩ := hslots i _ (List.getElem?_eq_getElem hplan)
    obtain ⟨own, hown, hrenamed⟩ := hcompiles s
    obtain rfl := Except.ok.inj (hs.symm.trans hown)
    exact ⟨compiled, Option.some.inj ((List.getElem?_eq_getElem hi').symm.trans hslot), hrenamed⟩

/-- What does not compile one after the other fails, perhaps over another plan. -/
theorem Sound.outcome_of_compileAll_eq_error (h : job.Sound ws) (hdone : ws.isDone)
    {s s' : CompileState} {fault : Plan × PlanFault}
    (hall : Plan.compileAll job.compiler job.topology job.mode job.plans s = (.error fault, s')) :
    ∃ e, ws.outcome = .error e := by
  obtain ⟨hp, s, hs⟩ := exists_of_compileAll hall
  cases houtcome : ws.outcome with
  | error e => exact ⟨e, rfl⟩
  | ok slots =>
    obtain ⟨i, plan⟩ := List.mem_iff_getElem?.mp hp
    obtain ⟨compiled, -, hcompiles⟩ := (h.slots_of_isDone hdone houtcome).2 i _ plan
    obtain ⟨own, hown, -⟩ := hcompiles s
    rw [hs] at hown
    cases hown

/-! ### Two plans, and a third that cannot be built -/

/-- Two plans that name a temporary table each. -/
def twoPlans : CompileJob where
  compiler := { dialect := ⟨.postgres, "s", 1, true⟩ }
  topology := arrowGraph
  mode := none
  plans := [{ roots := [largeIdentity] }, { roots := [largeIdentity] }]
  limit := 2

/-- Three plans, of which the second has a table that there is not. -/
def threePlans : CompileJob :=
  { twoPlans with
    plans := [{ roots := [largeIdentity] }, { roots := [{ table := "V_z" }] },
      { roots := [largeIdentity] }] }

/-- The two draw their numbers in turn, and the second of the three fails while the first is at work
and the third has not been started. -/
theorem compiles_concurrently_threePlans :
    (∃ ws, twoPlans.run [0, 1, 0, 1, 0, 1, 1, 0] (twoPlans.workers 7) = some ws ∧ ws.isDone ∧
      ∃ slots, ws.outcome = .ok slots) ∧
    ∃ ws, threePlans.run [0, 1, 0, 1, 1, 0, 1, 1, 2, 2, 2, 0] (threePlans.workers 7) = some ws ∧
      ws.isDone ∧ ∃ p ∈ threePlans.plans, ∃ fault, ws.outcome = .error (.plan p fault) ∧
        threePlans.FailsWith p fault := by
  have htwo : (twoPlans.run [0, 1, 0, 1, 0, 1, 1, 0] (twoPlans.workers 7)).map
      (fun ws ↦ (ws.isDone, ws.fault.isSome)) = some (true, false) := by decide +kernel
  have hthree : (threePlans.run [0, 1, 0, 1, 1, 0, 1, 1, 2, 2, 2, 0] (threePlans.workers 7)).map
      (fun ws ↦ (ws.isDone, ws.fault.isSome)) = some (true, true) := by decide +kernel
  obtain ⟨two, hrun, htwo⟩ := Option.map_eq_some_iff.mp htwo
  obtain ⟨three, hrun', hthree⟩ := Option.map_eq_some_iff.mp hthree
  obtain ⟨hdone, hfine⟩ := Prod.mk.inj htwo
  obtain ⟨hdone', hfault⟩ := Prod.mk.inj hthree
  refine ⟨⟨two, hrun, hdone, two.slots, ?_⟩, three, hrun', hdone', ?_⟩
  · rw [Workers.outcome, Option.isSome_eq_false_iff.mp hfine |> Option.isNone_iff_eq_none.mp]
  · obtain ⟨e, he⟩ := Option.isSome_iff_exists.mp hfault
    have houtcome : three.outcome = .error e := by rw [Workers.outcome, he]
    obtain ⟨-, -, hend⟩ := compiles_concurrently (by decide) hrun'
    obtain ⟨p, hp, fault, hfails, rfl, -⟩ := (hend hdone').2.2 e houtcome
    exact ⟨p, hp, fault, houtcome, hfails⟩

end CompileJob

end PathQuery.Command
