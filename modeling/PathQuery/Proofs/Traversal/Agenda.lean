import PathQuery.Traversal.Next

/-!
# What is still to be done

A traversal keeps a stage, the number of trees it has taken in it, and a queue with the statements
of the last of them. Together they stand for a list of *tasks*, the agenda: the statements that are
still to be run, in order, with a mark wherever a stage is left and the aliases are forgotten.

Going on to the next tree is a loop, whose rounds leave the stage or take a tree. What every round
keeps is kept by the loop (`turn_induction`). A round that takes a tree leaves the agenda as it is,
and one that leaves the stage takes its mark off.
-/

namespace PathQuery

/-! ## Tasks -/

/-- A step of the agenda. -/
inductive Task where
  /-- Run the statement of a path. -/
  | run (tree : Tree) (mode : Mode) (path : OptionalPath)
  /-- Leave a mode for the next, or for none. -/
  | leave (next : Option Mode)

/-- The task that a job stands for. -/
def Job.task (job : Job) : Task := .run job.tree job.mode job.path

/-- The statements of a tree in a mode. -/
def Tree.tasks (t : Tree) (mode : Mode) : List Task := (t.jobs mode).map Job.task

theorem Tree.tasks_of_modePaths {t : Tree} {mode : Mode} {paths : List OptionalPath}
    (h : CompileM.modePaths t mode = .ok paths) : t.tasks mode = paths.map (.run t mode) := by
  rw [tasks, jobs, h, List.map_map]
  rfl

/-- The statements of trees in a mode, and the end of the mode. -/
def modeTasks (trees : List Tree) (mode : Mode) (next : Option Mode) : List Task :=
  trees.flatMap (·.tasks mode) ++ [.leave next]

/-- Everything there is to be done from a stage on, where only some of the trees are left in the
stage itself. -/
def agendaFrom (trees rest : List Tree) : Stage → List Task
  | .regular => modeTasks rest .regular (some .optional) ++
      (modeTasks trees .optional (some .emit) ++ modeTasks trees .emit none)
  | .optional => modeTasks rest .optional (some .emit) ++ modeTasks trees .emit none
  | .emit => modeTasks rest .emit none
  | .done => []

/-- Everything there is to be done for trees. -/
def agendaOf (trees : List Tree) : List Task := agendaFrom trees trees .regular

theorem agendaFrom_nil (trees : List Tree) {stage : Stage} {mode : Mode}
    (hmode : stage.mode? = some mode) : agendaFrom trees [] stage =
      .leave stage.next.mode? :: agendaFrom trees trees stage.next := by
  cases stage with
  | done => cases hmode
  | _ => rfl

theorem agendaFrom_cons (trees rest : List Tree) {tree : Tree} {stage : Stage} {mode : Mode}
    (hmode : stage.mode? = some mode) : agendaFrom trees (tree :: rest) stage =
      tree.tasks mode ++ agendaFrom trees rest stage := by
  cases stage with
  | done => cases hmode
  | _ =>
    obtain rfl := Option.some.inj hmode
    simp only [agendaFrom, modeTasks, List.flatMap_cons, List.append_assoc]

namespace Traversal

variable {t u : Traversal} {mode : Mode} {tree : Tree}

/-- What a traversal still has to do. -/
def agenda (t : Traversal) : List Task :=
  t.queue.map Job.task ++ agendaFrom t.trees (t.trees.drop t.root) t.stage

theorem agenda_of_queue {job : Job} {rest : List Job} (hqueue : t.queue = job :: rest) :
    t.agenda = job.task :: { t with queue := rest }.agenda := by
  rw [agenda, hqueue]
  rfl

theorem agenda_of_done (hqueue : t.queue = []) (hstage : t.stage = .done) : t.agenda = [] := by
  rw [agenda, hqueue, hstage]
  rfl

/-! ## Rounds -/

/-- What rounds keep, going on to the next tree keeps. The queue is empty before every round. -/
theorem turn_induction {P : Traversal → Prop}
    (hleave : ∀ {t mode}, t.stage.mode? = some mode → t.trees[t.root]? = none → t.queue = [] →
      P t → P t.leaveStage)
    (htake : ∀ {t mode tree}, t.stage.mode? = some mode → t.trees[t.root]? = some tree →
      t.queue = [] → P t → P (t.takeTree tree mode))
    (hqueue : t.queue = []) (h : P t) : P t.turn.2 := by
  fun_induction turn t with
  | case1 t hmode => exact h
  | case2 t mode hmode htree ih => exact ih hqueue (hleave hmode htree hqueue h)
  | case3 t mode hmode tree htree hempty ih =>
    exact ih (List.isEmpty_iff.mp hempty) (htake hmode htree hqueue h)
  | case4 t mode hmode tree htree hjobs => exact htake hmode htree hqueue h

/-- Going on to the next tree changes nothing but the place among the trees, the queue, the aliases
and the notices. -/
theorem exists_turn (hqueue : t.queue = []) : ∃ stage root queue registry notices, t.turn.2 =
    { t with stage, root, queue, session := { t.session with
      compiling := { t.session.compiling with registry }, notices } } := by
  refine turn_induction (P := fun u ↦ ∃ stage root queue registry notices, u = { t with
    stage, root, queue, session := { t.session with
      compiling := { t.session.compiling with registry }, notices } }) ?_ ?_ hqueue
    ⟨_, _, _, _, _, rfl⟩
  · rintro _ mode - - - ⟨stage, root, queue, registry, notices, rfl⟩
    exact ⟨_, _, _, _, _, rfl⟩
  · rintro _ mode tree - - - ⟨stage, root, queue, registry, notices, rfl⟩
    exact ⟨_, _, _, _, _, rfl⟩

theorem channel_turn (hqueue : t.queue = []) : t.turn.2.channel = t.channel := by
  obtain ⟨stage, root, queue, registry, notices, hsame⟩ := exists_turn hqueue
  rw [hsame]
  rfl

/-- Where the loop finds no statement it has come to the end of the last stage. -/
theorem done_of_turn (hqueue : t.queue = []) (hturn : t.turn.1 = false) :
    t.turn.2.queue = [] ∧ t.turn.2.stage = .done := by
  fun_induction turn t with
  | case1 t hmode =>
    refine ⟨hqueue, ?_⟩
    cases hstage : t.stage with
    | done => rfl
    | _ =>
      rw [hstage] at hmode
      cases hmode
  | case2 t mode hmode htree ih => exact ih hqueue hturn
  | case3 t mode hmode tree htree hempty ih => exact ih (List.isEmpty_iff.mp hempty) hturn
  | case4 t mode hmode tree htree hjobs => cases hturn

/-- Leaving a stage without trees takes its mark off the agenda. -/
theorem agenda_leaveStage (hmode : t.stage.mode? = some mode) (htree : t.trees[t.root]? = none)
    (hqueue : t.queue = []) :
    t.agenda = .leave t.stage.next.mode? :: t.leaveStage.agenda := by
  have hrest : t.trees.drop t.root = [] :=
    List.drop_eq_nil_of_le (List.getElem?_eq_none_iff.mp htree)
  have hleft : t.leaveStage.agenda =
      t.queue.map Job.task ++ agendaFrom t.trees t.trees t.stage.next := rfl
  rw [hleft, agenda, hqueue, hrest]
  exact agendaFrom_nil t.trees hmode

/-- Taking a tree puts its statements into the queue, where they are as well. -/
theorem agenda_takeTree (hmode : t.stage.mode? = some mode) (htree : t.trees[t.root]? = some tree)
    (hqueue : t.queue = []) : (t.takeTree tree mode).agenda = t.agenda := by
  have hrest : t.trees.drop t.root = tree :: t.trees.drop (t.root + 1) := by
    obtain ⟨hroot, htree⟩ := List.getElem?_eq_some_iff.mp htree
    rw [← List.getElem_cons_drop hroot, htree]
  have htaken : (t.takeTree tree mode).agenda =
      tree.tasks mode ++ agendaFrom t.trees (t.trees.drop (t.root + 1)) t.stage := rfl
  rw [htaken, agenda, hqueue, hrest, agendaFrom_cons t.trees _ hmode]
  rfl

/-- Going on to the next tree puts nothing on the agenda. -/
theorem agenda_turn_subset (hqueue : t.queue = []) : t.turn.2.agenda ⊆ t.agenda := by
  refine turn_induction (P := fun u ↦ u.agenda ⊆ t.agenda) ?_ ?_ hqueue (List.Subset.refl _)
  · intro u mode hmode htree hqueue hsub
    rw [agenda_leaveStage hmode htree hqueue] at hsub
    exact List.Subset.trans (List.subset_cons_self _ _) hsub
  · intro u mode tree hmode htree hqueue hsub
    rwa [agenda_takeTree hmode htree hqueue]

end Traversal

end PathQuery
