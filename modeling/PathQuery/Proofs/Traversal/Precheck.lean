import PathQuery.Proofs.Compile.Renumbering
import PathQuery.Proofs.Traversal.Sweep

/-!
# Nothing runs unless everything compiles

Before a traversal connects, it compiles every statement of its trees, each tree on an empty
registry, and forgets what came out. When it runs, it compiles the same statements again, one at a
time, on a registry that has grown in between. The check is worth something because a fault belongs
to the tree: whether there is one, and which, does not depend on the state of the compiler.

So if some tree has a fault, the traversal answers with the first one and never makes a call. If
none has, no task of its agenda can fail to compile, and whatever it fails with has another cause:
a call that the database has refused, something it has answered that cannot be decoded, or the
traversal having been canceled or closed. The second part is shown by an invariant of all requests,
which is that a failure comes with its cause. The cause is told by the calls made so far and by what
has been asked, and both only grow, so it is enough to look at the step that fails.
-/

namespace PathQuery

/-! ## The fault of a tree -/

namespace Compiler

variable {c : Compiler} {t : Tree} {fault : QueryError}

/-- Why a tree is invalid or not all of its statements compile, if this is so. -/
def fault? (c : Compiler) (t : Tree) : Option QueryError :=
  match ((CompileM.allStatements c t).runOn {}).1 with
  | .ok _ => none
  | .error fault => some fault

/-- The fault is the same from every state. -/
theorem fault?_eq_some_iff (s : CompileState) : c.fault? t = some fault ↔
    ((CompileM.allStatements c t).runOn s).1 = .error fault := by
  rw [CompileM.error_allStatements_iff c t {} s, fault?]
  cases ((CompileM.allStatements c t).runOn {}).1 <;> simp

theorem fault?_eq_none_iff : c.fault? t = none ↔ (CompileM.allStatements c t).Total := by
  constructor
  · intro hnone s
    cases hanswer : ((CompileM.allStatements c t).runOn s).1 with
    | ok sts => exact ⟨sts, ((CompileM.allStatements c t).runOn s).2, Prod.ext hanswer rfl⟩
    | error fault =>
      rw [← fault?_eq_some_iff, hnone] at hanswer
      cases hanswer
  · intro htotal
    obtain ⟨sts, s, hsts⟩ := htotal {}
    rw [fault?, hsts]

/-- A tree has no fault when it is valid and each of its statements compiles. -/
theorem fault?_eq_none_iff_forall : c.fault? t = none ↔ t.validate = .ok () ∧
    ∀ mode ∈ Mode.known, ∀ paths, CompileM.modePaths t mode = .ok paths → ∀ p ∈ paths,
      ∃ st s, (CompileM.statement c t mode p.path p.branches).Yields {} st s := by
  rw [fault?_eq_none_iff]
  constructor
  · intro htotal
    obtain ⟨sts, s, hsts⟩ := htotal {}
    obtain ⟨_, hvalid, hmodes⟩ := CompileM.yields_lift_bind_iff.mp hsts
    obtain ⟨parts, _, hparts, -⟩ := CompileM.yields_bind_iff.mp hmodes
    refine ⟨hvalid, fun mode hmode paths hpaths p hp ↦ ?_⟩
    obtain ⟨_, _, _, hmodeStatements⟩ := CompileM.exists_yields_of_mem hparts hmode
    obtain ⟨paths', hpaths', hall⟩ := CompileM.yields_modeStatements_iff.mp hmodeStatements
    obtain rfl := Except.ok.inj (hpaths.symm.trans hpaths')
    obtain ⟨_, _, _, hst⟩ := CompileM.exists_yields_of_mem hall hp
    exact (CompileM.follows_statement c t mode p).total hst {}
  -- a statement compiles from every state once it does from one, so the states along the way to it
  -- do not matter
  · rintro ⟨hvalid, hstatements⟩ s
    have hmodes : (Mode.known.mapM (CompileM.modeStatements c t)).Total := by
      refine .mapM fun mode hmode s ↦ ?_
      obtain ⟨paths, hpaths⟩ : ∃ paths, CompileM.modePaths t mode = .ok paths := by
        cases mode with
        | other code => simp [Mode.known] at hmode
        | _ => exact ⟨_, rfl⟩
      have hpathStatements : (paths.mapM fun p ↦
          CompileM.statement c t mode p.path p.branches).Total := by
        refine .mapM fun p hp ↦ ?_
        obtain ⟨st, s', hst⟩ := hstatements mode hmode paths hpaths p hp
        exact (CompileM.follows_statement c t mode p).total hst
      obtain ⟨sts, s', hsts⟩ := hpathStatements s
      exact ⟨sts, s', CompileM.yields_modeStatements_iff.mpr ⟨paths, hpaths, hsts⟩⟩
    obtain ⟨parts, s', hparts⟩ := hmodes s
    refine ⟨parts.flatten, s', CompileM.yields_lift_bind_iff.mpr ⟨_, hvalid, ?_⟩⟩
    exact CompileM.yields_bind_iff.mpr ⟨parts, s', hparts, CompileM.yields_pure_iff.mpr ⟨rfl, rfl⟩⟩

end Compiler

namespace Traversal

variable {c : Compiler} {t₀ t u v : Traversal} {trees pre post : List Tree} {tree : Tree}
  {fault : QueryError}

/-! ## A fault bars the traversal -/

theorem exists_check_of_fault (h : c.fault? tree = some fault) (s : Session) :
    ∃ s₁, SessionM.check c tree s = (.error fault, s₁) ∧ s₁.database = s.database := by
  -- the check runs on an empty registry, but goes on counting temporary tables
  set state : CompileState := { s.compiling with registry := {}, journal := #[] }
  have hfails := (Compiler.fault?_eq_some_iff state).mp h
  refine ⟨_, Prod.ext_iff.mpr ⟨?_, rfl⟩, rfl⟩
  exact congrArg (Except.map fun _ ↦ ()) hfails

/-- Checking trees reports the first fault with the place of its tree. -/
theorem exists_checkAll_of_fault (hpre : ∀ tree ∈ pre, c.fault? tree = none)
    (h : c.fault? tree = some fault) (i : ℕ) (s : Session) :
    ∃ s₁, SessionM.checkAll c i (pre ++ tree :: post) s =
      (some (.invalidTree (i + pre.length) fault), s₁) ∧ s₁.database = s.database := by
  induction pre generalizing i s with
  | nil =>
    obtain ⟨s₁, hcheck, hdatabase⟩ := exists_check_of_fault h s
    rw [List.nil_append, checkAll_cons, hcheck]
    exact ⟨s₁, rfl, hdatabase⟩
  | cons first pre ih =>
    rw [List.forall_mem_cons, Compiler.fault?_eq_none_iff] at hpre
    obtain ⟨s₁, hcheck, hdatabase, -⟩ := exists_check hpre.1 s
    obtain ⟨s₂, hrest, hdatabase'⟩ := ih hpre.2 (i + 1) s₁
    rw [List.cons_append, checkAll_cons, hcheck]
    have hplace : i + (first :: pre).length = i + 1 + pre.length := by
      rw [List.length_cons]
      omega
    rw [hplace]
    exact ⟨s₂, hrest, hdatabase'.trans hdatabase⟩

/-- A traversal that has not started and has the trees it was made for. -/
structure Waiting (t₀ t : Traversal) : Prop extends Unstarted t₀ t where
  trees : t.trees = t₀.trees

theorem waiting_ofTrees (c : Compiler) (trees : List Tree) (batch : ℤ) (session : Session) :
    Waiting (ofTrees c trees batch session) (ofTrees c trees batch session) :=
  ⟨⟨rfl, rfl, rfl, rfl, rfl, rfl, rfl, rfl⟩, rfl⟩

theorem Waiting.cancel (h : Waiting t₀ t) : Waiting t₀ t.cancel := by
  rw [Traversal.cancel, if_neg (by simp [h.holdings])]
  exact ⟨⟨h.started, h.closed, h.failure, h.compiler, h.session, h.holdings, h.stream,
    h.connection⟩, h.trees⟩

theorem Waiting.cancelAll (h : Waiting t₀ t) (n : ℕ) :
    Waiting t₀ (t.handleAll (List.replicate n .cancel)) := by
  induction n generalizing t with
  | zero => exact h
  | succ n ih => exact ih h.cancel

theorem Unstarted.nextBy_of_error (h : Unstarted t₀ t) {e : TraversalError}
    {move : Traversal → Option Result × Traversal} (hstart : t.start = (.error e, u)) :
    t.nextBy move = (none, u.fail e) := by
  rw [nextBy, if_neg (by simp [h.closed, h.failure]), if_neg (by simp [h.started]), hstart]

section Barred

variable (htrees : t₀.trees = pre ++ tree :: post)
  (hpre : ∀ tree ∈ pre, t₀.compiler.fault? tree = none)
  (hfault : t₀.compiler.fault? tree = some fault)
include htrees hpre hfault

/-- A traversal with a fault does not start. -/
theorem Waiting.exists_start (h : Waiting t₀ t) :
    ∃ u, t.start = (.error (.invalidTree pre.length fault), u) ∧ u.holdings = {} ∧
      u.connection = none ∧ u.session.calls = t₀.session.calls := by
  obtain ⟨s₁, hcheck, hdatabase⟩ := exists_checkAll_of_fault hpre hfault 0 t.session
  rw [← htrees, ← h.trees, ← h.compiler, Nat.zero_add] at hcheck
  refine ⟨{ t with started := true, session := s₁ }, ?_, h.holdings, h.connection, ?_⟩
  · rw [start_eq, hcheck]
  · rw [← h.session, Session.calls, Session.calls, hdatabase]

/-- It answers with the first fault and has come to its end. -/
theorem Waiting.nextBy (h : Waiting t₀ t) (move : Traversal → Option Result × Traversal) :
    (t.nextBy move).1 = none ∧
      (t.nextBy move).2.failure = some (.invalidTree pre.length fault) ∧
      Rested t₀ (t.nextBy move).2 ∧ (t.nextBy move).2.session.calls = t₀.session.calls := by
  obtain ⟨u, hstart, hheld, hconnection, hcalls⟩ := h.exists_start htrees hpre hfault
  obtain ⟨htracked, -⟩ := h.start hstart
  rw [h.nextBy_of_error hstart]
  -- nothing is held, so reporting the failure makes no call either
  exact ⟨rfl, rfl, htracked.rested_fail _, (calls_fail hheld hconnection _).trans hcalls⟩

/-- A traversal with a fault makes no call, whatever is asked of it. -/
theorem Waiting.calls_handleAll (h : Waiting t₀ t) (requests : List Request) :
    (t.handleAll requests).session.calls = t₀.session.calls := by
  induction requests generalizing t with
  | nil => exact congrArg Session.calls h.session
  | cons request requests ih =>
    -- after any request but a cancellation the traversal is at its end
    have hend : ∀ {u : Traversal}, Rested t₀ u → u.session.calls = t₀.session.calls →
        (u.handleAll requests).session.calls = t₀.session.calls :=
      fun hrested hcalls ↦ (hrested.calls_handleAll requests).trans hcalls
    cases request with
    | next =>
      obtain ⟨-, -, hrested, hcalls⟩ := h.nextBy htrees hpre hfault advance
      exact hend hrested hcalls
    | nextInterrupted k =>
      obtain ⟨-, -, hrested, hcalls⟩ := h.nextBy htrees hpre hfault (advanceInterrupted k)
      exact hend hrested hcalls
    | cancel => exact ih h.cancel
    | close =>
      have hreached : Reached t₀ t := .inl h.toUnstarted
      have hcalls : t.close.2.session.calls = t₀.session.calls := by
        rw [calls_close h.holdings h.connection, h.session]
      exact hend hreached.rested_close hcalls

end Barred

/-! ## Going on -/

/-- `u` goes on from `t`: its calls come after those of `t`, and nothing asked is taken back. -/
structure GoesOn (t u : Traversal) : Prop where
  compiler : u.compiler = t.compiler
  trees : u.trees = t.trees
  agenda : u.agenda ⊆ t.agenda
  calls : ∃ rs, u.session.calls = t.session.calls ++ rs
  canceled : t.canceled → u.canceled
  closed : t.closed → u.closed

theorem GoesOn.refl (t : Traversal) : GoesOn t t where
  compiler := rfl
  trees := rfl
  agenda := List.Subset.refl _
  calls := ⟨[], (List.append_nil _).symm⟩
  canceled := id
  closed := id

theorem GoesOn.trans (h : GoesOn t u) (h' : GoesOn u v) : GoesOn t v where
  compiler := h'.compiler.trans h.compiler
  trees := h'.trees.trans h.trees
  agenda := List.Subset.trans h'.agenda h.agenda
  calls := by
    obtain ⟨rs, hrs⟩ := h.calls
    obtain ⟨rs', hrs'⟩ := h'.calls
    exact ⟨rs ++ rs', by rw [hrs', hrs, List.append_assoc]⟩
  canceled := h'.canceled ∘ h.canceled
  closed := h'.closed ∘ h.closed

/-- What a failure comes from: the database has refused a call, what it has answered cannot be
decoded, or the traversal has been canceled or closed. -/
inductive Cause (d : Dialect) (rs : List CallRecord) (canceled closed : Bool) :
    TraversalError → Prop
  | noConnection {words : String} (h : Refused rs words) :
      Cause d rs canceled closed (.noConnection words)
  | database {words : String} (h : Refused rs words) : Cause d rs canceled closed (.database words)
  | execution (mode : Mode) (fingerprint : String) {e : ExecutionError} (h : e.Cause d rs) :
      Cause d rs canceled closed (.execution mode fingerprint e)
  | row {reader : RowReader} {row : List Value} {e : RowError} (h : reader.read row = .error e) :
      Cause d rs canceled closed (.row e)
  | canceledStart (h : canceled) : Cause d rs canceled closed .canceledStart
  | canceled (h : canceled) : Cause d rs canceled closed .canceled
  | closed (h : closed) : Cause d rs canceled closed .closed

/-- None of these is a fault of a tree. -/
theorem Cause.queryError? {d : Dialect} {rs : List CallRecord} {canceled closed : Bool}
    {e : TraversalError} (h : Cause d rs canceled closed e) : e.queryError? = none := by
  cases h <;> rfl

theorem Cause.mono {d : Dialect} {rs rs' : List CallRecord}
    {canceled closed canceled' closed' : Bool} {e : TraversalError}
    (h : Cause d rs canceled closed e) (hsub : rs ⊆ rs') (hcanceled : canceled → canceled')
    (hclosed : closed → closed') : Cause d rs' canceled' closed' e := by
  have hrefused : ∀ {words}, Refused rs words → Refused rs' words := by
    rintro words ⟨r, hr, hwords⟩
    exact ⟨r, hsub hr, hwords⟩
  cases h with
  | noConnection h => exact .noConnection (hrefused h)
  | database h => exact .database (hrefused h)
  | execution mode fingerprint h => exact .execution mode fingerprint (h.mono hsub)
  | row h => exact .row h
  | canceledStart h => exact .canceledStart (hcanceled h)
  | canceled h => exact .canceled (hcanceled h)
  | closed h => exact .closed (hclosed h)

/-- On the way from `t` to `u` there is a cause for an error. -/
def Explained (t u : Traversal) (e : TraversalError) : Prop :=
  ∃ rs, u.session.calls = t.session.calls ++ rs ∧
    Cause t.compiler.dialect rs u.canceled u.closed e

variable {e : TraversalError}

theorem Explained.queryError? (h : Explained t u e) : e.queryError? = none := by
  obtain ⟨rs, -, hcause⟩ := h
  exact hcause.queryError?

theorem GoesOn.explained (h : GoesOn t u) (he : Explained u v e) : Explained t v e := by
  obtain ⟨rs, hrs⟩ := h.calls
  obtain ⟨rs', hrs', hcause⟩ := he
  rw [h.compiler] at hcause
  refine ⟨rs ++ rs', by rw [hrs', hrs, List.append_assoc], ?_⟩
  exact hcause.mono (List.subset_append_right _ _) id id

theorem Explained.goesOn (he : Explained t u e) (h : GoesOn u v) : Explained t v e := by
  obtain ⟨rs, hrs, hcause⟩ := he
  obtain ⟨rs', hrs'⟩ := h.calls
  refine ⟨rs ++ rs', by rw [hrs', hrs, List.append_assoc], ?_⟩
  exact hcause.mono (List.subset_append_left _ _) h.canceled h.closed

/-! ## What goes on, and why it fails -/

/-- A notice is no call. -/
theorem goesOn_notify (t : Traversal) (n : Notice) :
    GoesOn t (t.perform (SessionM.notify n)).2 :=
  ⟨rfl, rfl, List.Subset.refl _, (GoesOn.refl t).calls, id, id⟩

/-- Giving up a statement fails only if a call does. -/
theorem goesOn_closeStatement (t : Traversal) : GoesOn t t.closeStatement.2 ∧
    ∀ words, t.closeStatement.1 = some words →
      Explained t t.closeStatement.2 (.database words) := by
  obtain ⟨rs, hextends, closed, dropped, rfl, -, -, hrefused⟩ :=
    t.holdings.emits_release t.compiler.dialect t.channel t.session
  have hcalls : t.closeStatement.2.session.calls = t.session.calls ++ (closed ++ dropped) :=
    hextends.calls
  constructor
  · exact ⟨rfl, rfl, List.Subset.refl _, ⟨_, hcalls⟩, id, id⟩
  · intro words hwords
    exact ⟨_, hcalls, .database (hrefused words hwords)⟩

theorem goesOn_release (t : Traversal) : GoesOn t t.release := by
  obtain ⟨rs, hcalls, -, -⟩ := SessionM.exists_giveBack t.channel t.session
  exact ⟨rfl, rfl, List.Subset.refl _, ⟨rs, hcalls⟩, id, id⟩

theorem goesOn_fail (t : Traversal) (e : TraversalError) : GoesOn t (t.fail e) := by
  obtain ⟨rs, hextends, -⟩ :=
    t.holdings.emits_release t.compiler.dialect t.channel t.session
  obtain ⟨rs', hgiven, -, -⟩ := SessionM.exists_giveBack t.channel
    (t.holdings.release t.compiler.dialect t.channel t.session).2
  refine ⟨rfl, rfl, List.nil_subset _, ⟨rs ++ rs', ?_⟩, id, id⟩
  rw [(alike_fail t e).calls, hgiven, hextends.calls, List.append_assoc]

theorem goesOn_close (t : Traversal) : GoesOn t t.close.2 := by
  rw [close]
  split
  · exact .refl t
  · have hgoes := (goesOn_closeStatement t).1.trans (goesOn_release t.closeStatement.2)
    exact ⟨rfl, rfl, List.nil_subset _, hgoes.calls, id, fun _ ↦ rfl⟩

theorem goesOn_cancel (t : Traversal) : GoesOn t t.cancel := by
  rw [cancel]
  split
  · have hclosing : (SessionM.call t.channel .closeRows).Emits t.channel _ := .call rfl
    obtain ⟨rs, hextends, -⟩ := hclosing t.session
    exact ⟨rfl, rfl, List.Subset.refl _, ⟨rs, hextends.calls⟩, fun _ ↦ rfl, id⟩
  · exact ⟨rfl, rfl, List.Subset.refl _, (GoesOn.refl t).calls, fun _ ↦ rfl, id⟩

/-- A batch of rows fails because a call is refused or a row cannot be read. -/
theorem BatchRead.goesOn {stream : RowStream} {ended : BatchEnd}
    {outcome : Except TraversalError Unit} {rs : List CallRecord}
    (h : BatchRead u stream ended outcome v) (hu : GoesOn t u)
    (hcalls : u.session.calls = t.session.calls ++ rs) (hcaused : ended.Caused stream.reader rs) :
    GoesOn t v ∧ v.failure = u.failure ∧ ∀ e, outcome = .error e → Explained t v e := by
  cases h with
  | full pending => exact ⟨⟨hu.compiler, hu.trees, hu.agenda, hu.calls, hu.canceled, hu.closed⟩,
      rfl, by simp⟩
  | exhausted hdone =>
    obtain ⟨hclose, -⟩ := goesOn_closeStatement u
    obtain ⟨-, rfl⟩ := Prod.mk.inj hdone
    exact ⟨hu.trans hclose, rfl, by simp⟩
  | unclosed hfailed =>
    obtain ⟨hclose, hwords⟩ := goesOn_closeStatement u
    obtain ⟨hnow, rfl⟩ := Prod.mk.inj hfailed
    refine ⟨hu.trans hclose, rfl, ?_⟩
    rintro _ ⟨⟩
    exact hu.explained (hwords _ hnow)
  | fetch words =>
    refine ⟨hu, rfl, ?_⟩
    rintro _ ⟨⟩
    exact ⟨rs, hcalls, .database hcaused⟩
  | unreadable e =>
    refine ⟨hu, rfl, ?_⟩
    rintro _ ⟨⟩
    obtain ⟨row, hrow⟩ := hcaused
    exact ⟨rs, hcalls, .row hrow⟩

theorem goesOn_fill {stream : RowStream} {outcome : Except TraversalError Unit}
    (hfill : t.fill stream = (outcome, u)) : GoesOn t u ∧ u.failure = t.failure ∧
      ∀ e, outcome = .error e → Explained t u e := by
  obtain ⟨rs, hextends, -, -, -, -, -, -, hcaused⟩ :=
    emits_readBatch t.channel stream.reader (t.extraRows + 1) stream.pending t.session
  obtain ⟨results, isOpen, ended, s₁, v, hbatch, hend, rfl⟩ := exists_batchRead hfill
  rw [hbatch] at hextends hcaused
  have hread : GoesOn t { t with
      session := s₁, buffer := results, holdings := { t.holdings with rows := isOpen } } :=
    ⟨rfl, rfl, List.Subset.refl _, ⟨rs, hextends.calls⟩, id, id⟩
  obtain ⟨hgoes, hfailure, hexplained⟩ := hend.goesOn hread hextends.calls hcaused
  have hnotice := goesOn_notify v (.decoded stream.reader.mode results.length)
  exact ⟨hgoes.trans hnotice, hfailure, fun e he ↦ (hexplained e he).goesOn hnotice⟩

/-- Going on to the next tree makes no call. -/
theorem goesOn_turn (hqueue : t.queue = []) :
    GoesOn t t.turn.2 ∧ t.turn.2.failure = t.failure := by
  have hagenda := agenda_turn_subset hqueue
  obtain ⟨stage, root, queue, registry, notices, hsame⟩ := exists_turn hqueue
  rw [hsame] at hagenda ⊢
  exact ⟨⟨rfl, rfl, hagenda, (GoesOn.refl t).calls, id, id⟩, rfl⟩

theorem goesOn_finish (t : Traversal) : GoesOn t t.finish :=
  (goesOn_release t).trans (goesOn_notify _ _)

/-- Taking a connection fails only if the call does. -/
theorem exists_acquire_calls (s : Session) {context : CallContext} {answer : Except String ℕ}
    {s' : Session} (hacquire : SessionM.acquire context s = (answer, s')) :
    ∃ rs, s'.calls = s.calls ++ rs ∧ ∀ words, answer = .error words → Refused rs words := by
  have hacquired := acquired s context
  rw [hacquire] at hacquired
  cases hacquired with
  | refused hextends hconnects hrefused =>
    refine ⟨_, hextends.calls, ?_⟩
    rintro _ ⟨⟩
    exact hrefused
  | taken hextends hconnects hsmooth hcalls hlent hscript hcompiling hgauge =>
    refine ⟨_, by rw [hcalls, hextends.calls, List.append_assoc], ?_⟩
    rintro _ ⟨⟩

/-! ## Traversals of trees without faults -/

/-- Every statement that is still to be run compiles from every state, and so do all trees. -/
structure Faultless (t : Traversal) : Prop where
  trees : ∀ tree ∈ t.trees, t.compiler.fault? tree = none
  agenda : ∀ {tree mode p}, .run tree mode p ∈ t.agenda →
    (CompileM.statement t.compiler tree mode p.path p.branches).Total

theorem GoesOn.faultless (h : GoesOn t u) (ht : Faultless t) : Faultless u where
  trees tree htree := by
    rw [h.trees] at htree
    rw [h.compiler]
    exact ht.trees tree htree
  agenda hmem := by
    rw [h.compiler]
    exact ht.agenda (h.agenda hmem)

/-- A traversal that goes on from `t₀`, with a cause for its failure if it has failed. -/
structure Accountable (t₀ t : Traversal) : Prop where
  goesOn : GoesOn t₀ t
  explained : ∀ e, t.failure = some e → Explained t₀ t e

namespace Accountable

theorem going (h : Accountable t₀ t) (hu : GoesOn t u) (hfailure : u.failure = t.failure) :
    Accountable t₀ u where
  goesOn := h.goesOn.trans hu
  explained e he := (h.explained e (hfailure ▸ he)).goesOn hu

theorem fail (h : Accountable t₀ t) (he : Explained t₀ t e) : Accountable t₀ (t.fail e) where
  goesOn := h.goesOn.trans (goesOn_fail t e)
  explained := by
    rintro _ ⟨⟩
    exact he.goesOn (goesOn_fail t e)

theorem cancel (h : Accountable t₀ t) : Accountable t₀ t.cancel := by
  refine h.going (goesOn_cancel t) ?_
  rw [Traversal.cancel]
  split <;> rfl

/-- Closing an unfinished traversal is a failure of its own. -/
theorem close (h : Accountable t₀ t) : Accountable t₀ t.close.2 := by
  refine ⟨h.goesOn.trans (goesOn_close t), fun e he ↦ ?_⟩
  have hgoes := goesOn_close t
  by_cases hclosed : t.closed
  · have hsame : t.close.2 = t := by rw [Traversal.close, if_pos hclosed]
    rw [hsame] at he ⊢
    exact h.explained e he
  · have hnow : t.close.2.closed := by rw [Traversal.close, if_neg hclosed]
    rw [Traversal.close, if_neg hclosed] at he
    dsimp only at he
    split at he
    · obtain rfl := Option.some.inj he
      obtain ⟨rs, hrs⟩ := (h.goesOn.trans hgoes).calls
      exact ⟨rs, hrs, .closed hnow⟩
    · exact (h.explained e he).goesOn hgoes

end Accountable

/-- What a step comes to is accountable. -/
def Progress.Accountable (t₀ : Traversal) : Progress → Prop
  | .yields _ t | .moves t | .stops t => Traversal.Accountable t₀ t

namespace Accountable

/-- A statement that compiles fails only because it cannot be run. -/
theorem openStatement (h : Accountable t₀ t) (ht : Faultless t) {job : Job} {rest : List Job}
    (hqueue : t.queue = job :: rest) {outcome : Except TraversalError RowStream} {held : Holdings}
    {s : Session} (hopen : Traversal.openStatement t.compiler t.channel job.tree job.mode job.path
      t.session = ((outcome, held), s)) :
    Accountable t₀ { t with queue := rest, session := s, holdings := held } ∧
      ∀ e, outcome = .error e →
        Explained t₀ { t with queue := rest, session := s, holdings := held } e := by
  have hagenda := agenda_of_queue hqueue
  have hrest : { t with queue := rest, session := s, holdings := held }.agenda ⊆ t.agenda := by
    rw [hagenda]
    exact List.subset_cons_self _ _
  have htotal : (CompileM.statement t.compiler job.tree job.mode job.path.path
      job.path.branches).Total :=
    ht.agenda (by rw [hagenda]; exact List.mem_cons_self)
  obtain ⟨st, state, hst⟩ := htotal { t.session.compiling with journal := #[] }
  obtain ⟨s₁, hcompile⟩ : ∃ s₁, SessionM.compile (CompileM.statement t.compiler job.tree job.mode
      job.path.path job.path.branches) t.session = (.ok st, s₁) := by
    refine ⟨_, Prod.ext_iff.mpr ⟨?_, rfl⟩⟩
    rw [SessionM.compile, hst]
  -- opening the statement may be refused at any call, but compiling it is not
  obtain ⟨rs, hextends, -, -, hcause⟩ := exists_openStatement_of_compile hcompile hopen
  have hcalls : s.calls = t.session.calls ++ rs := by
    rw [hextends.calls, Session.calls, (database_of_compile hcompile).1]
    rfl
  refine ⟨h.going ⟨rfl, rfl, hrest, ⟨rs, hcalls⟩, id, id⟩ rfl, fun e he ↦ ?_⟩
  obtain ⟨cause, rfl, hcaused⟩ := hcause e he
  exact h.goesOn.explained ⟨rs, hcalls, .execution st.mode st.fingerprint hcaused⟩

/-- No step fails without a cause. -/
theorem step (h : Accountable t₀ t) (ht : Faultless t) : t.step.Accountable t₀ := by
  have hstep := t.stepped_step
  generalize t.step = p at hstep
  cases hstep with
  | yields hbuffer =>
    exact h.going ⟨rfl, rfl, List.Subset.refl _, (GoesOn.refl t).calls, id, id⟩ rfl
  | canceled hbuffer hcanceled =>
    obtain ⟨rs, hrs⟩ := h.goesOn.calls
    exact h.fail ⟨rs, hrs, .canceled hcanceled⟩
  | reads hbuffer hlive hstream hfill =>
    obtain ⟨hgoes, hfailure, -⟩ := goesOn_fill hfill
    exact h.going hgoes hfailure
  | unread hbuffer hlive hstream hfill =>
    obtain ⟨hgoes, hfailure, hexplained⟩ := goesOn_fill hfill
    exact (h.going hgoes hfailure).fail (h.goesOn.explained (hexplained _ rfl))
  | opens hbuffer hlive hstream hqueue hopen =>
    obtain ⟨hopened, -⟩ := h.openStatement ht hqueue hopen
    exact hopened.going ⟨rfl, rfl, List.Subset.refl _, (GoesOn.refl _).calls, id, id⟩ rfl
  | unopened hbuffer hlive hstream hqueue hopen =>
    obtain ⟨hopened, hexplained⟩ := h.openStatement ht hqueue hopen
    exact hopened.fail (hexplained _ rfl)
  | turns hbuffer hlive hstream hqueue hturn =>
    obtain ⟨hgoes, hfailure⟩ := goesOn_turn hqueue
    rw [hturn] at hgoes hfailure
    exact h.going hgoes hfailure
  | finishes hbuffer hlive hstream hqueue hturn =>
    obtain ⟨hgoes, hfailure⟩ := goesOn_turn hqueue
    rw [hturn] at hgoes hfailure
    exact (h.going hgoes hfailure).going (goesOn_finish _) rfl

/-- What one step keeps, all steps up to the next result keep. -/
theorem advance (h : Accountable t₀ t) (h₀ : Faultless t₀) : Accountable t₀ t.advance.2 := by
  fun_induction Traversal.advance t with
  | case1 t r t' hstep =>
    have hnow := h.step (h.goesOn.faultless h₀)
    rwa [hstep] at hnow
  | case2 t t' hstep =>
    have hnow := h.step (h.goesOn.faultless h₀)
    rwa [hstep] at hnow
  | case3 t t' hstep ih =>
    have hnow := h.step (h.goesOn.faultless h₀)
    rw [hstep] at hnow
    exact ih hnow

theorem advanceInterrupted (h : Accountable t₀ t) (h₀ : Faultless t₀) (k : ℕ) :
    Accountable t₀ (t.advanceInterrupted k).2 := by
  induction k generalizing t with
  | zero => exact h.cancel.advance h₀
  | succ k ih =>
    have hnow := h.step (h.goesOn.faultless h₀)
    rw [Traversal.advanceInterrupted]
    split
    · next r t' hstep => rwa [hstep] at hnow
    · next t' hstep => rwa [hstep] at hnow
    · next t' hstep =>
      rw [hstep] at hnow
      exact ih hnow

/-- Trees without faults pass the check, so starting fails only if there is no connection or the
traversal has been canceled. -/
theorem start (h : Accountable t₀ t) (ht : Faultless t) {outcome : Except TraversalError Unit}
    (hstart : t.start = (outcome, u)) :
    Accountable t₀ u ∧ ∀ e, outcome = .error e → Explained t₀ u e := by
  have htotal : ∀ tree ∈ t.trees, (CompileM.allStatements t.compiler tree).Total :=
    fun tree htree ↦ Compiler.fault?_eq_none_iff.mp (ht.trees tree htree)
  obtain ⟨s₁, hpassed, hdatabase, -⟩ := exists_checkAll htotal 0 t.session
  have hchecked : s₁.calls = t.session.calls := by
    rw [Session.calls, Session.calls, hdatabase]
  cases started_start hstart with
  | invalid hcheck => cases hpassed.symm.trans hcheck
  | canceled hcheck hcanceled =>
    cases hpassed.symm.trans hcheck
    have hgoes : GoesOn t { t with started := true, session := s₁ } :=
      ⟨rfl, rfl, List.Subset.refl _, ⟨[], by rw [hchecked, List.append_nil]⟩, id, id⟩
    refine ⟨h.going hgoes rfl, ?_⟩
    rintro _ ⟨⟩
    obtain ⟨rs, hrs⟩ := (h.goesOn.trans hgoes).calls
    exact ⟨rs, hrs, .canceledStart hcanceled⟩
  | @refused words _ _ hcheck hacquire =>
    cases hpassed.symm.trans hcheck
    obtain ⟨rs, hcalls, hrefused⟩ := exists_acquire_calls s₁ hacquire
    rw [hchecked] at hcalls
    refine ⟨h.going ⟨rfl, rfl, List.Subset.refl _, ⟨rs, hcalls⟩, id, id⟩ rfl, ?_⟩
    rintro _ ⟨⟩
    exact h.goesOn.explained ⟨rs, hcalls, .noConnection (hrefused words rfl)⟩
  | taken hcheck hacquire =>
    cases hpassed.symm.trans hcheck
    obtain ⟨rs, hcalls, -⟩ := exists_acquire_calls s₁ hacquire
    rw [hchecked] at hcalls
    exact ⟨h.going ⟨rfl, rfl, List.Subset.refl _, ⟨rs, hcalls⟩, id, id⟩ rfl, by simp⟩

theorem nextBy (h : Accountable t₀ t) (h₀ : Faultless t₀)
    {move : Traversal → Option Result × Traversal}
    (hmove : ∀ {u}, Accountable t₀ u → Accountable t₀ (move u).2) :
    Accountable t₀ (t.nextBy move).2 := by
  rw [Traversal.nextBy]
  split
  · exact h
  · split
    · exact hmove h
    · rcases hstart : t.start with ⟨outcome, u⟩
      obtain ⟨hu, hexplained⟩ := h.start (h.goesOn.faultless h₀) hstart
      cases outcome with
      | ok _ => exact hmove hu
      | error e => exact hu.fail (hexplained e rfl)

theorem handle (h : Accountable t₀ t) (h₀ : Faultless t₀) (request : Request) :
    Accountable t₀ (t.handle request) := by
  cases request with
  | next => exact h.nextBy h₀ fun hu ↦ hu.advance h₀
  | nextInterrupted k => exact h.nextBy h₀ fun hu ↦ hu.advanceInterrupted h₀ k
  | cancel => exact h.cancel
  | close => exact h.close

theorem handleAll (h : Accountable t₀ t) (h₀ : Faultless t₀) (requests : List Request) :
    Accountable t₀ (t.handleAll requests) := by
  induction requests generalizing t with
  | nil => exact h
  | cons request requests ih => exact ih (h.handle h₀ request)

end Accountable

/-! ## Whatever is asked -/

theorem mem_tasks_iff {mode mode' : Mode} {p : OptionalPath} {tree' : Tree} :
    .run tree' mode' p ∈ tree.tasks mode ↔ tree' = tree ∧ mode' = mode ∧
      ∃ paths, CompileM.modePaths tree mode = .ok paths ∧ p ∈ paths := by
  cases hpaths : CompileM.modePaths tree mode with
  | error e => simp [Tree.tasks, Tree.jobs, hpaths]
  | ok paths =>
    rw [Tree.tasks_of_modePaths hpaths, List.mem_map]
    constructor
    · rintro ⟨p', hp', heq⟩
      obtain ⟨rfl, rfl, rfl⟩ := Task.run.inj heq
      exact ⟨rfl, rfl, paths, rfl, hp'⟩
    · rintro ⟨rfl, rfl, paths', hpaths', hp⟩
      obtain rfl := Except.ok.inj hpaths'
      exact ⟨p, hp, rfl⟩

/-- The statements on an agenda are those of its trees, in the known modes. -/
theorem mem_agendaOf_iff {mode : Mode} {p : OptionalPath} :
    .run tree mode p ∈ agendaOf trees ↔ tree ∈ trees ∧ mode ∈ Mode.known ∧
      ∃ paths, CompileM.modePaths tree mode = .ok paths ∧ p ∈ paths := by
  have hmode : ∀ mode' next, .run tree mode p ∈ modeTasks trees mode' next ↔ tree ∈ trees ∧
      mode = mode' ∧ ∃ paths, CompileM.modePaths tree mode = .ok paths ∧ p ∈ paths := by
    intro mode' next
    rw [modeTasks, List.mem_append, List.mem_flatMap]
    constructor
    · rintro (⟨tree', htree', hmem⟩ | hmem)
      · obtain ⟨rfl, rfl, hpaths⟩ := mem_tasks_iff.mp hmem
        exact ⟨htree', rfl, hpaths⟩
      · cases List.mem_singleton.mp hmem
    · rintro ⟨htree, rfl, hpaths⟩
      exact .inl ⟨tree, htree, mem_tasks_iff.mpr ⟨rfl, rfl, hpaths⟩⟩
  rw [agendaOf, agendaFrom, List.mem_append, List.mem_append, hmode, hmode, hmode, Mode.known]
  simp only [List.mem_cons, List.not_mem_nil, or_false]
  rw [← and_or_left, ← and_or_left, ← or_and_right, ← or_and_right]

theorem faultless_ofTrees (htrees : ∀ tree ∈ trees, c.fault? tree = none) (batch : ℤ)
    (session : Session) : Faultless (ofTrees c trees batch session) where
  trees := htrees
  agenda := by
    intro tree mode p hmem
    obtain ⟨htree, hmode, paths, hpaths, hp⟩ := mem_agendaOf_iff.mp hmem
    obtain ⟨-, hstatements⟩ := Compiler.fault?_eq_none_iff_forall.mp (htrees tree htree)
    obtain ⟨st, s, hst⟩ := hstatements mode hmode paths hpaths p hp
    exact (CompileM.follows_statement c tree mode p).total hst

theorem accountable_ofTrees (c : Compiler) (trees : List Tree) (batch : ℤ) (session : Session) :
    Accountable (ofTrees c trees batch session) (ofTrees c trees batch session) where
  goesOn := .refl _
  explained := by
    intro e he
    cases he

/-- **Nothing runs unless everything compiles.** A tree has no fault when it is valid and all its
statements compile. If some tree has a fault, a traversal answers with the first one when it is
asked for a result, whether it has been canceled before or not, and makes no call to the database
whatever it is asked. If no tree has one, every statement on the agenda compiles from every state of
the compiler, and whatever a traversal fails with is no fault of a tree: the database has refused a
call with these words, or what it has answered cannot be decoded, or the traversal has been canceled
or closed. -/
theorem failure_of_handleAll (c : Compiler) (trees : List Tree) (batch : ℤ) (session : Session) :
    let start := ofTrees c trees batch session
    (∀ tree, c.fault? tree = none ↔ tree.validate = .ok () ∧
      ∀ mode ∈ Mode.known, ∀ paths, CompileM.modePaths tree mode = .ok paths → ∀ p ∈ paths,
        ∃ st s, (CompileM.statement c tree mode p.path p.branches).Yields {} st s) ∧
    (∀ pre tree post fault, trees = pre ++ tree :: post → (∀ tree ∈ pre, c.fault? tree = none) →
      c.fault? tree = some fault →
      (∀ n move, ((start.handleAll (List.replicate n .cancel)).nextBy move).1 = none ∧
        ((start.handleAll (List.replicate n .cancel)).nextBy move).2.failure =
          some (.invalidTree pre.length fault)) ∧
      ∀ requests, (start.handleAll requests).session.calls = session.calls) ∧
    ((∀ tree ∈ trees, c.fault? tree = none) →
      (∀ tree mode p, .run tree mode p ∈ start.agenda → ∀ s, ∃ st s',
        (CompileM.statement c tree mode p.path p.branches).Yields s st s') ∧
      ∀ requests e, (start.handleAll requests).failure = some e →
        e.queryError? = none ∧ Explained start (start.handleAll requests) e) := by
  intro start
  have hcompiler : start.compiler = c := rfl
  have htrees : start.trees = trees := rfl
  have hcalls : start.session.calls = session.calls := rfl
  have hwaiting : Waiting start start := waiting_ofTrees c trees batch session
  have haccountable : Accountable start start := accountable_ofTrees c trees batch session
  have hfaultless : (∀ tree ∈ trees, c.fault? tree = none) → Faultless start :=
    fun h ↦ faultless_ofTrees h batch session
  -- from here on nothing but these facts is known of the start
  clear_value start
  subst hcompiler htrees
  refine ⟨fun tree ↦ Compiler.fault?_eq_none_iff_forall, ?_, fun hnone ↦ ⟨?_, ?_⟩⟩
  · intro pre tree post fault hsplit hpre hfault
    constructor
    · intro n move
      obtain ⟨hanswer, hfailure, -⟩ := (hwaiting.cancelAll n).nextBy hsplit hpre hfault move
      exact ⟨hanswer, hfailure⟩
    · intro requests
      rw [← hcalls]
      exact hwaiting.calls_handleAll hsplit hpre hfault requests
  · intro tree mode p hmem
    exact (hfaultless hnone).agenda hmem
  · intro requests e he
    have hexplained := (haccountable.handleAll (hfaultless hnone) requests).explained e he
    exact ⟨hexplained.queryError?, hexplained⟩

/-- A tree of a table that is not declared. -/
def strayTree : Tree := Tree.ofRoot (some arrowGraph) { table := ⟨"s", "V_b"⟩ }

/-- A database that refuses every connection. -/
def refusingSession : Session where
  database := {
    source := ""
    script := { failure? := fun kind _ ↦ if kind = .connect then some "refused" else none } }

/-- Of two trees the second has a fault, so that the database is not even asked for a connection.
The first tree alone is faultless, and the traversal fails because it gets none. -/
theorem failure_strayTree :
    (∀ move, ((ofTrees inlineCompiler [arrowTree, strayTree] 0 refusingSession).nextBy
        move).2.failure = some (.invalidTree 1 (.violation (.undeclaredStep 0 ⟨"s", "V_b"⟩)))) ∧
      (∀ requests, ((ofTrees inlineCompiler [arrowTree, strayTree] 0
        refusingSession).handleAll requests).session.calls = []) ∧
      ∃ e, (ofTrees inlineCompiler [arrowTree] 0 refusingSession).next.2.failure = some e ∧
        e.queryError? = none ∧ Explained (ofTrees inlineCompiler [arrowTree] 0 refusingSession)
          (ofTrees inlineCompiler [arrowTree] 0 refusingSession).next.2 e := by
  have hsound : ∀ tree ∈ [arrowTree], inlineCompiler.fault? tree = none := by
    intro tree htree
    rw [List.mem_singleton.mp htree]
    have hnone : (inlineCompiler.fault? arrowTree).isNone := by decide +kernel
    exact Option.isNone_iff_eq_none.mp hnone
  have hstray : inlineCompiler.fault? strayTree =
      some (.violation (.undeclaredStep 0 ⟨"s", "V_b"⟩)) := by
    rfl
  obtain ⟨-, hbarred, -⟩ :=
    failure_of_handleAll inlineCompiler [arrowTree, strayTree] 0 refusingSession
  obtain ⟨hanswers, hcalls⟩ := hbarred [arrowTree] strayTree [] _ rfl hsound hstray
  obtain ⟨-, -, hfails⟩ := failure_of_handleAll inlineCompiler [arrowTree] 0 refusingSession
  have hfailed : (ofTrees inlineCompiler [arrowTree] 0 refusingSession).next.2.failure.isSome := by
    decide +kernel
  obtain ⟨e, he⟩ := Option.isSome_iff_exists.mp hfailed
  exact ⟨fun move ↦ (hanswers 0 move).2, hcalls, e, he, (hfails hsound).2 [.next] e he⟩

end Traversal

end PathQuery
