import PathQuery.Command.Answer
import PathQuery.Proofs.Compile.Coverage
import PathQuery.Proofs.Compile.Lookup
import PathQuery.Proofs.Query.Consistency

/-!
# How compiling fails

Checking a tree and compiling its paths find faults in many places, each of which is one of the
query: its shape, or a comparison that has no form in SQL. The compiler also looks up steps without
asking whether they are there, and one that is not would be a fault of the compiler. In a tree that
is looked after none of these lookups misses, because the paths lead over live steps only and the
records of the arena agree about them.

So there are two things to show. `Grounded` lists what compiling a path takes for granted, and holds
of every path of such a tree. From it, one walk over the compiler shows that each of its parts
answers or refuses the query.
-/

namespace PathQuery

namespace QueryError

/-- The query is refused: for its shape, or for a comparison that has no form in SQL. -/
def IsRefusal (e : QueryError) : Prop := e.isViolation ∨ e.isUnsupported

theorem IsRefusal.violation (v : Violation) : (QueryError.violation v).IsRefusal := .inl rfl

theorem IsRefusal.unsupported (u : Unsupported) : (QueryError.unsupported u).IsRefusal := .inr rfl

/-- Naming the path changes nothing about what is at fault. -/
theorem IsRefusal.path {e : QueryError} (h : e.IsRefusal) (mode : Mode) (leaf : Table) :
    (QueryError.path mode leaf e).IsRefusal := h

theorem IsRefusal.isAbsent {e : QueryError} (h : e.IsRefusal) : e.isAbsent = false := by
  induction e with
  | violation v => rfl
  | unsupported u => rfl
  | path mode leaf e ih => exact ih h
  | unknownMode code => rfl
  | absent => rcases h with h | h <;> cases h

/-- A refusal has a kind of its own among the failures of a command. -/
theorem IsRefusal.ofQuery_ne {e : QueryError} (h : e.IsRefusal) :
    Command.FailureCode.ofQuery e ≠ .internalError := by
  rw [Command.FailureCode.ofQuery]
  rcases h with h | h
  · rw [h]
    split <;> simp
  · rw [h]
    simp

end QueryError

/-! ## Lookups -/

/-- A lookup that fails refuses the query. -/
def AnswersOrRefuses {α : Type} (x : Except QueryError α) : Prop := ∀ e, x = .error e → e.IsRefusal

namespace AnswersOrRefuses

variable {α β : Type}

theorem ok (a : α) : AnswersOrRefuses (.ok a) := fun _ h ↦ nomatch h

theorem refusal {e : QueryError} (h : e.IsRefusal) :
    AnswersOrRefuses (.error e : Except QueryError α) := by
  rintro _ ⟨rfl⟩
  exact h

theorem violation (v : Violation) :
    AnswersOrRefuses (.error (.violation v) : Except QueryError α) :=
  refusal (.violation v)

theorem unsupported (u : Unsupported) :
    AnswersOrRefuses (.error (.unsupported u) : Except QueryError α) :=
  refusal (.unsupported u)

theorem bind {x : Except QueryError α} {f : α → Except QueryError β} (hx : AnswersOrRefuses x)
    (hf : ∀ a, x = .ok a → AnswersOrRefuses (f a)) : AnswersOrRefuses (x >>= f) := by
  cases x with
  | error e => exact refusal (hx e rfl)
  | ok a => exact hf a rfl

theorem mapM {f : α → Except QueryError β} {as : List α}
    (hf : ∀ a ∈ as, AnswersOrRefuses (f a)) : AnswersOrRefuses (as.mapM f) := by
  intro e h
  obtain ⟨a, ha, hfail⟩ := exists_of_mapM_eq_error h
  exact hf a ha e hfail

end AnswersOrRefuses

namespace CompileM

variable {α β : Type}

/-- A step of compiling that fails refuses the query, whatever has been compiled before. -/
def CompilesOrRefuses (m : CompileM α) : Prop :=
  ∀ s, AnswersOrRefuses (m.runOn s).1

namespace CompilesOrRefuses

theorem pure (a : α) : CompilesOrRefuses (pure a) := fun _ ↦ .ok a

theorem get : CompilesOrRefuses get := fun s ↦ .ok s

theorem set (s : CompileState) : CompilesOrRefuses (set s) :=
  fun _ ↦ .ok PUnit.unit

theorem modify (f : CompileState → CompileState) : CompilesOrRefuses (modify f) :=
  fun _ ↦ .ok PUnit.unit

theorem bind {m : CompileM α} {f : α → CompileM β} (hm : CompilesOrRefuses m)
    (hf : ∀ a, CompilesOrRefuses (f a)) : CompilesOrRefuses (m >>= f) := by
  intro s
  have hfirst := hm s
  rw [runOn_bind]
  split
  · next a s₁ heq => exact hf a s₁
  · next e s₁ heq =>
    rw [heq] at hfirst
    exact .refusal (hfirst e rfl)

/-- What does not depend on the state is looked up first. -/
theorem lift_bind {x : Except QueryError α} {f : α → CompileM β} (hx : AnswersOrRefuses x)
    (hf : ∀ a, x = .ok a → CompilesOrRefuses (f a)) : CompilesOrRefuses (liftM x >>= f) := by
  cases x with
  | error e => exact fun _ ↦ .refusal (hx e rfl)
  | ok a => exact hf a rfl

theorem ite {c : Prop} [Decidable c] {m₁ m₂ : CompileM α} (h₁ : CompilesOrRefuses m₁)
    (h₂ : CompilesOrRefuses m₂) : CompilesOrRefuses (if c then m₁ else m₂) := by
  split
  · exact h₁
  · exact h₂

theorem mapM {f : α → CompileM β} {as : List α} (hf : ∀ a ∈ as, CompilesOrRefuses (f a)) :
    CompilesOrRefuses (as.mapM f) := by
  induction as with
  | nil =>
    rw [List.mapM_nil]
    exact .pure []
  | cons a as ih =>
    rw [List.forall_mem_cons] at hf
    rw [List.mapM_cons]
    exact .bind hf.1 fun _ ↦ .bind (ih hf.2) fun _ ↦ .pure _

theorem foldlM {f : β → α → CompileM β} {as : List α}
    (hf : ∀ a ∈ as, ∀ b, CompilesOrRefuses (f b a)) (b : β) :
    CompilesOrRefuses (as.foldlM f b) := by
  induction as generalizing b with
  | nil =>
    rw [List.foldlM_nil]
    exact .pure b
  | cons a as ih =>
    rw [List.forall_mem_cons] at hf
    rw [List.foldlM_cons]
    exact .bind (hf.1 b) fun b ↦ ih hf.2 b

theorem tryCatch {m : CompileM α} {g : QueryError → QueryError} (hm : CompilesOrRefuses m)
    (hg : ∀ e, e.IsRefusal → (g e).IsRefusal) :
    CompilesOrRefuses (tryCatch m fun e ↦ throw (g e)) := by
  intro s
  have hrun := hm s
  rw [runOn_tryCatch]
  split
  · exact .ok _
  · next e s₁ heq =>
    rw [heq] at hrun
    exact .refusal (hg e (hrun e rfl))

end CompilesOrRefuses

end CompileM

/-! ## Checking -/

/-- A check that finds a fault refuses the query. -/
def PassesOrRefuses (x : Option QueryError) : Prop := ∀ e, x = some e → e.IsRefusal

namespace PassesOrRefuses

theorem none : PassesOrRefuses none := fun _ h ↦ nomatch h

theorem violation (v : Violation) : PassesOrRefuses (some (.violation v)) := by
  rintro _ ⟨rfl⟩
  exact .violation v

theorem unsupported (u : Unsupported) : PassesOrRefuses (some (.unsupported u)) := by
  rintro _ ⟨rfl⟩
  exact .unsupported u

theorem orElse {x : Option QueryError} {y : Unit → Option QueryError} (hx : PassesOrRefuses x)
    (hy : PassesOrRefuses (y ())) : PassesOrRefuses (x.orElse y) := by
  cases x with
  | none => exact hy
  | some e => exact hx

theorem firstFault {α : Type} {check : α → Option QueryError}
    (h : ∀ a, PassesOrRefuses (check a)) (as : List α) :
    PassesOrRefuses (Tree.firstFault check as) := by
  induction as with
  | nil => exact none
  | cons a as ih => exact (h a).orElse ih

end PassesOrRefuses

namespace Tree

variable {t : Tree} {id : NodeId}

theorem passesOrRefuses_tableFault (t : Tree) (id : NodeId) (n : Node) :
    PassesOrRefuses (t.tableFault id n) := by
  rw [tableFault]
  split
  · exact .violation _
  · split
    · exact .violation _
    · exact .none

theorem passesOrRefuses_placeFault (t : Tree) (id : NodeId) (n : Node) :
    PassesOrRefuses (t.placeFault id n) := by
  rw [placeFault]
  cases n.parent with
  | none => exact .none
  | some above =>
    rw [Option.bind_some]
    split
    · exact .violation _
    · dsimp only
      split
      · exact .violation _
      · exact .none

theorem passesOrRefuses_labelFault (id : NodeId) (label : String) :
    PassesOrRefuses (labelFault id label) := by
  rw [labelFault]
  split
  · exact .violation _
  · exact .none

theorem passesOrRefuses_filterFault (id : NodeId) (f : Filter) :
    PassesOrRefuses (filterFault id f) := by
  rw [filterFault]
  split
  · exact .unsupported _
  · split
    · exact .violation _
    · split
      · exact .unsupported _
      · exact .none

theorem passesOrRefuses_orderingFault (t : Tree) (id : NodeId) (o : SortTerm) :
    PassesOrRefuses (t.orderingFault id o) := by
  rw [orderingFault]
  refine .orElse ?_ ?_
  · split
    · exact .none
    · split
      · exact .violation _
      · exact .none
    · exact .unsupported _
  · split
    · exact .unsupported _
    · exact .none

theorem passesOrRefuses_nodeFault (t : Tree) (id : NodeId) (n : Node) :
    PassesOrRefuses (t.nodeFault id n) :=
  (t.passesOrRefuses_tableFault id n).orElse <|
  (t.passesOrRefuses_placeFault id n).orElse <|
  (PassesOrRefuses.firstFault (passesOrRefuses_labelFault id) n.labels).orElse <|
  (PassesOrRefuses.firstFault (passesOrRefuses_filterFault id) n.filters).orElse <|
  PassesOrRefuses.firstFault (t.passesOrRefuses_orderingFault id) n.orderings

theorem passesOrRefuses_fault? (t : Tree) : PassesOrRefuses t.fault? := by
  refine .firstFault ?_ t.walkNodes
  rintro ⟨id, n⟩
  exact t.passesOrRefuses_nodeFault id n

theorem answersOrRefuses_validate (t : Tree) : AnswersOrRefuses t.validate := by
  rw [validate]
  cases h : t.fault? with
  | some e => exact .refusal (t.passesOrRefuses_fault? e h)
  | none => exact .ok ()

/-! ## Columns, joins and filters -/

theorem answersOrRefuses_liveNode (h : t.isLive id) : AnswersOrRefuses (t.liveNode id) := by
  obtain ⟨n, hn⟩ := isLive_iff.mp h
  rw [liveNode_eq_ok_iff.mpr hn]
  exact .ok n

theorem answersOrRefuses_correlate (id : NodeId) (above below : Node) :
    AnswersOrRefuses (correlate id above below) := by
  rw [correlate]
  split
  · exact .ok _
  · dsimp only
    generalize (if below.step = .edgeVertex then below.direction
      else below.direction.opposite) = side
    split
    · exact .violation _
    · exact .ok _
  · exact .violation _

section Catalog

variable {g : Topology} (hcatalog : t.catalog = some g)
include hcatalog

theorem answersOrRefuses_topology : AnswersOrRefuses t.topology := by
  rw [topology, hcatalog]
  exact .ok g

theorem answersOrRefuses_columnsOf (table : Table) : AnswersOrRefuses (t.columnsOf table) := by
  refine .bind (answersOrRefuses_topology hcatalog) fun c _ ↦ ?_
  split
  · exact .ok _
  · exact .violation _

theorem answersOrRefuses_correlation (id : NodeId) (above below : Node) :
    AnswersOrRefuses (t.correlation id above below) := by
  refine .bind (answersOrRefuses_correlate id above below) ?_
  rintro ⟨edge, key, columns⟩ -
  refine .bind (answersOrRefuses_topology hcatalog) fun c _ ↦ ?_
  split
  · exact .ok _
  · exact .violation _

end Catalog

end Tree

namespace Filter

theorem answersOrRefuses_textOperand (f : Filter) : AnswersOrRefuses f.textOperand := by
  rw [textOperand]
  split
  · exact .ok _
  · exact .ok _
  · exact .unsupported _

theorem answersOrRefuses_formOn (d : Dialect) (allowBulk : Bool) (f : Filter) (ref : ColumnRef)
    (type : PropertyType) : AnswersOrRefuses (f.formOn d allowBulk ref type) := by
  have htext : ∀ form : Text → FilterForm,
      AnswersOrRefuses (do .ok (form (← f.textOperand))) := fun form ↦
    .bind f.answersOrRefuses_textOperand fun _ _ ↦ .ok _
  rw [formOn]
  split
  · split <;> exact .ok _
  · split
    · exact .ok _
    · split <;> exact .ok _
  · exact htext _
  · exact htext _
  · exact htext _
  · exact htext _
  · split
    · exact .ok _
    · exact .unsupported _

theorem answersOrRefuses_form {t : Tree} {g : Topology} (hcatalog : t.catalog = some g)
    (d : Dialect) (allowBulk : Bool) (table : Table) (source : Source) (f : Filter) :
    AnswersOrRefuses (f.form d t.topology allowBulk table source) := by
  have hcolumn : AnswersOrRefuses (f.column t.topology table) := by
    rw [column]
    split
    · exact .ok _
    · refine .bind (Tree.answersOrRefuses_topology hcatalog) fun c _ ↦ ?_
      split
      · exact .ok _
      · exact .violation _
  rw [form]
  split
  · exact .ok _
  · exact .bind hcolumn fun _ _ ↦ f.answersOrRefuses_formOn d allowBulk _ _

end Filter

/-! ## What compiling a path takes for granted -/

theorem Path.leaf_mem_all (p : Path) : p.leaf ∈ p.all :=
  List.mem_of_getLast? (Tree.getLast?_all p)

namespace Tree

/-- What compiling a path looks up without asking whether it is there. -/
structure Grounded (t : Tree) (p : Path) (branches : List NodeId) : Prop extends
    LeadsDown t p where
  /-- The steps above those of the path are on it as well. A label is searched for among them. -/
  ancestors : ∀ id ∈ p.all, ∀ a ∈ t.ancestors id, a ∈ p.all
  /-- The branches start at live steps right below the end of the path. -/
  branch : ∀ b ∈ branches, t.isLive b ∧ t.IsParent p.leaf b
  /-- The segments have the steps below the root, in order. -/
  flatten : (t.segments p).flatten = p.nodes
  /-- Either there is one segment, or each of them has a first and a last step. -/
  cut : t.segments p = [p.nodes] ∨ ∀ run ∈ t.segments p, run ≠ []

variable {t : Tree} {p : Path} {branches : List NodeId}

namespace Grounded

variable (h : t.Grounded p branches)
include h

theorem isLive_rootId : t.isLive rootId := h.live rootId List.mem_cons_self

/-- Right above each step below the root stands another one of the path. -/
theorem exists_above {id : NodeId} (hid : id ∈ p.nodes) :
    ∃ above ∈ p.all, t.IsParent above id := by
  obtain ⟨before, after, hnodes⟩ := List.append_of_mem hid
  have hall : p.all = (rootId :: before) ++ id :: after := by
    rw [Path.all, hnodes, List.cons_append]
  have hchain := h.chain
  rw [hall, List.isChain_append] at hchain
  have hlast : (rootId :: before).getLast? = some ((rootId :: before).getLast (by simp)) :=
    List.getLast?_eq_some_getLast _
  refine ⟨(rootId :: before).getLast (by simp), ?_, hchain.2.2 _ hlast _ rfl⟩
  rw [hall]
  exact List.mem_append_left _ (List.getLast_mem _)

theorem mem_nodes_of_mem_segment {run : List NodeId} (hrun : run ∈ t.segments p) {id : NodeId}
    (hid : id ∈ run) : id ∈ p.nodes := by
  rw [← h.flatten]
  exact List.mem_flatten.mpr ⟨run, hrun, hid⟩

/-! ## Compiling -/

section Catalog

variable {g : Topology} (hcatalog : t.catalog = some g)
include hcatalog

theorem sortKeys : AnswersOrRefuses (t.sortKeys p.all) := by
  have hnode : ∀ id o, AnswersOrRefuses (t.sortNode id o) := by
    intro id o
    rw [sortNode]
    split
    · exact .ok _
    · split
      · exact .ok _
      · exact .violation _
    · exact .unsupported _
  have hkey : ∀ id ∈ p.all, ∀ o, AnswersOrRefuses (t.sortKey id o) := by
    intro id hid o
    refine .bind (hnode id o) fun target htarget ↦ ?_
    -- a label is found at or above the step, and all of that is on the path
    have hlive := h.live target (h.ancestors id hid target (mem_ancestors_of_sortNode htarget))
    refine .bind (answersOrRefuses_liveNode hlive) fun n _ ↦ ?_
    refine .bind (answersOrRefuses_topology hcatalog) fun c _ ↦ ?_
    split
    · exact .ok _
    · exact .violation _
  refine .bind (.mapM fun id hid ↦ ?_) fun _ _ ↦ .ok _
  exact .bind (answersOrRefuses_liveNode (h.live id hid)) fun n _ ↦ .mapM fun o _ ↦ hkey id hid o

theorem stepJoins {ids : List NodeId} (hids : ∀ id ∈ ids, id ∈ p.nodes) :
    AnswersOrRefuses (t.stepJoins p ids) := by
  refine .mapM fun id hid ↦ ?_
  obtain ⟨above, habove, hparent⟩ := h.exists_above (hids id hid)
  have hlive := h.live id (List.mem_cons_of_mem _ (hids id hid))
  refine .bind (answersOrRefuses_liveNode hlive) fun n hn ↦ ?_
  rw [liveNode_eq_ok_iff] at hn
  -- the step has one above it on record, so the root does not stand in for it
  rw [(isParent_of_some hn).mp hparent]
  refine .bind (answersOrRefuses_liveNode (h.live above habove)) fun m _ ↦ ?_
  exact .bind (answersOrRefuses_correlation hcatalog id m n) fun _ _ ↦ .ok _

theorem branchJoins (d : Dialect) : AnswersOrRefuses (t.branchJoins d p branches) := by
  refine .bind (answersOrRefuses_liveNode (h.live _ p.leaf_mem_all)) fun above _ ↦ .mapM ?_
  rintro ⟨id, j⟩ -
  dsimp only
  rw [branchJoin]
  split
  · exact .violation _
  · next n hn =>
    split
    · exact .violation _
    · refine .bind (answersOrRefuses_correlation hcatalog id above n) fun c _ ↦ ?_
      refine .bind (.mapM fun f _ ↦ ?_) fun _ _ ↦ .ok _
      exact f.answersOrRefuses_form hcatalog d false n.table _

theorem joints {runs : List (List NodeId)} (hruns : ∀ run ∈ runs, ∀ id ∈ run, id ∈ p.nodes) :
    AnswersOrRefuses (CompileM.joints t runs) := by
  induction runs with
  | nil => exact .ok []
  | cons before rest ih =>
    cases rest with
    | nil => exact .ok []
    | cons after rest =>
      have hends : ∀ run ∈ before :: after :: rest,
          t.isLive (run.headD rootId) ∧ t.isLive (run.getLastD rootId) := fun run hrun ↦
        ends_of_forall h.isLive_rootId fun id hid ↦
          h.live id (List.mem_cons_of_mem _ (hruns run hrun id hid))
      have hleft := (hends before (by simp)).2
      have hright := (hends after (by simp)).1
      rw [CompileM.joints]
      refine .bind (answersOrRefuses_liveNode hleft) fun n _ ↦ ?_
      refine .bind (answersOrRefuses_liveNode hright) fun m _ ↦ ?_
      refine .bind (answersOrRefuses_correlation hcatalog _ n m) fun columns _ ↦ ?_
      exact .bind (ih (List.forall_mem_cons.mp hruns).2) fun _ _ ↦ .ok _

open CompileM

omit h hcatalog in
theorem project (id : NodeId) (n : Node) (role : Role) (column : String) :
    CompilesOrRefuses (project id n role column) :=
  .bind .get fun _ ↦ .bind (.set _) fun _ ↦ .pure _

omit h in
theorem projectNode (id : NodeId) (n : Node) (role : Role) :
    CompilesOrRefuses (projectNode t id n role) :=
  .lift_bind (answersOrRefuses_columnsOf hcatalog n.table) fun _ _ ↦
    .mapM fun column _ ↦ project id n role column

theorem projectSteps {ids : List NodeId} (hids : ∀ id ∈ ids, id ∈ p.all) :
    CompilesOrRefuses (projectSteps t p.leaf ids) := by
  refine .bind (.mapM fun id hid ↦ ?_) fun _ ↦ .pure _
  refine .lift_bind (answersOrRefuses_liveNode (h.live id (hids id hid))) fun n _ ↦ ?_
  have hnode : ∀ role, CompilesOrRefuses (CompileM.projectNode t id n role) :=
    projectNode hcatalog id n
  -- whether the step is the projected one or not, it may be labeled
  refine .ite (.bind (hnode .result) fun result ↦ ?_) (.bind (.pure []) fun result ↦ ?_)
  · exact .ite (.bind (hnode .labeled) fun _ ↦ .pure _) (.bind (.pure []) fun _ ↦ .pure _)
  · exact .ite (.bind (hnode .labeled) fun _ ↦ .pure _) (.bind (.pure []) fun _ ↦ .pure _)

omit hcatalog in
theorem projectHelpers (needed : List (NodeId × String)) {ids : List NodeId}
    (hids : ∀ id ∈ ids, id ∈ p.all) : CompilesOrRefuses (projectHelpers t p.leaf needed ids) := by
  refine .bind (.mapM fun id hid ↦ ?_) fun _ ↦ .pure _
  refine .lift_bind (answersOrRefuses_liveNode (h.live id (hids id hid))) fun n _ ↦ ?_
  exact .mapM fun column _ ↦ project id n .helper column

theorem addFilters (c : Compiler) (fc : FilterClauses) {id : NodeId} (hid : id ∈ p.all) :
    CompilesOrRefuses (addFilters c t p fc id) := by
  refine .lift_bind (answersOrRefuses_liveNode (h.live id hid)) fun n _ ↦ .foldlM ?_ fc
  intro f _ fc
  refine .lift_bind (f.answersOrRefuses_form hcatalog c.dialect true n.table _) fun form _ ↦ ?_
  cases form with
  | always => exact .pure fc
  | holds condition => exact .bind (.modify _) fun _ ↦ .pure _
  | member column type without =>
    refine .bind (.bind .get fun _ ↦ .bind (.set _) fun _ ↦ .pure _) fun name ↦ ?_
    exact .bind (.modify _) fun _ ↦ .pure _

theorem select (c : Compiler) (projected : List Projected) {ids : List NodeId}
    (hids : ∀ id ∈ ids, id ∈ p.all) (hrest : ∀ id ∈ ids.drop 1, id ∈ p.nodes)
    (tables : List MembershipTable) (starts ends : Bool) (order : List SortColumn) :
    CompilesOrRefuses (select c t p projected ids branches tables starts ends order) := by
  have hclauses := CompilesOrRefuses.foldlM
    (fun id hid fc ↦ h.addFilters hcatalog c fc (hids id hid)) { tables }
  have hwritten : ∀ (opened : DraftM Unit) (closed : FilterClauses → DraftM Unit)
      (answer : FilterClauses → Select × List MembershipTable), CompilesOrRefuses (do
        drafting opened
        let clauses ← ids.foldlM (CompileM.addFilters c t p) { tables }
        drafting (closed clauses)
        return answer clauses) := fun _ _ _ ↦
    .bind (.modify _) fun _ ↦ .bind hclauses fun _ ↦ .bind (.modify _) fun _ ↦ .pure _
  refine .lift_bind (h.stepJoins hcatalog hrest) fun chain _ ↦ ?_
  refine .ite (.lift_bind (h.branchJoins hcatalog c.dialect) fun optional _ ↦ ?_)
    (.bind (.pure []) fun optional ↦ ?_)
  · exact hwritten _ _ _
  · exact hwritten _ _ _

theorem single (c : Compiler) : CompilesOrRefuses (single c t p branches) := by
  refine .lift_bind (h.sortKeys hcatalog) fun keys _ ↦ ?_
  refine .bind (h.projectSteps hcatalog fun _ hid ↦ hid) fun projected ↦ ?_
  exact .bind (h.select hcatalog c projected (fun _ hid ↦ hid) (fun _ hid ↦ hid) [] true true _)
    fun _ ↦ .bind (.modify _) fun _ ↦ .pure _

theorem segmentSelects (c : Compiler) (needed : List (NodeId × String)) (starts : Bool)
    (tables : List MembershipTable) {runs : List (List NodeId)}
    (hruns : ∀ run ∈ runs, ∀ id ∈ run, id ∈ p.nodes) :
    CompilesOrRefuses (segmentSelects c t p branches needed starts tables runs) := by
  induction runs generalizing starts tables with
  | nil => exact .pure _
  | cons segment rest ih =>
    obtain ⟨hsegment, hrest⟩ := List.forall_mem_cons.mp hruns
    -- the root comes before the steps of the first segment, and nothing before those of another
    have hids : ∀ id ∈ (if starts then rootId :: segment else segment), id ∈ p.all := by
      intro id hid
      split at hid
      · exact (List.mem_cons.mp hid).elim (fun heq ↦ heq ▸ List.mem_cons_self)
          fun hid ↦ List.mem_cons_of_mem _ (hsegment id hid)
      · exact List.mem_cons_of_mem _ (hsegment id hid)
    have hdrop : ∀ id ∈ (if starts then rootId :: segment else segment).drop 1, id ∈ p.nodes := by
      intro id hid
      split at hid
      · exact hsegment id hid
      · exact hsegment id (List.mem_of_mem_drop hid)
    rw [CompileM.segmentSelects]
    refine .bind (h.projectSteps hcatalog hids) fun shown ↦ ?_
    refine .bind (h.projectHelpers needed hids) fun helpers ↦ ?_
    refine .bind (h.select hcatalog c _ hids hdrop tables starts _ []) fun answer ↦ ?_
    exact .bind (ih false answer.2 hrest) fun _ ↦ .pure _

theorem split (c : Compiler) : CompilesOrRefuses (split c t p (t.segments p) branches) := by
  have hruns : ∀ run ∈ t.segments p, ∀ id ∈ run, id ∈ p.nodes :=
    fun _ hrun _ hid ↦ h.mem_nodes_of_mem_segment hrun hid
  refine .lift_bind (h.sortKeys hcatalog) fun keys _ ↦ ?_
  refine .lift_bind (h.joints hcatalog hruns) fun js _ ↦ ?_
  refine .bind (h.segmentSelects hcatalog c _ true [] hruns) fun _ ↦ ?_
  exact .bind (.modify _) fun _ ↦ .pure _

/-- The statement for a path compiles, or the query is refused and the path is named. -/
theorem statement (c : Compiler) (mode : Mode) :
    CompilesOrRefuses (statement c t mode p branches) := by
  have hbody : CompilesOrRefuses (body c t p branches) := by
    rw [body]
    split
    · exact h.single hcatalog c
    · exact h.split hcatalog c
  refine .bind (.modify _) fun _ ↦ ?_
  refine .lift_bind (answersOrRefuses_liveNode (h.live _ p.leaf_mem_all)) fun leaf _ ↦ ?_
  refine .bind (.tryCatch hbody fun e he ↦ he.path mode leaf.table) fun answer ↦ ?_
  exact .bind .get fun _ ↦ .bind (.set _) fun _ ↦ .pure _

end Catalog

end Grounded

/-! ## The paths of a tree that is looked after -/

variable {t : Tree}

theorem grounded_pathTo (h : t.Built) (horderly : t.Orderly) {id : NodeId} (hlive : t.isLive id)
    {branches : List NodeId} (hbranches : ∀ b ∈ branches, t.isLive b ∧ t.IsParent id b) :
    t.Grounded (t.pathTo id) branches where
  toLeadsDown := leadsDown_pathTo h horderly hlive
  ancestors := by
    intro a ha b hb
    rw [mem_all_pathTo_iff h.rooted (lt_size_of_isLive hlive)] at ha ⊢
    exact mem_ancestors_trans h.rooted hb ha
  branch := by
    have hleaf := (isChain_pathTo h.rooted (Array.getElem?_eq_getElem (lt_size_of_isLive hlive))).2
    rwa [hleaf]
  flatten := t.flatten_segments _
  cut := by
    by_cases hone : ∃ run, t.segments (t.pathTo id) = [run]
    · obtain ⟨run, hrun⟩ := hone
      have hflatten := t.flatten_segments (t.pathTo id)
      rw [hrun, List.flatten_singleton] at hflatten
      exact .inl (hflatten ▸ hrun)
    · exact .inr (ne_nil_of_mem_segments (not_exists.mp hone))

theorem grounded_of_mem_purposes (h : t.Tended) :
    ∀ x ∈ t.purposes, t.Grounded x.2.1 x.2.2 := by
  have hbuilt := h.built
  have horderly := h.orderly
  have hnil : ∀ id, ∀ b ∈ ([] : List NodeId), t.isLive b ∧ t.IsParent id b :=
    fun _ _ hb ↦ nomatch hb
  intro x hx
  rcases List.mem_append.mp hx with hx | hx
  · rcases List.mem_append.mp hx with hx | hx
    · obtain ⟨id, hid, rfl⟩ := List.mem_map.mp hx
      exact grounded_pathTo hbuilt horderly (horderly.live hid) (hnil id)
    · obtain ⟨id, hid, rfl⟩ := List.mem_map.mp hx
      refine grounded_pathTo hbuilt horderly
        ((mem_optionalParents_iff hbuilt horderly).mp hid).1 fun b hb ↦ ?_
      obtain ⟨hparent, hlive, -⟩ := (mem_optionalChildren_iff hbuilt horderly).mp hb
      exact ⟨hlive, hparent⟩
  · obtain ⟨id, hid, rfl⟩ := List.mem_map.mp hx
    exact grounded_pathTo hbuilt horderly ((mem_emitters_iff hbuilt horderly).mp hid).1 (hnil id)

/-- A mode that is known has paths. They are those the tree has for it, unless its root has been
found to match nothing. -/
theorem exists_modePaths {mode : Mode} (hmode : mode ∈ Mode.known) :
    ∃ paths, CompileM.modePaths t mode = .ok paths ∧
      ∀ p ∈ paths, (mode, p.path, p.branches) ∈ t.purposes := by
  rw [Mode.known, List.mem_cons, List.mem_cons, List.mem_singleton] at hmode
  cases hvalid : t.rootInvalid with
  | true =>
    refine ⟨[], ?_, fun p hp ↦ nomatch hp⟩
    rcases hmode with rfl | rfl | rfl
    · rw [CompileM.modePaths, regularPaths, hvalid]
      rfl
    · rw [CompileM.modePaths, optionalPaths, hvalid]
      rfl
    · rw [CompileM.modePaths, emitPaths, hvalid]
      rfl
  | false =>
    rcases hmode with rfl | rfl | rfl
    · refine ⟨_, rfl, fun p hp ↦ ?_⟩
      rw [regularPaths, hvalid] at hp
      obtain ⟨_, hpath, rfl⟩ := List.mem_map.mp hp
      obtain ⟨id, hid, rfl⟩ := List.mem_map.mp hpath
      exact List.mem_append_left _ (List.mem_append_left _ (List.mem_map_of_mem hid))
    · refine ⟨_, rfl, fun p hp ↦ ?_⟩
      rw [optionalPaths_eq_map hvalid] at hp
      obtain ⟨id, hid, rfl⟩ := List.mem_map.mp hp
      exact List.mem_append_left _ (List.mem_append_right _ (List.mem_map_of_mem hid))
    · refine ⟨_, rfl, fun p hp ↦ ?_⟩
      rw [emitPaths_eq_map hvalid] at hp
      obtain ⟨_, hpath, rfl⟩ := List.mem_map.mp hp
      obtain ⟨id, hid, rfl⟩ := List.mem_map.mp hpath
      exact List.mem_append_right _ (List.mem_map_of_mem hid)

end Tree

namespace CompileM

variable {c : Compiler} {t : Tree} {s s' : CompileState}

theorem compilesOrRefuses_allStatements (h : t.Tended) {g : Topology}
    (hcatalog : t.catalog = some g) (c : Compiler) : CompilesOrRefuses (allStatements c t) := by
  refine .lift_bind t.answersOrRefuses_validate fun _ _ ↦ ?_
  refine .bind (.mapM fun mode hmode ↦ ?_) fun _ ↦ .pure _
  -- the modes that are compiled are known, so each of them has paths
  obtain ⟨paths, hpaths, hpurposes⟩ := Tree.exists_modePaths (t := t) hmode
  rw [modeStatements, hpaths]
  refine .lift_bind (.ok paths) fun _ heq ↦ ?_
  obtain rfl := Except.ok.inj heq
  exact .mapM fun p hp ↦
    (Tree.grounded_of_mem_purposes h _ (hpurposes p hp)).statement hcatalog c mode

/-- A tree whose root matches nothing has no statements. -/
theorem eq_nil_of_yields_allStatements (hinvalid : t.rootInvalid = true) {sts : List Statement}
    (h : (allStatements c t).Yields s sts s') : sts = [] := by
  obtain ⟨regular, optional, emit, s₁, s₂, hregular, hoptional, hemit, rfl⟩ :=
    exists_of_yields_allStatements h
  have hnone : ∀ mode ∈ Mode.known, modePaths t mode = .ok [] := by
    simp [Mode.known, modePaths, Tree.regularPaths, Tree.optionalPaths, Tree.emitPaths, hinvalid]
  have hempty : ∀ mode ∈ Mode.known, ∀ {s s' part},
      (modeStatements c t mode).Yields s part s' → part = [] := by
    intro mode hmode s s' part hpart
    exact List.map_eq_nil_iff.mp (map_purpose_of_yields_modeStatements hpart (hnone mode hmode))
  rw [hempty .regular (by simp [Mode.known]) hregular, hempty .optional (by simp [Mode.known])
    hoptional, hempty .emit (by simp [Mode.known]) hemit]
  rfl

end CompileM

namespace Tree

variable {t : Tree}

/-- Compiling a tree misses no step, and comes to all of its statements or refuses the query. -/
structure CompilesSafely (t : Tree) (c : Compiler) (s : CompileState) : Prop where
  /-- Going up from a live step passes over live steps, and the root is the last of them. -/
  upward : ∀ id, t.isLive id → (t.ancestors id).getLast? = some rootId ∧
    ∀ a ∈ t.ancestors id, t.isLive a
  /-- What is listed below a step is in the arena. -/
  listed : ∀ id, ∀ b ∈ t.listedBelow id, b < t.nodes.size
  /-- What compiling a path takes for granted holds of the path of every statement. -/
  grounded : ∀ x ∈ t.purposes, t.Grounded x.2.1 x.2.2
  /-- There is every statement, or none and a fault of the query. -/
  outcome : (∃ sts s', (CompileM.allStatements c t).Yields s sts s' ∧
      sts.map Statement.purpose = if t.rootInvalid then [] else t.purposes) ∨
    ∃ e s', (CompileM.allStatements c t).runOn s = (.error e, s') ∧ e.IsRefusal ∧
      e.isAbsent = false ∧ Command.FailureCode.ofQuery e ≠ .internalError

theorem getLast?_ancestors (h : Rooted t.skeleton) {id : NodeId} (hid : id < t.nodes.size) :
    (t.ancestors id).getLast? = some rootId := by
  induction id using Nat.strongRecOn with
  | ind id ih =>
    by_cases hne : id = rootId
    · rw [hne, ancestors_rootId h]
      rfl
    · obtain ⟨above, hlt, hparent⟩ := exists_isParent h (Array.getElem?_eq_getElem hid) hne
      rw [ancestors_of_isParent h hparent, List.getLast?_cons, ih above hlt (hlt.trans hid)]
      rfl

/-- **Compiling fails only by refusing the query.** For a tree over a topology that starts as its
root, grows below live steps and is pruned to any depth and by its filters, whatever its tables,
directions, filters, sort terms and labels are: no step that is looked up is missing and no segment
is empty where one is needed, and compiling comes either to every statement or to a fault that is a
structural violation or an unsupported predicate, which a command never reports as an internal
error. -/
theorem Tended.compilesSafely (h : t.Tended) {g : Topology} (hcatalog : t.catalog = some g)
    (c : Compiler) (s : CompileState) : t.CompilesSafely c s where
  upward := by
    intro id hlive
    have hrooted := h.built.rooted
    exact ⟨getLast?_ancestors hrooted (lt_size_of_isLive hlive),
      fun a ha ↦ Upward.isLive_of_mem_ancestors hrooted h.orderly.upward ha hlive⟩
  listed := fun _ _ hb ↦ (h.built.mem_listedBelow_iff.mp hb).lt_size
  grounded := grounded_of_mem_purposes h
  outcome := by
    rcases hrun : (CompileM.allStatements c t).runOn s with ⟨e | sts, s'⟩
    · have hrefusal : e.IsRefusal := by
        have hcompiles := CompileM.compilesOrRefuses_allStatements h hcatalog c s
        rw [hrun] at hcompiles
        exact hcompiles e rfl
      exact .inr ⟨e, s', rfl, hrefusal, hrefusal.isAbsent, hrefusal.ofQuery_ne⟩
    · refine .inl ⟨sts, s', hrun, ?_⟩
      cases hvalid : t.rootInvalid with
      | true =>
        rw [CompileM.eq_nil_of_yields_allStatements hvalid hrun]
        rfl
      | false => exact CompileM.map_purpose_of_yields_allStatements hvalid hrun

/-- An edge between two vertices, the lower of which is sorted by a property it does not have. -/
def missortedTree : Tree :=
  let grow (parent : NodeId) (spec : StepSpec) (t : Tree) : Tree := (t.addChild? parent spec).getD t
  let root := ofRoot annotationTree.catalog { table := ⟨"s", "V_a"⟩ }
  grow 1 { table := ⟨"s", "V_a"⟩, orderings := [{ key := "age", order := .ascending }] }
    (grow 0 { table := ⟨"s", "E_e"⟩, element := .edge } root)

theorem tended_missortedTree : missortedTree.Tended := by
  unfold missortedTree
  refine ((Tended.root _ _).addChild ?_ _).addChild ?_ _ <;> decide +kernel

/-- The fault is found when the path is compiled, not when the tree is checked. -/
theorem compilesSafely_missortedTree : missortedTree.Tended ∧
    (∃ g, missortedTree.catalog = some g ∧
      missortedTree.CompilesSafely { dialect := ⟨.sqlite, "s", 2, true⟩ } {}) ∧
    missortedTree.validate = .ok () ∧
    ((CompileM.allStatements { dialect := ⟨.sqlite, "s", 2, true⟩ } missortedTree).runOn {}).1.map
      (List.map Statement.purpose) =
        .error (.path .regular ⟨"s", "V_a"⟩ (.violation (.unsortable ⟨"s", "V_a"⟩ "age"))) := by
  refine ⟨tended_missortedTree, ⟨_, rfl, tended_missortedTree.compilesSafely rfl _ _⟩, ?_, ?_⟩
  · decide +kernel
  · decide +kernel

end Tree

end PathQuery
