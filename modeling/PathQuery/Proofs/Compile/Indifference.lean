import PathQuery.Proofs.Compile.Operands
import PathQuery.Proofs.Query.Arena
import PathQuery.Proofs.Sql.Masking

/-!
# Compiling is indifferent to operands

Two trees *resemble* each other if they differ at most in the operands of filters that need data,
and in the identity they start from. Compiling looks at three things about such an operand: whether
it is a string, how many there are in a list, and whether there is a start at all. Trees that
resemble each other agree on these, so a path compiles for both or for neither, and to queries that
are the same once their operands are masked.

The two runs are kept side by side. They start from one state and go through the same states, as
neither an alias nor the name of a temporary table depends on an operand. The faults may differ,
because a fault about an operand names its type. Most of the compiler never comes across a filter;
those parts are not just alike for the two trees, but the same.
-/

namespace PathQuery

/-! ## Trees that resemble each other -/

/-- Whether a value is a string. -/
def Value.isString : Value → Bool
  | .str _ | .raw _ => true
  | _ => false

/-- Two filters differ at most in their operands, and not even in these when they are about the
label. Strings take the place of strings, and a list has as many operands as the other. -/
structure Filter.Resembles (f f' : Filter) : Prop where
  /-- The keys are the same. -/
  key : f'.key = f.key
  /-- The predicates are the same. -/
  predicate : f'.predicate = f.predicate
  /-- Filters about the label are the same altogether. -/
  label : f.key = labelKey → f' = f
  /-- Either both operands are strings, or none is. -/
  string : f'.value.isString = f.value.isString
  /-- The lists are of one length. -/
  length : f'.values.length = f.values.length

/-- Two steps differ at most in the operands of their filters. -/
def Node.Resembles (n n' : Node) : Prop :=
  ∃ filters, n' = { n with filters } ∧ List.Forall₂ Filter.Resembles n.filters filters

/-- Two trees differ at most in the operands of filters and in the identity they start from. -/
structure Tree.Resembles (t u : Tree) : Prop where
  /-- The topology is the same. -/
  catalog : u.catalog = t.catalog
  /-- The arenas have the same steps, up to operands. -/
  nodes : ∀ id : NodeId, Option.Rel Node.Resembles t.nodes[id]? u.nodes[id]?
  /-- The leaves are the same. -/
  leaves : u.leaves = t.leaves
  /-- The roots are both marked, or none is. -/
  rootInvalid : u.rootInvalid = t.rootInvalid
  /-- Either both have a start, or none has. -/
  start : u.start.isNull = t.start.isNull

/-! ## Masking what the compiler puts together -/

/-- What a filter has become, with its operands masked. -/
def FilterForm.mask : FilterForm → FilterForm
  | .holds c => .holds c.mask
  | form => form

/-- A membership table without what it holds. -/
def MembershipTable.mask (m : MembershipTable) : MembershipTable := { m with values := [] }

/-- Clauses with their operands masked. -/
def FilterClauses.mask (fc : FilterClauses) : FilterClauses :=
  ⟨fc.conditions.map Condition.mask, fc.joins.map Join.mask, fc.tables.map MembershipTable.mask⟩

/-- A derived table under way with its operands masked. -/
def CompileM.Segment.mask (s : Segment) : Segment := { s with select := s.select.mask }

theorem FilterForm.filterMap_condition?_map_mask (forms : List FilterForm) :
    (forms.map mask).filterMap condition? = (forms.filterMap condition?).map Condition.mask := by
  rw [List.filterMap_map, List.map_filterMap]
  refine List.filterMap_congr fun form _ ↦ ?_
  cases form <;> rfl

theorem FilterClauses.mask_addCondition (fc : FilterClauses) (c : Condition) :
    (fc.addCondition c).mask = fc.mask.addCondition c.mask := by
  simp [mask, addCondition]

theorem FilterClauses.mask_addMember (fc : FilterClauses) (column : ColumnRef)
    (m : MembershipTable) : (fc.addMember column m).mask = fc.mask.addMember column m.mask := by
  cases hwithout : m.without <;>
    simp [mask, addMember, memberJoin, memberConditions, MembershipTable.mask, Join.mask,
      Condition.mask, hwithout]

theorem Join.absences_map_mask (js : List Join) : absences (js.map mask) = absences js := by
  rw [absences, absences, List.map_map]
  rfl

theorem CompileM.segmentOf_map_mask (segments : List Segment) (id : NodeId) :
    segmentOf (segments.map Segment.mask) id = segmentOf segments id := by
  rw [segmentOf, List.findIdx_map]
  rfl

theorem CompileM.outerRef_map_mask (segments : List Segment) :
    outerRef (segments.map Segment.mask) = outerRef segments := by
  funext leaf id column
  rw [outerRef, outerRef, segmentOf_map_mask, List.flatMap_map]
  rfl

theorem CompileM.outerProjections_map_mask (segments : List Segment) :
    outerProjections (segments.map Segment.mask) = outerProjections segments := by
  rw [outerProjections, outerProjections, List.zipIdx_map, List.flatMap_map]
  rfl

/-- Joining derived tables refers to what they project, and never looks at their conditions. -/
theorem SplitSelect.mask_ofSegments (leaf : NodeId) (segments : List CompileM.Segment)
    (js : List CompileM.Joint) (keys : List Tree.SortKey) :
    (ofSegments leaf segments js keys).mask =
      ofSegments leaf (segments.map CompileM.Segment.mask) js keys := by
  have hfirst : ((segments.map CompileM.Segment.mask).head?.map (·.select)).getD default =
      ((segments.head?.map (·.select)).getD default : Select).mask := by
    cases segments <;> rfl
  have hpairs : ((segments.map CompileM.Segment.mask).drop 1).zip js =
      ((segments.drop 1).zip js).map (Prod.map CompileM.Segment.mask id) := by
    rw [← List.map_drop, List.zip_map_left]
  rw [ofSegments, ofSegments, mask]
  simp only [CompileM.outerRef_map_mask, CompileM.outerProjections_map_mask, hfirst, hpairs,
    List.map_map]
  rfl

/-! ## Two runs side by side -/

namespace CompileM

variable {α β γ δ : Type}

/-- Two faults, or two answers that look the same through `g`. -/
inductive Together (g : α → γ) : Except QueryError α → Except QueryError α → Prop
  | fault (x x' : QueryError) : Together g (.error x) (.error x')
  | answer {a a' : α} (h : g a' = g a) : Together g (.ok a) (.ok a')

namespace Together

theorem refl (g : α → γ) (x : Except QueryError α) : Together g x x := by
  cases x with
  | error fault => exact .fault fault fault
  | ok a => exact .answer rfl

theorem bind {g : α → γ} {h : β → δ} {x x' : Except QueryError α}
    {k k' : α → Except QueryError β} (hx : Together g x x')
    (hk : ∀ a a', g a' = g a → Together h (k a) (k' a')) :
    Together h (x >>= k) (x' >>= k') := by
  cases hx with
  | fault x x' => exact .fault x x'
  | answer ha => exact hk _ _ ha

/-- Lists that are related element by element are answered together when their elements are. -/
theorem mapM {R : δ → δ → Prop} {g : β → γ} {f f' : δ → Except QueryError β} {as as' : List δ}
    (has : List.Forall₂ R as as') (hf : ∀ a a', R a a' → Together g (f a) (f' a')) :
    Together (List.map g) (as.mapM f) (as'.mapM f') := by
  induction has with
  | nil => exact .refl _ _
  | cons ha _ ih =>
    rw [List.mapM_cons, List.mapM_cons]
    refine .bind (hf _ _ ha) fun b b' hb ↦ .bind ih fun bs bs' hbs ↦ .answer ?_
    rw [List.map_cons, List.map_cons, hb, hbs]

end Together

theorem runOn_lift_ok_bind (a : α) (k : α → CompileM β) (s : CompileState) :
    (liftM (.ok a : Except QueryError α) >>= k).runOn s = (k a).runOn s := rfl

/-- From states that differ at most in the statement under way the two runs answer alike, seen
through `g`, and they leave such states again. -/
def Parallel (g : α → γ) (m m' : CompileM α) : Prop :=
  ∀ s w, Together g (m.runOn s).1 (m'.runOn { s with draft := w }).1 ∧
    ∃ w', (m'.runOn { s with draft := w }).2 = { (m.runOn s).2 with draft := w' }

namespace Parallel

theorem pure {g : α → γ} {a a' : α} (ha : g a' = g a) :
    Parallel g (Pure.pure a) (Pure.pure a') := fun _ w ↦ ⟨.answer ha, w, rfl⟩

theorem runOn_cases {g : α → γ} {m m' : CompileM α} (hm : Parallel g m m') (s : CompileState)
    (w : Draft) :
    (∃ x x' s₁ w₁, m.runOn s = (.error x, s₁) ∧
      m'.runOn { s with draft := w } = (.error x', { s₁ with draft := w₁ })) ∨
    ∃ a a' s₁ w₁, m.runOn s = (.ok a, s₁) ∧
      m'.runOn { s with draft := w } = (.ok a', { s₁ with draft := w₁ }) ∧ g a' = g a := by
  obtain ⟨hanswer, w₁, hstate⟩ := hm s w
  rcases hrun : m.runOn s with ⟨x, s₁⟩
  rcases hrun' : m'.runOn { s with draft := w } with ⟨x', s₁'⟩
  rw [hrun, hrun'] at hanswer hstate
  subst hstate
  cases hanswer with
  | fault x x' => exact .inl ⟨x, x', _, _, rfl, rfl⟩
  | answer ha => exact .inr ⟨_, _, _, _, rfl, rfl, ha⟩

theorem bind {g : α → γ} {h : β → δ} {m m' : CompileM α} {k k' : α → CompileM β}
    (hm : Parallel g m m') (hk : ∀ a a', g a' = g a → Parallel h (k a) (k' a')) :
    Parallel h (m >>= k) (m' >>= k') := by
  intro s w
  rw [runOn_bind, runOn_bind]
  rcases hm.runOn_cases s w with ⟨x, x', s₁, w₁, hrun, hrun'⟩ | ⟨a, a', s₁, w₁, hrun, hrun', ha⟩
  · rw [hrun, hrun']
    exact ⟨.fault x x', w₁, rfl⟩
  · rw [hrun, hrun']
    exact hk a a' ha s₁ w₁

/-- Answers are alike even if what comes last leaves different states. -/
theorem together_bind {g : α → γ} {h : β → δ} {m m' : CompileM α} {k k' : α → CompileM β}
    (hm : Parallel g m m') (hk : ∀ a a' s w, g a' = g a →
      Together h ((k a).runOn s).1 ((k' a').runOn { s with draft := w }).1)
    (s : CompileState) (w : Draft) :
    Together h ((m >>= k).runOn s).1 ((m' >>= k').runOn { s with draft := w }).1 := by
  rw [runOn_bind, runOn_bind]
  rcases hm.runOn_cases s w with ⟨x, x', s₁, w₁, hrun, hrun'⟩ | ⟨a, a', s₁, w₁, hrun, hrun', ha⟩
  · rw [hrun, hrun']
    exact .fault x x'
  · rw [hrun, hrun']
    exact hk a a' s₁ w₁ ha

/-- A step that answers the same in both comes first. -/
theorem bind_same {h : β → δ} {m m' : CompileM α} {k k' : α → CompileM β}
    (hm : Parallel (fun a ↦ a) m m') (hk : ∀ a, Parallel h (k a) (k' a)) :
    Parallel h (m >>= k) (m' >>= k') := by
  refine .bind hm ?_
  rintro a a' rfl
  exact hk _

theorem lift_bind {g : α → γ} {h : β → δ} {x x' : Except QueryError α} {k k' : α → CompileM β}
    (hx : Together g x x') (hk : ∀ a a', g a' = g a → Parallel h (k a) (k' a')) :
    Parallel h (liftM x >>= k) (liftM x' >>= k') := by
  cases hx with
  | fault x x' => exact fun _ w ↦ ⟨.fault x x', w, rfl⟩
  | answer ha => exact hk _ _ ha

theorem lift_bind_same {h : β → δ} {x : Except QueryError α} {k k' : α → CompileM β}
    (hk : ∀ a, Parallel h (k a) (k' a)) : Parallel h (liftM x >>= k) (liftM x >>= k') := by
  refine .lift_bind (.refl (fun a ↦ a) x) ?_
  rintro a a' rfl
  exact hk _

/-- What is written need not be the same. -/
theorem drafting_bind {h : β → δ} {m m' : DraftM Unit} {k k' : Unit → CompileM β}
    (hk : Parallel h (k ()) (k' ())) : Parallel h (drafting m >>= k) (drafting m' >>= k') :=
  .bind_same (fun _ w ↦ ⟨.answer rfl, (m' w).2, rfl⟩) fun _ ↦ hk

theorem ite {g : α → γ} {c : Prop} [Decidable c] {m₁ m₁' m₂ m₂' : CompileM α}
    (h₁ : Parallel g m₁ m₁') (h₂ : Parallel g m₂ m₂') :
    Parallel g (if c then m₁ else m₂) (if c then m₁' else m₂') := by
  split
  · exact h₁
  · exact h₂

theorem foldlM {R : δ → δ → Prop} {g : β → γ} {f f' : β → δ → CompileM β} {as as' : List δ}
    (has : List.Forall₂ R as as')
    (hf : ∀ a a' b b', R a a' → g b' = g b → Parallel g (f b a) (f' b' a')) {b b' : β}
    (hb : g b' = g b) : Parallel g (as.foldlM f b) (as'.foldlM f' b') := by
  induction has generalizing b b' with
  | nil =>
    rw [List.foldlM_nil, List.foldlM_nil]
    exact .pure hb
  | cons ha _ ih =>
    rw [List.foldlM_cons, List.foldlM_cons]
    exact .bind (hf _ _ _ _ ha hb) fun _ _ hb₁ ↦ ih hb₁

theorem mapM {f f' : δ → CompileM β} (hf : ∀ a, Parallel (fun b ↦ b) (f a) (f' a))
    (as : List δ) : Parallel (fun bs ↦ bs) (as.mapM f) (as.mapM f') := by
  induction as with
  | nil => exact .pure rfl
  | cons a as ih =>
    rw [List.mapM_cons, List.mapM_cons]
    exact .bind_same (hf a) fun b ↦ .bind_same ih fun bs ↦ .pure rfl

theorem tryCatch {g : α → γ} {m m' : CompileM α} (hm : Parallel g m m')
    (rename rename' : QueryError → QueryError) :
    Parallel g (tryCatch m fun x ↦ throw (rename x)) (tryCatch m' fun x ↦ throw (rename' x)) := by
  intro s w
  rw [runOn_tryCatch, runOn_tryCatch]
  rcases hm.runOn_cases s w with ⟨x, x', s₁, w₁, hrun, hrun'⟩ | ⟨a, a', s₁, w₁, hrun, hrun', ha⟩
  · rw [hrun, hrun']
    exact ⟨.fault _ _, w₁, rfl⟩
  · rw [hrun, hrun']
    exact ⟨.answer ha, w₁, rfl⟩

/-! ### Names and aliases -/

theorem nextName (c : Compiler) (key : String) :
    Parallel (fun a ↦ a) (nextName c key) (nextName c key) := fun _ w ↦ ⟨.answer rfl, w, rfl⟩

theorem project (id : NodeId) (n : Node) (role : Role) (column : String) :
    Parallel (fun a ↦ a) (project id n role column) (project id n role column) :=
  fun _ w ↦ ⟨.answer rfl, w, rfl⟩

theorem projectNode (t : Tree) (id : NodeId) (n : Node) (role : Role) :
    Parallel (fun a ↦ a) (projectNode t id n role) (projectNode t id n role) :=
  .lift_bind_same (.mapM fun column ↦ .project id n role column)

theorem projectSteps (t : Tree) (leaf : NodeId) (ids : List NodeId) :
    Parallel (fun a ↦ a) (projectSteps t leaf ids) (projectSteps t leaf ids) := by
  refine .bind_same (.mapM (fun id ↦ .lift_bind_same fun n ↦ ?_) ids) fun _ ↦ .pure rfl
  have hnone : Parallel (fun a ↦ a) (Pure.pure [] : CompileM (List Projected)) (Pure.pure []) :=
    .pure rfl
  refine .ite (.bind_same (.projectNode t id n .result) fun _ ↦ ?_) (.bind_same hnone fun _ ↦ ?_)
  all_goals
    refine .ite (.bind_same (.projectNode t id n .labeled) fun _ ↦ ?_) (.bind_same hnone fun _ ↦ ?_)
    all_goals exact .pure rfl

theorem projectHelpers (t : Tree) (leaf : NodeId) (needed : List (NodeId × String))
    (ids : List NodeId) : Parallel (fun a ↦ a) (projectHelpers t leaf needed ids)
      (projectHelpers t leaf needed ids) :=
  .bind_same (.mapM (fun id ↦ .lift_bind_same fun n ↦
    .mapM (fun column ↦ .project id n .helper column) _) ids) fun _ ↦ .pure rfl

end Parallel

end CompileM

open CompileM

/-! ## What filters become -/

namespace Filter.Resembles

variable {f f' : Filter} (h : f.Resembles f')
include h

theorem isBulk (d : Dialect) : f'.isBulk d = f.isBulk d := by
  rw [Filter.isBulk, Filter.isBulk, h.length]

theorem isEmpty : f'.values.isEmpty = f.values.isEmpty := by
  rw [Bool.eq_iff_iff, List.isEmpty_iff_length_eq_zero, List.isEmpty_iff_length_eq_zero, h.length]

theorem column (catalog : Except QueryError Topology) (table : Table) :
    f'.column catalog table = f.column catalog table := by
  rw [Filter.column, Filter.column, h.key]

/-- Only the type of the operand decides whether there is a text to compare with. -/
theorem textOperand : Together (fun _ ↦ ()) f.textOperand f'.textOperand := by
  have hstring := h.string
  rw [Filter.textOperand, Filter.textOperand]
  cases hv : f.value <;> cases hv' : f'.value <;>
    simp only [hv, hv', Value.isString, Bool.false_eq_true, Bool.true_eq_false] at hstring <;>
    first | exact .answer rfl | exact .fault _ _

theorem among (ref : ColumnRef) (negated : Bool) :
    (Condition.among ref negated f'.values).mask = (Condition.among ref negated f.values).mask := by
  simp only [Condition.mask, List.map_const', h.length]

theorem like (ref : ColumnRef) (negated : Bool) :
    Together FilterForm.mask
      (do .ok (.holds (.like ref negated (f.predicate.pattern (← f.textOperand)))))
      (do .ok (.holds (.like ref negated (f'.predicate.pattern (← f'.textOperand))))) :=
  .bind h.textOperand fun _ _ _ ↦ .answer rfl

/-- Whatever the predicate, what the filters become on a column is the same once it is masked. -/
theorem formOn (d : Dialect) (allowBulk : Bool) (ref : ColumnRef) (type : PropertyType) :
    Together FilterForm.mask (f.formOn d allowBulk ref type) (f'.formOn d allowBulk ref type) := by
  have hlike := h.like ref
  have hamong : ∀ negated, Together FilterForm.mask (.ok (.holds (.among ref negated f.values)))
      (.ok (.holds (.among ref negated f'.values))) :=
    fun negated ↦ .answer (congrArg FilterForm.holds (h.among ref negated))
  rw [Filter.formOn, Filter.formOn, h.isBulk, h.isEmpty]
  rw [h.predicate] at hlike ⊢
  generalize f.predicate = predicate at hlike ⊢
  cases predicate with
  | within =>
    dsimp only
    split
    · exact .answer rfl
    · exact hamong false
  | without =>
    dsimp only
    split
    · exact .answer rfl
    · split
      · exact .answer rfl
      · exact hamong true
  | startsWith | endsWith | contains => exact hlike false
  | notContains => exact hlike true
  | other code => exact .fault _ _
  | _ => exact .answer rfl

theorem form (d : Dialect) (catalog : Except QueryError Topology) (allowBulk : Bool)
    (table : Table) (source : Source) : Together FilterForm.mask
      (f.form d catalog allowBulk table source) (f'.form d catalog allowBulk table source) := by
  by_cases hlabel : f.key = labelKey
  · rw [h.label hlabel]
    exact .refl _ _
  · rw [Filter.form, Filter.form, h.key, if_neg hlabel, if_neg hlabel, h.column]
    refine .bind (.refl (fun a ↦ a) _) ?_
    rintro a a' rfl
    exact h.formOn d allowBulk _ _

end Filter.Resembles

namespace Tree.Resembles

variable {t u : Tree} (h : t.Resembles u)
include h

/-! ## What never comes across a filter -/

theorem topology : u.topology = t.topology := by
  rw [Tree.topology, Tree.topology, h.catalog]

theorem columnsOf (table : Table) : u.columnsOf table = t.columnsOf table := by
  rw [Tree.columnsOf, Tree.columnsOf, h.topology]

theorem getElem?_cases (id : NodeId) : (t.nodes[id]? = none ∧ u.nodes[id]? = none) ∨
    ∃ n n', t.nodes[id]? = some n ∧ u.nodes[id]? = some n' ∧ n.Resembles n' := by
  have hrel := h.nodes id
  generalize t.nodes[id]? = x at hrel ⊢
  generalize u.nodes[id]? = x' at hrel ⊢
  cases hrel with
  | none => exact .inl ⟨rfl, rfl⟩
  | some hn => exact .inr ⟨_, _, rfl, rfl, hn⟩

theorem sameFrame : t.SameFrame u := by
  refine List.ext_getElem? fun id ↦ ?_
  rw [across_getElem?, across_getElem?]
  rcases h.getElem?_cases id with ⟨ht, hu⟩ | ⟨n, _, ht, hu, _, rfl, -⟩
  · rw [ht, hu]
  · rw [ht, hu]
    rfl

theorem node?_cases (id : NodeId) : (t.node? id = none ∧ u.node? id = none) ∨
    ∃ n n', t.node? id = some n ∧ u.node? id = some n' ∧ n.Resembles n' := by
  rw [node?, node?]
  rcases h.getElem?_cases id with ⟨ht, hu⟩ | ⟨n, n', ht, hu, hn⟩
  · rw [ht, hu]
    exact .inl ⟨rfl, rfl⟩
  · have hremoved : n'.removed = n.removed := by
      obtain ⟨_, rfl, -⟩ := hn
      rfl
    rw [ht, hu, Option.filter_some, Option.filter_some, hremoved]
    split
    · exact .inr ⟨n, n', rfl, rfl, hn⟩
    · exact .inl ⟨rfl, rfl⟩

theorem liveNode_cases (id : NodeId) :
    (t.liveNode id = .error .absent ∧ u.liveNode id = .error .absent) ∨
      ∃ n n', t.liveNode id = .ok n ∧ u.liveNode id = .ok n' ∧ n.Resembles n' := by
  rw [liveNode, liveNode]
  rcases h.node?_cases id with ⟨ht, hu⟩ | ⟨n, n', ht, hu, hn⟩
  · rw [ht, hu]
    exact .inl ⟨rfl, rfl⟩
  · rw [ht, hu]
    exact .inr ⟨n, n', rfl, rfl, hn⟩

/-- What is done with a live step is the same, as long as it does not look at the filters. -/
theorem liveNode_bind {β : Type} {k k' : Node → Except QueryError β}
    (hk : ∀ n n', n.Resembles n' → k' n' = k n) (id : NodeId) :
    u.liveNode id >>= k' = t.liveNode id >>= k := by
  rcases h.liveNode_cases id with ⟨ht, hu⟩ | ⟨n, n', ht, hu, hn⟩
  · rw [ht, hu]
    rfl
  · rw [ht, hu]
    exact hk n n' hn

theorem liveNode_bindM {β : Type} {k k' : Node → CompileM β}
    (hk : ∀ n n', n.Resembles n' → k' n' = k n) (id : NodeId) :
    (liftM (u.liveNode id) >>= k' : CompileM β) = liftM (t.liveNode id) >>= k := by
  rcases h.liveNode_cases id with ⟨ht, hu⟩ | ⟨n, n', ht, hu, hn⟩
  · rw [ht, hu]
    rfl
  · rw [ht, hu]
    exact hk n n' hn

theorem correlation (id : NodeId) {above above' below below' : Node}
    (habove : above.Resembles above') (hbelow : below.Resembles below') :
    u.correlation id above' below' = t.correlation id above below := by
  obtain ⟨_, rfl, -⟩ := habove
  obtain ⟨_, rfl, -⟩ := hbelow
  rw [Tree.correlation, Tree.correlation, h.topology]
  rfl

theorem sortKeys (ids : List NodeId) : u.sortKeys ids = t.sortKeys ids := by
  have hkey : ∀ id o, u.sortKey id o = t.sortKey id o := by
    intro id o
    rw [sortKey, sortKey, sortNode, sortNode, h.sameFrame.findLabeled, h.topology]
    refine congrArg (bind _) (funext fun target ↦ h.liveNode_bind ?_ target)
    rintro n _ ⟨_, rfl, -⟩
    rfl
  have hterms : (fun id ↦ (do (← u.liveNode id).orderings.mapM (u.sortKey id))) =
      fun id ↦ (do (← t.liveNode id).orderings.mapM (t.sortKey id)) := by
    funext id
    refine h.liveNode_bind ?_ id
    rintro n _ ⟨_, rfl, -⟩
    rw [funext (hkey id)]
  rw [Tree.sortKeys, Tree.sortKeys, hterms]

theorem stepJoins (p : Path) (ids : List NodeId) : u.stepJoins p ids = t.stepJoins p ids := by
  have hjoin : ∀ id, u.stepJoin p id = t.stepJoin p id := by
    intro id
    refine h.liveNode_bind (fun n n' hn ↦ ?_) id
    have hcorrelation : ∀ above above', above.Resembles above' →
        u.correlation id above' n' = t.correlation id above n :=
      fun _ _ habove ↦ h.correlation id habove hn
    obtain ⟨_, rfl, -⟩ := hn
    refine h.liveNode_bind (fun above above' habove ↦ ?_) _
    rw [hcorrelation above above' habove]
  rw [Tree.stepJoins, Tree.stepJoins, funext hjoin]

theorem joints (runs : List (List NodeId)) : CompileM.joints u runs = CompileM.joints t runs := by
  induction runs with
  | nil => rfl
  | cons before rest ih =>
    cases rest with
    | nil => rfl
    | cons after rest =>
      rw [CompileM.joints, CompileM.joints]
      refine h.liveNode_bind (fun n n' hn ↦ h.liveNode_bind (fun m m' hm ↦ ?_) _) _
      rw [h.correlation _ hn hm, ih]

theorem projectNode (id : NodeId) {n n' : Node} (hn : n.Resembles n') (role : Role) :
    CompileM.projectNode u id n' role = CompileM.projectNode t id n role := by
  obtain ⟨_, rfl, -⟩ := hn
  rw [CompileM.projectNode, CompileM.projectNode, h.columnsOf]
  rfl

theorem projectSteps (leaf : NodeId) (ids : List NodeId) :
    CompileM.projectSteps u leaf ids = CompileM.projectSteps t leaf ids := by
  rw [CompileM.projectSteps, CompileM.projectSteps]
  refine congrArg (fun f ↦ List.mapM f ids >>= fun parts ↦ pure parts.flatten)
    (funext fun id ↦ h.liveNode_bindM (fun n n' hn ↦ ?_) id)
  have hlabeled : n'.isLabeled = n.isLabeled := by
    obtain ⟨_, rfl, -⟩ := hn
    rfl
  rw [h.projectNode id hn, h.projectNode id hn, hlabeled]

theorem projectHelpers (leaf : NodeId) (needed : List (NodeId × String)) (ids : List NodeId) :
    CompileM.projectHelpers u leaf needed ids = CompileM.projectHelpers t leaf needed ids := by
  have hcolumns : ∀ id, helperColumns u leaf needed id = helperColumns t leaf needed id := by
    intro id
    have hlabeled : (u.node? id).map (·.isLabeled) = (t.node? id).map (·.isLabeled) := by
      rcases h.node?_cases id with ⟨ht, hu⟩ | ⟨n, _, ht, hu, _, rfl, -⟩
      · rw [ht, hu]
      · rw [ht, hu]
        rfl
    rw [helperColumns, helperColumns, hlabeled]
  rw [CompileM.projectHelpers, CompileM.projectHelpers]
  refine congrArg (fun f ↦ List.mapM f ids >>= fun parts ↦ pure parts.flatten)
    (funext fun id ↦ h.liveNode_bindM ?_ id)
  rintro n _ ⟨_, rfl, -⟩
  rw [hcolumns]
  rfl

/-! ## Joins and clauses -/

theorem branchJoin (d : Dialect) (p : Path) {above above' : Node} (habove : above.Resembles above')
    (id : NodeId) (j : ℕ) :
    Together Join.mask (t.branchJoin d p above id j) (u.branchJoin d p above' id j) := by
  rw [Tree.branchJoin, Tree.branchJoin]
  rcases h.node?_cases id with ⟨ht, hu⟩ | ⟨n, n', ht, hu, hn⟩
  · rw [ht, hu]
    exact .fault _ _
  · have hcorrelation := h.correlation id habove hn
    rw [ht, hu]
    obtain ⟨_, rfl, hfilters⟩ := hn
    dsimp only
    split
    · exact .fault _ _
    · rw [hcorrelation, h.topology]
      refine .bind (.refl (fun c ↦ c) _) ?_
      rintro c _ rfl
      refine .bind (.mapM hfilters fun f f' hf ↦ hf.form d _ false _ _) fun forms forms' hforms ↦ ?_
      refine .answer ?_
      simp only [Join.mask, List.map_cons, ← FilterForm.filterMap_condition?_map_mask, hforms]

theorem branchJoins (d : Dialect) (p : Path) (branches : List NodeId) :
    Together (List.map Join.mask) (t.branchJoins d p branches) (u.branchJoins d p branches) := by
  rw [Tree.branchJoins, Tree.branchJoins]
  rcases h.liveNode_cases p.leaf with ⟨ht, hu⟩ | ⟨above, above', ht, hu, habove⟩
  · rw [ht, hu]
    exact .fault _ _
  · rw [ht, hu]
    refine .mapM (List.forall₂_same.mpr fun _ _ ↦ rfl) ?_
    rintro ⟨id, j⟩ _ rfl
    exact h.branchJoin d p habove id j

theorem startConditions (p : Path) : (u.startConditions p).map Condition.mask =
    (t.startConditions p).map Condition.mask := by
  rw [Tree.startConditions, Tree.startConditions, h.start]
  split <;> rfl

theorem addFilter (c : Compiler) (table : Table) (source : Source) {f f' : Filter}
    (hf : f.Resembles f') {fc fc' : FilterClauses} (hfc : fc'.mask = fc.mask) :
    Parallel FilterClauses.mask (CompileM.addFilter c t table source fc f)
      (CompileM.addFilter c u table source fc' f') := by
  rw [CompileM.addFilter, CompileM.addFilter, h.topology, hf.key]
  refine .lift_bind (hf.form c.dialect t.topology true table source) fun form form' hform ↦ ?_
  -- forms that are the same once they are masked are of one kind
  cases form with
  | always =>
    cases form' with
    | always => exact .pure hfc
    | _ => cases hform
  | holds condition =>
    cases form' with
    | holds condition' =>
      refine .drafting_bind (.pure ?_)
      rw [FilterClauses.mask_addCondition, FilterClauses.mask_addCondition, hfc,
        FilterForm.holds.inj hform]
    | _ => cases hform
  | member column type without =>
    cases form' with
    | member column' type' without' =>
      obtain ⟨rfl, rfl, rfl⟩ := FilterForm.member.inj hform
      refine .bind_same (.nextName c f.key) fun name ↦ .drafting_bind (.pure ?_)
      rw [FilterClauses.mask_addMember, FilterClauses.mask_addMember, hfc]
      rfl
    | _ => cases hform

theorem addFilters (c : Compiler) (p : Path) (id : NodeId) {fc fc' : FilterClauses}
    (hfc : fc'.mask = fc.mask) :
    Parallel FilterClauses.mask (CompileM.addFilters c t p fc id)
      (CompileM.addFilters c u p fc' id) := by
  rw [CompileM.addFilters, CompileM.addFilters]
  rcases h.liveNode_cases id with ⟨ht, hu⟩ | ⟨n, n', ht, hu, _, rfl, hfilters⟩
  · rw [ht, hu]
    exact fun _ w ↦ ⟨.fault _ _, w, rfl⟩
  · rw [ht, hu]
    exact .foldlM (b := fc) hfilters
      (fun f f' _ _ hf hb ↦ h.addFilter c n.table (p.source id) hf hb) hfc

/-! ## Selects and statements -/

theorem select (c : Compiler) (p : Path) (projected : List Projected) (ids branches : List NodeId)
    (starts ends : Bool) (order : List SortColumn) {tables tables' : List MembershipTable}
    (htables : tables'.map MembershipTable.mask = tables.map MembershipTable.mask) :
    Parallel (Prod.map Select.mask (List.map MembershipTable.mask))
      (CompileM.select c t p projected ids branches tables starts ends order)
      (CompileM.select c u p projected ids branches tables' starts ends order) := by
  -- the walk over the filters, once the joins of the branches are there
  have hrest : ∀ chain optional optional' (opened opened' : DraftM Unit)
      (closed closed' : FilterClauses → DraftM Unit),
      optional'.map Join.mask = optional.map Join.mask →
      Parallel (Prod.map Select.mask (List.map MembershipTable.mask))
        (do
          drafting opened
          let clauses ← ids.foldlM (CompileM.addFilters c t p) { tables }
          drafting (closed clauses)
          return ((⟨chain, optional, clauses⟩ : SelectParts).select t p projected
            ⟨ids, starts, ends⟩ order, clauses.tables))
        (do
          drafting opened'
          let clauses ← ids.foldlM (CompileM.addFilters c u p) { tables := tables' }
          drafting (closed' clauses)
          return ((⟨chain, optional', clauses⟩ : SelectParts).select u p projected
            ⟨ids, starts, ends⟩ order, clauses.tables)) := by
    intro chain optional optional' opened opened' closed closed' hoptional
    refine .drafting_bind <| .bind
      (.foldlM (g := FilterClauses.mask) (List.forall₂_same.mpr fun _ _ ↦ rfl) ?_ ?_) ?_
    · rintro id _ fc fc' rfl hfc
      exact h.addFilters c p id hfc
    · simp only [FilterClauses.mask, htables]
    · intro clauses clauses' hclauses
      have hconditions := congrArg FilterClauses.conditions hclauses
      have hjoins := congrArg FilterClauses.joins hclauses
      have habsences : Join.absences optional' = Join.absences optional := by
        rw [← Join.absences_map_mask, hoptional, Join.absences_map_mask]
      have hstart : (if starts then u.startConditions p else []).map Condition.mask =
          (if starts then t.startConditions p else []).map Condition.mask := by
        cases starts with
        | false => rfl
        | true => exact h.startConditions p
      simp only [FilterClauses.mask] at hconditions hjoins
      refine .drafting_bind (.pure (Prod.ext ?_ (congrArg FilterClauses.tables hclauses)))
      simp only [Prod.map_fst, SelectParts.select, Select.mask, List.map_append, hconditions,
        hjoins, hoptional, habsences, hstart, h.sameFrame.tableOf]
  rw [CompileM.select, CompileM.select, h.stepJoins]
  refine .lift_bind_same fun chain ↦ .ite ?_ ?_
  · exact .lift_bind (h.branchJoins c.dialect p branches) fun _ _ ↦ hrest chain _ _ _ _ _ _
  · exact .bind_same (.pure rfl) fun optional ↦ hrest chain optional optional _ _ _ _ rfl

theorem single (c : Compiler) (p : Path) (branches : List NodeId) :
    Parallel (Prod.map Query.mask (List.map MembershipTable.mask))
      (CompileM.single c t p branches) (CompileM.single c u p branches) := by
  rw [CompileM.single, CompileM.single, h.sortKeys, h.projectSteps]
  refine .lift_bind_same fun keys ↦ .bind_same (.projectSteps t p.leaf p.all) fun projected ↦ ?_
  refine .bind (h.select c p projected p.all branches true true _ rfl) fun q q' hq ↦
    .drafting_bind (.pure ?_)
  obtain ⟨hquery, htables⟩ := Prod.mk.inj hq
  exact Prod.ext (congrArg Query.single hquery) htables

theorem segmentSelects (c : Compiler) (p : Path) (branches : List NodeId)
    (needed : List (NodeId × String)) (starts : Bool) (runs : List (List NodeId))
    {tables tables' : List MembershipTable}
    (htables : tables'.map MembershipTable.mask = tables.map MembershipTable.mask) :
    Parallel (Prod.map (List.map Segment.mask) (List.map MembershipTable.mask))
      (CompileM.segmentSelects c t p branches needed starts tables runs)
      (CompileM.segmentSelects c u p branches needed starts tables' runs) := by
  induction runs generalizing starts tables tables' with
  | nil => exact .pure (Prod.ext rfl htables)
  | cons run rest ih =>
    rw [CompileM.segmentSelects, CompileM.segmentSelects]
    dsimp only
    rw [h.projectSteps, h.projectHelpers]
    refine .bind_same (.projectSteps t p.leaf _) fun shown ↦ ?_
    refine .bind_same (.projectHelpers t p.leaf needed _) fun helpers ↦ ?_
    -- the tables named so far go on to the next derived table, alike up to what they hold
    refine .bind (h.select c p (shown ++ helpers) _ branches starts rest.isEmpty [] htables)
      fun q q' hq ↦ ?_
    obtain ⟨hselect, htables₁⟩ := Prod.mk.inj hq
    refine .bind (ih false htables₁) fun others others' hothers ↦ .pure ?_
    obtain ⟨hsegments, htables₂⟩ := Prod.mk.inj hothers
    refine Prod.ext ?_ htables₂
    simp only [Prod.map_fst, List.map_cons, Segment.mask, hselect]
    exact congrArg _ hsegments

theorem split (c : Compiler) (p : Path) (runs : List (List NodeId)) (branches : List NodeId) :
    Parallel (Prod.map Query.mask (List.map MembershipTable.mask))
      (CompileM.split c t p runs branches) (CompileM.split c u p runs branches) := by
  rw [CompileM.split, CompileM.split, h.sortKeys, h.joints]
  refine .lift_bind_same fun keys ↦ .lift_bind_same fun js ↦ ?_
  refine .bind (h.segmentSelects c p branches _ true runs rfl) fun x x' hx ↦
    .drafting_bind (.pure ?_)
  obtain ⟨hsegments, htables⟩ := Prod.mk.inj hx
  refine Prod.ext ?_ htables
  change Query.split (SplitSelect.ofSegments p.leaf x'.1 js keys).mask =
    Query.split (SplitSelect.ofSegments p.leaf x.1 js keys).mask
  rw [SplitSelect.mask_ofSegments, SplitSelect.mask_ofSegments, hsegments]

theorem body (c : Compiler) (p : Path) (branches : List NodeId) :
    Parallel (Prod.map Query.mask (List.map MembershipTable.mask))
      (CompileM.body c t p branches) (CompileM.body c u p branches) := by
  -- where the path is cut depends on its tables only
  rw [CompileM.body, CompileM.body, h.sameFrame.segments]
  split
  · exact h.single c p branches
  · exact h.split c p _ branches

/-- **Operands never reach the text.** For trees that resemble each other a path compiles for both
or for neither; when it does, the two texts are the same and bind as many operands. -/
theorem sql_statement (c : Compiler) (mode : Mode) (p : Path) (branches : List NodeId)
    (s : CompileState) :
    Together (fun st : Statement ↦ (st.sql, st.operands.length))
      ((CompileM.statement c t mode p branches).runOn s).1
      ((CompileM.statement c u mode p branches).runOn s).1 := by
  rw [statement_eq_plainStatement, statement_eq_plainStatement]
  have hblank : Parallel (fun a ↦ a) (drafting (set ({} : Draft))) (drafting (set ({} : Draft))) :=
    fun _ _ ↦ ⟨.answer rfl, {}, rfl⟩
  refine hblank.together_bind (fun _ _ s w _ ↦ ?_) s s.draft
  rcases h.liveNode_cases p.leaf with ⟨ht, hu⟩ | ⟨n, n', ht, hu, -⟩
  · rw [ht, hu]
    exact .fault _ _
  · -- the statement is put on record last, so the states part there while the answers agree
    rw [ht, hu, runOn_lift_ok_bind, runOn_lift_ok_bind]
    refine ((h.body c p branches).tryCatch _ _).together_bind (fun q q' s₁ w₁ hq ↦ ?_) s w
    obtain ⟨htext, hlength⟩ := Query.render_eq_of_mask_eq (Prod.mk.inj hq).1 c.dialect
    exact .answer (congrArg₂ Prod.mk htext hlength)

end Tree.Resembles

/-! ### Operands that look like SQL -/

/-- The filter with operands that would close a string or a list if they were written inline. -/
def Filter.hostile (f : Filter) : Filter :=
  { f with
    value := if f.value.isString then .str "'; DROP TABLE \"V_a\"; --" else f.value
    values := f.values.map fun _ ↦ .str "?) OR (1 = 1 -- $1" }

theorem Filter.resembles_hostile {f : Filter} (hkey : f.key ≠ labelKey) :
    f.Resembles f.hostile where
  key := rfl
  predicate := rfl
  label := fun heq ↦ absurd heq hkey
  string := by
    rw [hostile]
    by_cases hstring : f.value.isString
    · rw [if_pos hstring, hstring]
      rfl
    · rw [if_neg hstring]
  length := List.length_map ..

/-- The tree with such operands in all its filters, and such a start. -/
def hostileTree : Tree :=
  { annotationTree with
    nodes := annotationTree.nodes.map fun n ↦ { n with filters := n.filters.map Filter.hostile }
    start := .str "7' OR '1' = '1" }

theorem resembles_hostileTree : annotationTree.Resembles hostileTree where
  catalog := rfl
  nodes := by
    have hkeys : ∀ n ∈ annotationTree.nodes.toList, ∀ f ∈ n.filters, f.key ≠ labelKey := by
      decide +kernel
    intro id
    rw [hostileTree, Array.getElem?_map]
    cases hn : annotationTree.nodes[id]? with
    | none => exact .none
    | some n =>
      have hmem : n ∈ annotationTree.nodes.toList := (Array.mem_of_getElem? hn).val
      refine .some ⟨_, rfl, List.forall₂_map_right_iff.mpr (List.forall₂_same.mpr fun f hf ↦ ?_)⟩
      exact f.resembles_hostile (hkeys n hmem f hf)
  leaves := rfl
  rootInvalid := rfl
  start := by decide +kernel

/-- They are bound, and the text is the one with other operands. -/
theorem sql_hostileTree : annotationTree.Resembles hostileTree ∧ ∃ st st' s s',
    (CompileM.statement { dialect := ⟨.postgres, "s", 2, true⟩ } annotationTree .optional
      ⟨[1, 2, 3, 4]⟩ [5]).Yields {} st s ∧
    (CompileM.statement { dialect := ⟨.postgres, "s", 2, true⟩ } hostileTree .optional
      ⟨[1, 2, 3, 4]⟩ [5]).Yields {} st' s' ∧
    st'.sql = st.sql ∧ st.operands.length = 8 ∧ st'.operands.length = 8 := by
  obtain ⟨st, s, hst, hcount⟩ := CompileM.exists_yields (s := {})
    (m := CompileM.statement { dialect := ⟨.postgres, "s", 2, true⟩ } annotationTree .optional
      ⟨[1, 2, 3, 4]⟩ [5])
    (P := fun st _ ↦ st.operands.length = 8) (by decide +kernel)
  have htogether := resembles_hostileTree.sql_statement { dialect := ⟨.postgres, "s", 2, true⟩ }
    .optional ⟨[1, 2, 3, 4]⟩ [5] {}
  rcases hrun : (CompileM.statement { dialect := ⟨.postgres, "s", 2, true⟩ } hostileTree .optional
    ⟨[1, 2, 3, 4]⟩ [5]).runOn {} with ⟨x, s'⟩
  rw [hst, hrun] at htogether
  cases htogether with
  | @answer _ st' heq =>
    obtain ⟨hsql, hlength⟩ := Prod.mk.inj heq
    have hcount := of_decide_eq_true hcount
    exact ⟨resembles_hostileTree, st, st', s, s', hst, hrun, hsql, hcount, hlength.trans hcount⟩

end PathQuery
