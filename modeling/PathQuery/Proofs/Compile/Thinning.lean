import PathQuery.Proofs.Compile.Follow
import PathQuery.Proofs.Compile.Writing
import PathQuery.Proofs.Query.FilterOutcome

/-!
# Compiling without idle filters

A filter that lets every row pass leaves no trace in a statement, so a path compiles to the same
statement when such filters are taken away. One tree *thins* another if it has the same steps, up
to filters of this kind, as far as a set of steps goes that is closed upwards: this set is what
compiling a path may look at. The walk below goes once over the compiler and shows for each of its
parts that what succeeds on the one tree succeeds on the other.
-/

namespace PathQuery

/-! ## Idle filters -/

/-- A filter that lets every row pass, as far as it compiles. -/
def Filter.Idle (catalog : Except QueryError Topology) (table : Table) (f : Filter) : Prop :=
  ∀ ⦃d allowBulk source form⦄, f.form d catalog allowBulk table source = .ok form → form = .always

/-- A step without some of its idle filters. -/
def Node.Thinner (catalog : Except QueryError Topology) (n n' : Node) : Prop :=
  ∃ keep : Filter → Bool, n' = { n with filters := n.filters.filter keep } ∧
    ∀ f ∈ n.filters, ¬ keep f → f.Idle catalog n.table

theorem Node.Thinner.refl (catalog : Except QueryError Topology) (n : Node) :
    n.Thinner catalog n := by
  refine ⟨fun _ ↦ true, ?_, fun _ _ hkeep ↦ absurd rfl hkeep⟩
  rw [List.filter_true]

/-- The conditions of filters that are compiled one by one do not show the idle ones. -/
theorem Filter.exists_mapM_form {d : Dialect} {catalog : Except QueryError Topology}
    {allowBulk : Bool} {table : Table} {source : Source} {keep : Filter → Bool} {fs : List Filter}
    {forms : List FilterForm} (hidle : ∀ f ∈ fs, ¬ keep f → f.Idle catalog table)
    (h : fs.mapM (Filter.form d catalog allowBulk table source) = .ok forms) :
    ∃ forms', (fs.filter keep).mapM (Filter.form d catalog allowBulk table source) = .ok forms' ∧
      forms'.filterMap FilterForm.condition? = forms.filterMap FilterForm.condition? := by
  rw [mapM_eq_ok_iff] at h
  simp only [mapM_eq_ok_iff]
  induction h with
  | nil => exact ⟨[], .nil, rfl⟩
  | @cons f form fs forms hform _ ih =>
    rw [List.forall_mem_cons] at hidle
    obtain ⟨forms', hforms', hconditions⟩ := ih hidle.2
    by_cases hkeep : keep f
    · refine ⟨form :: forms', ?_, ?_⟩
      · rw [List.filter_cons_of_pos hkeep]
        exact .cons hform hforms'
      · rw [List.filterMap_cons, List.filterMap_cons, hconditions]
    · obtain rfl := hidle.1 hkeep hform
      refine ⟨forms', ?_, ?_⟩
      · rwa [List.filter_cons_of_neg hkeep]
      · rw [hconditions]
        rfl

/-- An idle filter adds nothing to the clauses. -/
theorem CompileM.eq_of_yields_addFilter {c : Compiler} {t : Tree} {table : Table} {source : Source}
    {f : Filter} (hidle : f.Idle t.topology table) {fc fc' : FilterClauses} {s s' : CompileState}
    (h : (addFilter c t table source fc f).Yields s fc' s') : fc' = fc ∧ s' = s := by
  obtain ⟨form, s₁, hlift, h₁⟩ := yields_bind_iff.mp h
  obtain ⟨hform, rfl⟩ := yields_lift_iff.mp hlift
  obtain rfl := hidle hform
  exact yields_pure_iff.mp h₁

namespace Tree

/-- `u` has the steps of `t` within a set that is closed upwards, without some idle filters. -/
structure Thins (t u : Tree) (scope : NodeId → Prop) : Prop where
  /-- The topology is the same. -/
  topology : u.topology = t.topology
  /-- The traversals start from the same element. -/
  start : u.start = t.start
  /-- Nothing but removals and filters tells the trees apart. -/
  frame : t.SameFrame u
  /-- The steps within the set are left. -/
  node : ∀ {id n}, scope id → t.node? id = some n →
    ∃ n', u.node? id = some n' ∧ n.Thinner t.topology n'
  /-- The set has the root. -/
  root : scope rootId
  /-- The set is closed under the step above. -/
  parent : ∀ {id a}, scope id → t.IsParent a id → scope a
  /-- The set is closed under the steps above. -/
  ancestors : ∀ {id a}, scope id → a ∈ t.ancestors id → scope a

theorem Thins.refl (t : Tree) : t.Thins t fun _ ↦ True where
  topology := rfl
  start := rfl
  frame := rfl
  node _ hn := ⟨_, hn, .refl _ _⟩
  root := trivial
  parent _ _ := trivial
  ancestors _ _ := trivial

namespace Thins

variable {t u : Tree} {scope : NodeId → Prop} (h : t.Thins u scope)
include h

/-! ## What is looked up -/

theorem liveNode {id : NodeId} {n : Node} (hid : scope id) (hn : t.liveNode id = .ok n) :
    ∃ n', u.liveNode id = .ok n' ∧ n.Thinner t.topology n' := by
  obtain ⟨n', hn', hthin⟩ := h.node hid (liveNode_eq_ok_iff.mp hn)
  exact ⟨n', liveNode_eq_ok_iff.mpr hn', hthin⟩

theorem columnsOf (table : Table) : u.columnsOf table = t.columnsOf table := by
  rw [Tree.columnsOf, Tree.columnsOf, h.topology]

theorem startConditions (p : Path) : u.startConditions p = t.startConditions p := by
  rw [Tree.startConditions, Tree.startConditions, h.start]

theorem correlation {id : NodeId} {above above' below below' : Node}
    (habove : above.Thinner t.topology above') (hbelow : below.Thinner t.topology below') :
    u.correlation id above' below' = t.correlation id above below := by
  obtain ⟨_, rfl, -⟩ := habove
  obtain ⟨_, rfl, -⟩ := hbelow
  rw [Tree.correlation, Tree.correlation, h.topology]
  rfl

/-! ## Sort keys and joins -/

theorem sortKey {id : NodeId} (hid : scope id) {o : SortTerm} {key : SortKey}
    (hkey : t.sortKey id o = .ok key) : u.sortKey id o = .ok key := by
  obtain ⟨target, htarget, h₁⟩ := bind_eq_ok_iff.mp hkey
  obtain ⟨n, hn, h₂⟩ := bind_eq_ok_iff.mp h₁
  have hscope : scope target := by
    rw [sortNode] at htarget
    split at htarget
    · cases htarget
      exact hid
    · split at htarget
      · next hfound =>
        cases htarget
        exact h.ancestors hid (List.mem_of_find?_eq_some hfound)
      · cases htarget
    · cases htarget
  obtain ⟨n', hn', _, rfl, -⟩ := h.liveNode hscope hn
  rw [Tree.sortKey]
  refine bind_eq_ok_iff.mpr ⟨target, ?_, bind_eq_ok_iff.mpr ⟨_, hn', ?_⟩⟩
  · rw [← htarget, sortNode, sortNode, h.frame.findLabeled]
  · rw [h.topology]
    exact h₂

theorem sortKeys {ids : List NodeId} (hids : ∀ id ∈ ids, scope id) {keys : List SortKey}
    (hkeys : t.sortKeys ids = .ok keys) : u.sortKeys ids = .ok keys := by
  obtain ⟨parts, hparts, heq⟩ := bind_eq_ok_iff.mp hkeys
  refine bind_eq_ok_iff.mpr ⟨parts, mapM_eq_ok_of_forall (fun id hid part hpart ↦ ?_) hparts, heq⟩
  obtain ⟨n, hn, hterms⟩ := bind_eq_ok_iff.mp hpart
  obtain ⟨n', hn', _, rfl, -⟩ := h.liveNode (hids id hid) hn
  exact bind_eq_ok_iff.mpr ⟨_, hn',
    mapM_eq_ok_of_forall (fun o _ key hkey ↦ h.sortKey (hids id hid) hkey) hterms⟩

theorem stepJoin {p : Path} {id : NodeId} (hid : scope id) {j : Join}
    (hj : t.stepJoin p id = .ok j) : u.stepJoin p id = .ok j := by
  obtain ⟨n, hn, h₁⟩ := bind_eq_ok_iff.mp hj
  obtain ⟨m, hm, h₂⟩ := bind_eq_ok_iff.mp h₁
  obtain ⟨c, hc, heq⟩ := bind_eq_ok_iff.mp h₂
  have habove : scope (n.parent.getD rootId) := by
    cases hparent : n.parent with
    | none => exact h.root
    | some a =>
      refine h.parent hid ?_
      rw [IsParent, getElem?_of_node? (liveNode_eq_ok_iff.mp hn), Option.bind_some, hparent]
      rfl
  obtain ⟨n', hn', hthin⟩ := h.liveNode hid hn
  obtain ⟨m', hm', hthin'⟩ := h.liveNode habove hm
  have hc' := (h.correlation hthin' hthin).trans hc
  obtain ⟨_, rfl, -⟩ := hthin
  exact bind_eq_ok_iff.mpr ⟨_, hn', bind_eq_ok_iff.mpr ⟨m', hm',
    bind_eq_ok_iff.mpr ⟨c, hc', heq⟩⟩⟩

theorem stepJoins {p : Path} {ids : List NodeId} (hids : ∀ id ∈ ids, scope id) {js : List Join}
    (hjs : t.stepJoins p ids = .ok js) : u.stepJoins p ids = .ok js :=
  mapM_eq_ok_of_forall (fun id hid _ hj ↦ h.stepJoin (hids id hid) hj) hjs

theorem branchJoin {d : Dialect} {p : Path} {above above' : Node}
    (habove : above.Thinner t.topology above') {id : NodeId} (hid : scope id) {i : ℕ} {j : Join}
    (hj : t.branchJoin d p above id i = .ok j) : u.branchJoin d p above' id i = .ok j := by
  rw [Tree.branchJoin] at hj
  split at hj
  · cases hj
  · next n hn =>
    obtain ⟨n', hn', hthin⟩ := h.node hid hn
    split at hj
    · cases hj
    · next hparent =>
      obtain ⟨c, hc, h₁⟩ := bind_eq_ok_iff.mp hj
      obtain ⟨forms, hforms, h₂⟩ := bind_eq_ok_iff.mp h₁
      have hc' := (h.correlation habove hthin).trans hc
      obtain ⟨keep, rfl, hidle⟩ := hthin
      obtain ⟨forms', hforms', hconditions⟩ := Filter.exists_mapM_form hidle hforms
      rw [Tree.branchJoin, hn']
      dsimp only
      rw [if_neg hparent, h.topology]
      refine bind_eq_ok_iff.mpr ⟨c, hc', bind_eq_ok_iff.mpr ⟨forms', hforms', ?_⟩⟩
      rw [hconditions]
      exact h₂

theorem branchJoins {d : Dialect} {p : Path} {branches : List NodeId} (hleaf : scope p.leaf)
    (hbranches : ∀ id ∈ branches, scope id) {js : List Join}
    (hjs : t.branchJoins d p branches = .ok js) : u.branchJoins d p branches = .ok js := by
  obtain ⟨above, habove, hjoins⟩ := bind_eq_ok_iff.mp hjs
  obtain ⟨above', habove', hthin⟩ := h.liveNode hleaf habove
  refine bind_eq_ok_iff.mpr ⟨above', habove', mapM_eq_ok_of_forall ?_ hjoins⟩
  rintro ⟨id, i⟩ hmem j hj
  exact h.branchJoin hthin (hbranches id (List.fst_mem_of_mem_zipIdx hmem)) hj

theorem joints {runs : List (List NodeId)} (hruns : ∀ run ∈ runs, ∀ id ∈ run, scope id)
    {js : List CompileM.Joint} (hjs : CompileM.joints t runs = .ok js) :
    CompileM.joints u runs = .ok js := by
  induction runs generalizing js with
  | nil => exact hjs
  | cons before rest ih =>
    cases rest with
    | nil => exact hjs
    | cons after rest =>
      rw [List.forall_mem_cons] at hruns
      have hleft := (ends_of_forall h.root hruns.1).2
      have hright := (ends_of_forall h.root (hruns.2 after List.mem_cons_self)).1
      rw [CompileM.joints] at hjs ⊢
      obtain ⟨n, hn, h₁⟩ := bind_eq_ok_iff.mp hjs
      obtain ⟨m, hm, h₂⟩ := bind_eq_ok_iff.mp h₁
      obtain ⟨c, hc, h₃⟩ := bind_eq_ok_iff.mp h₂
      obtain ⟨others, hothers, heq⟩ := bind_eq_ok_iff.mp h₃
      obtain ⟨n', hn', hthin⟩ := h.liveNode hleft hn
      obtain ⟨m', hm', hthin'⟩ := h.liveNode hright hm
      exact bind_eq_ok_iff.mpr ⟨n', hn', bind_eq_ok_iff.mpr ⟨m', hm',
        bind_eq_ok_iff.mpr ⟨c, (h.correlation hthin hthin').trans hc,
          bind_eq_ok_iff.mpr ⟨others, ih hruns.2 hothers, heq⟩⟩⟩⟩

/-! ## What is projected -/

variable {e : Prop}

open CompileM

theorem projectNode {id : NodeId} {n n' : Node} (hthin : n.Thinner t.topology n') (role : Role) :
    Follows e (projectNode t id n role) (projectNode u id n' role) := by
  obtain ⟨_, rfl, -⟩ := hthin
  rw [CompileM.projectNode, CompileM.projectNode, h.columnsOf]
  exact .lift_bind_eq (fun _ hcolumns ↦ hcolumns) fun columns ↦
    .mapM fun column _ ↦ .project id n role column

theorem projectSteps (leaf : NodeId) {ids : List NodeId} (hids : ∀ id ∈ ids, scope id) :
    Follows e (projectSteps t leaf ids) (projectSteps u leaf ids) := by
  refine .bind (.mapM fun id hid ↦ ?_) fun parts parts' hparts ↦ .pure fun he ↦ by rw [hparts he]
  refine .lift_bind _ (fun n hn ↦ h.liveNode (hids id hid) hn) fun n n' hthin ↦ ?_
  have hlabeled : n'.isLabeled = n.isLabeled := by
    obtain ⟨_, rfl, -⟩ := hthin
    rfl
  rw [hlabeled]
  -- each of the four cases projects in two parts and joins them
  refine .ite (.bind (h.projectNode hthin .result) ?_) (.bind (.pure fun _ ↦ rfl) ?_)
  all_goals
    intro result result' hresult
    refine .ite (.bind (h.projectNode hthin .labeled) ?_) (.bind (.pure fun _ ↦ rfl) ?_)
    all_goals
      intro labeled labeled' hlabels
      exact .pure fun he ↦ by rw [hresult he, hlabels he]

theorem projectHelpers (leaf : NodeId) (needed : List (NodeId × String)) {ids : List NodeId}
    (hids : ∀ id ∈ ids, scope id) :
    Follows e (projectHelpers t leaf needed ids) (projectHelpers u leaf needed ids) := by
  refine .bind (.mapM fun id hid ↦ ?_) fun parts parts' hparts ↦ .pure fun he ↦ by rw [hparts he]
  have hlive : ∀ n, t.liveNode id = .ok n → ∃ n', u.liveNode id = .ok n' ∧
      (n.Thinner t.topology n' ∧
        helperColumns u leaf needed id = helperColumns t leaf needed id) := by
    intro n hn
    obtain ⟨n', hn', hthin⟩ := h.liveNode (hids id hid) hn
    refine ⟨n', hn', hthin, ?_⟩
    obtain ⟨_, rfl, -⟩ := hthin
    rw [helperColumns, helperColumns, liveNode_eq_ok_iff.mp hn, liveNode_eq_ok_iff.mp hn']
    rfl
  refine .lift_bind _ hlive ?_
  rintro n n' ⟨⟨_, rfl, -⟩, hcolumns⟩
  rw [hcolumns]
  exact .mapM fun column _ ↦ .project id n .helper column

/-! ## What filters become -/

theorem addFilter (c : Compiler) (table : Table) (source : Source) (f : Filter)
    {fc fc' : FilterClauses} (hfc : e → fc' = fc) :
    Follows e (addFilter c t table source fc f) (addFilter c u table source fc' f) := by
  rw [CompileM.addFilter, CompileM.addFilter, h.topology]
  refine .lift_bind_eq (fun _ hform ↦ hform) fun form ↦ ?_
  cases form with
  | always => exact .pure hfc
  | holds condition => exact .drafting_bind (.pure fun he ↦ by rw [hfc he])
  | member column type without =>
    exact .bind (.nextName c f.key) fun name name' hname ↦
      .drafting_bind (.pure fun he ↦ by rw [hfc he, hname he])

theorem foldlM_addFilter (c : Compiler) (table : Table) (source : Source) {keep : Filter → Bool}
    {fs : List Filter} (hidle : ∀ f ∈ fs, ¬ keep f → f.Idle t.topology table)
    {fc fc' : FilterClauses} (hfc : e → fc' = fc) :
    Follows e (fs.foldlM (CompileM.addFilter c t table source) fc)
      ((fs.filter keep).foldlM (CompileM.addFilter c u table source) fc') := by
  induction fs generalizing fc fc' with
  | nil => exact .pure hfc
  | cons f fs ih =>
    rw [List.forall_mem_cons] at hidle
    rw [List.foldlM_cons]
    by_cases hkeep : keep f
    · rw [List.filter_cons_of_pos hkeep, List.foldlM_cons]
      exact .bind (h.addFilter c table source f hfc) fun _ _ hfc₁ ↦ ih hidle.2 hfc₁
    · -- the one run passes the filter by, the other has never met it
      rw [List.filter_cons_of_neg hkeep]
      intro s fc₂ s₂ hrun
      obtain ⟨fc₁, s₁, hstep, hrest⟩ := yields_bind_iff.mp hrun
      obtain ⟨rfl, rfl⟩ := eq_of_yields_addFilter (hidle.1 hkeep) hstep
      exact ih hidle.2 hfc hrest

theorem addFilters (c : Compiler) (p : Path) {id : NodeId} (hid : scope id)
    {fc fc' : FilterClauses} (hfc : e → fc' = fc) :
    Follows e (addFilters c t p fc id) (addFilters c u p fc' id) := by
  refine .lift_bind _ (fun n hn ↦ h.liveNode hid hn) ?_
  rintro n n' ⟨keep, rfl, hidle⟩
  exact h.foldlM_addFilter c n.table (p.source id) hidle hfc

/-! ## Selects and statements -/

theorem select (c : Compiler) {p : Path} {ids branches : List NodeId}
    (hids : ∀ id ∈ ids, scope id) (hleaf : scope p.leaf) (hbranches : ∀ id ∈ branches, scope id)
    (starts ends : Bool) (order : List SortColumn) {projected projected' : List Projected}
    (hprojected : e → projected' = projected) {tables tables' : List MembershipTable}
    (htables : e → tables' = tables) :
    Follows e (select c t p projected ids branches tables starts ends order)
      (select c u p projected' ids branches tables' starts ends order) := by
  have hdrop : ∀ id ∈ ids.drop 1, scope id := fun id hid ↦ hids id (List.mem_of_mem_drop hid)
  have hrest : ∀ chain optional (opened opened' : DraftM Unit)
      (closed closed' : FilterClauses → DraftM Unit), Follows e
      (do
        drafting opened
        let clauses ← ids.foldlM (CompileM.addFilters c t p) { tables }
        drafting (closed clauses)
        return ((⟨chain, optional, clauses⟩ : SelectParts).select t p projected
          ⟨ids, starts, ends⟩ order, clauses.tables))
      (do
        drafting opened'
        let clauses ← ids.foldlM (CompileM.addFilters c u p) { tables := tables' }
        drafting (closed' clauses)
        return ((⟨chain, optional, clauses⟩ : SelectParts).select u p projected'
          ⟨ids, starts, ends⟩ order, clauses.tables)) := by
    intro chain optional opened opened' closed closed'
    refine .drafting_bind <| .bind
      (.foldlM (fun id hid _ _ hfc ↦ h.addFilters c p (hids id hid) hfc) ?_) ?_
    · exact fun he ↦ by rw [htables he]
    · intro clauses clauses' hclauses
      refine .drafting_bind (.pure fun he ↦ ?_)
      rw [hclauses he, SelectParts.select, SelectParts.select, hprojected he, h.frame.tableOf,
        h.startConditions]
  refine .lift_bind_eq (fun _ ↦ h.stepJoins hdrop) fun chain ↦ .ite ?_ ?_
  · exact .lift_bind_eq (fun _ ↦ h.branchJoins hleaf hbranches)
      fun optional ↦ hrest chain optional _ _ _ _
  · exact .pure_bind (hrest chain [] _ _ _ _)

theorem single (c : Compiler) {p : Path} {branches : List NodeId} (hp : ∀ id ∈ p.all, scope id)
    (hleaf : scope p.leaf) (hbranches : ∀ id ∈ branches, scope id) :
    Follows e (single c t p branches) (single c u p branches) := by
  refine .lift_bind_eq (fun _ ↦ h.sortKeys hp) fun keys ↦ ?_
  refine .bind (h.projectSteps p.leaf hp) fun projected projected' hprojected ↦ ?_
  refine .bind (h.select c hp hleaf hbranches true true _ hprojected fun _ ↦ rfl) ?_
  intro q q' hq
  exact .drafting_bind (.pure fun he ↦ by rw [hq he])

theorem segmentSelects (c : Compiler) {p : Path} {branches : List NodeId} (hleaf : scope p.leaf)
    (hbranches : ∀ id ∈ branches, scope id) (needed : List (NodeId × String)) (starts : Bool)
    {runs : List (List NodeId)} (hruns : ∀ run ∈ runs, ∀ id ∈ run, scope id)
    {tables tables' : List MembershipTable} (htables : e → tables' = tables) :
    Follows e (segmentSelects c t p branches needed starts tables runs)
      (segmentSelects c u p branches needed starts tables' runs) := by
  induction runs generalizing starts tables tables' with
  | nil => exact .pure fun he ↦ by rw [htables he]
  | cons run rest ih =>
    rw [List.forall_mem_cons] at hruns
    have hids : ∀ id ∈ if starts then rootId :: run else run, scope id := by
      split
      · exact List.forall_mem_cons.mpr ⟨h.root, hruns.1⟩
      · exact hruns.1
    refine .bind (h.projectSteps p.leaf hids) fun shown shown' hshown ↦ ?_
    refine .bind (h.projectHelpers p.leaf needed hids) fun helpers helpers' hhelpers ↦ ?_
    refine .bind (h.select c hids hleaf hbranches starts rest.isEmpty []
      (fun he ↦ by rw [hshown he, hhelpers he]) htables) fun q q' hq ↦ ?_
    refine .bind (ih false hruns.2 fun he ↦ by rw [hq he]) fun others others' hothers ↦ ?_
    exact .pure fun he ↦ by rw [hshown he, hhelpers he, hq he, hothers he]

theorem split (c : Compiler) {p : Path} {runs : List (List NodeId)} {branches : List NodeId}
    (hp : ∀ id ∈ p.all, scope id) (hruns : ∀ run ∈ runs, ∀ id ∈ run, scope id)
    (hleaf : scope p.leaf) (hbranches : ∀ id ∈ branches, scope id) :
    Follows e (split c t p runs branches) (split c u p runs branches) := by
  refine .lift_bind_eq (fun _ ↦ h.sortKeys hp) fun keys ↦ ?_
  refine .lift_bind_eq (fun _ ↦ h.joints hruns) fun js ↦ ?_
  refine .bind (h.segmentSelects c hleaf hbranches _ true hruns fun _ ↦ rfl) ?_
  intro segments segments' hsegments
  exact .drafting_bind (.pure fun he ↦ by rw [hsegments he])

theorem body (c : Compiler) {p : Path} {branches : List NodeId} (hp : ∀ id ∈ p.all, scope id)
    (hbranches : ∀ id ∈ branches, scope id) :
    Follows e (body c t p branches) (body c u p branches) := by
  have hruns : ∀ run ∈ t.segments p, ∀ id ∈ run, scope id := by
    intro run hrun id hid
    have hmem : id ∈ (t.segments p).flatten := List.mem_flatten.mpr ⟨run, hrun, hid⟩
    rw [flatten_segments] at hmem
    exact hp id (List.mem_cons_of_mem _ hmem)
  have hleaf : scope p.leaf := hp _ (List.mem_of_getLast? (getLast?_all p))
  rw [CompileM.body, CompileM.body, h.frame.segments]
  split
  · exact h.single c hp hleaf hbranches
  · exact h.split c hp hruns hleaf hbranches

/-- A path of steps in the set compiles to the same statement. -/
theorem statement (c : Compiler) (mode : Mode) {p : Path} {branches : List NodeId}
    (hp : ∀ id ∈ p.all, scope id) (hbranches : ∀ id ∈ branches, scope id) :
    Follows e (statement c t mode p branches) (statement c u mode p branches) := by
  have hleaf : scope p.leaf := hp _ (List.mem_of_getLast? (getLast?_all p))
  rw [statement_eq_plainStatement, statement_eq_plainStatement]
  refine .drafting_bind <| .lift_bind _ (fun n hn ↦ h.liveNode hleaf hn) ?_
  rintro n n' ⟨_, rfl, -⟩
  refine .bind (.tryCatch (h.body c hp hbranches) _ _) fun q q' hq ↦ ?_
  refine .bind (.push_journal _ _) fun _ _ _ ↦ .pure fun he ↦ ?_
  rw [hq he]
  simp only [bodyStatement, h.frame.segments]

end Thins

end Tree

end PathQuery
