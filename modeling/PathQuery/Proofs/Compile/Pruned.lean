import PathQuery.Proofs.Compile.Thinning
import PathQuery.Proofs.Relational.Statement

/-!
# Compiling pruned trees

Filters are decided twice: once when a tree is pruned, from the schema alone, and once when a path
is compiled. The two agree. A filter that pruning drops is one that compiling finds to let every
row pass, so that pruning only thins a tree and its paths compile as before. A filter that pruning
keeps names a column, so that compiling a filter of a pruned tree cannot fail for want of one.
-/

namespace PathQuery

/-! ## What becomes of a filter -/

theorem Filter.form_of_labelKey {d : Dialect} {catalog : Except QueryError Topology}
    {allowBulk : Bool} {table : Table} {source : Source} {f : Filter} (hkey : f.key = labelKey) :
    f.form d catalog allowBulk table source =
      .ok (if f.matchesTable table then .always else .holds .never) := by
  rw [form, if_pos hkey]

/-- An empty list of labels has no label of a table. -/
theorem Filter.matchesTable_within_nil {f : Filter} {table : Table}
    (hnil : f.predicate = .within ∧ f.values = []) : f.matchesTable table = false := by
  rw [matchesTable, hnil.1, hnil.2]
  rfl

/-- What a filter asks of a column may not be expressible, but that is all that can be wrong. -/
theorem Filter.exists_of_formOn_eq_error {d : Dialect} {allowBulk : Bool} {f : Filter}
    {ref : ColumnRef} {type : PropertyType} {e : QueryError}
    (h : f.formOn d allowBulk ref type = .error e) : ∃ what, e = .unsupported what := by
  have hlike : ∀ {g : Text → FilterForm},
      (do .ok (g (← f.textOperand)) : Except QueryError FilterForm) = .error e →
        ∃ what, e = .unsupported what := by
    intro g hg
    rw [textOperand] at hg
    split at hg
    · cases hg
    · cases hg
    · exact ⟨_, (Except.error.inj hg).symm⟩
  rw [formOn] at h
  split at h
  · split at h <;> cases h
  · split at h
    · cases h
    · split at h <;> cases h
  · exact hlike h
  · exact hlike h
  · exact hlike h
  · exact hlike h
  · split at h
    · cases h
    · exact ⟨_, (Except.error.inj h).symm⟩

namespace Tree

variable {t : Tree}

theorem filterFate_of_labelKey {catalog : Option Topology} {table : Table} {f : Filter}
    (hkey : f.key = labelKey) :
    filterFate catalog table f = if f.matchesTable table then .drop else .fail false := by
  rw [filterFate, if_pos hkey]
  split
  · next hnil =>
    rw [Bool.and_eq_true, decide_eq_true_eq, List.isEmpty_iff] at hnil
    rw [Filter.matchesTable_within_nil hnil]
    rfl
  · rfl

/-- Whatever pruning drops lets every row pass. -/
theorem idle_of_filterFate_eq_drop {catalog : Option Topology} {table : Table} {f : Filter}
    (hdrop : filterFate catalog table f = .drop) (topology : Except QueryError Topology) :
    f.Idle topology table := by
  intro d allowBulk source form hform
  by_cases hkey : f.key = labelKey
  · rw [filterFate_of_labelKey hkey] at hdrop
    split at hdrop
    · next hmatch =>
      rw [Filter.form_of_labelKey hkey, if_pos hmatch] at hform
      exact (Except.ok.inj hform).symm
    · cases hdrop
  · -- of the others pruning drops those that exclude no operand
    have hnone : f.predicate = .without ∧ f.values.isEmpty := by
      rw [filterFate, if_neg hkey] at hdrop
      split at hdrop
      · cases hdrop
      · split at hdrop
        · next hwithout => simpa using hwithout
        · split at hdrop <;> cases hdrop
    rw [Filter.form, if_neg hkey] at hform
    obtain ⟨⟨column, type⟩, -, hon⟩ := bind_eq_ok_iff.mp hform
    simp only [Filter.formOn, hnone.1, hnone.2, if_true] at hon
    exact (Except.ok.inj hon).symm

theorem filterFate_ne_fail {catalog : Option Topology} {n : Node} (hn : isMatchable catalog n)
    {f : Filter} (hf : f ∈ n.filters) (kept : Bool) :
    filterFate catalog n.table f ≠ .fail kept := by
  intro hfail
  have hgood := List.all_eq_true.mp hn f hf
  rw [hfail] at hgood
  cases hgood

/-- A step that can match something is thinned when its filters are decided. -/
theorem thinner_keptFilters {catalog : Option Topology} {n : Node} (hn : isMatchable catalog n)
    (topology : Except QueryError Topology) :
    n.Thinner topology { n with filters := keptFilters catalog n } := by
  refine ⟨_, rfl, fun f hf hkeep ↦ ?_⟩
  suffices hdrop : filterFate catalog n.table f = .drop from
    idle_of_filterFate_eq_drop hdrop topology
  cases hfate : filterFate catalog n.table f with
  | keep => simp [hfate] at hkeep
  | drop => rfl
  | fail kept => exact absurd hfate (filterFate_ne_fail hn hf kept)

/-! ## Pruning thins a tree -/

theorem start_pruneByFilters (t : Tree) : t.pruneByFilters.start = t.start :=
  pruneByFilters_induction (motive := fun v ↦ v.start = t.start) (fun _ _ _ hv ↦ hv)
    (fun _ hv ↦ hv) (fun _ _ _ hv ↦ hv) rfl

theorem topology_pruneByFilters (t : Tree) : t.pruneByFilters.topology = t.topology := by
  rw [topology, topology, catalog_pruneByFilters]

/-- What filter pruning leaves of a tree whose root can match something can match something. -/
theorem Grown.matchableAt_of_isLive (h : t.Grown) (hroot : t.matchableAt rootId) {id : NodeId}
    (hlive : t.pruneByFilters.isLive id) : t.matchableAt id := by
  by_cases hne : id = rootId
  · exact hne ▸ hroot
  · have hkept := h.isLive_pruneByFilters.mp hlive
    exact Bool.not_eq_false _ ▸ hkept.not_bad h.built.rooted (t.mem_ancestors_self id) hne

/-- Filter pruning thins a tree, as far as it leaves steps. -/
theorem Grown.thins_pruneByFilters (h : t.Grown) (hroot : t.matchableAt rootId) :
    t.Thins t.pruneByFilters fun id ↦ t.pruneByFilters.isLive id where
  topology := t.topology_pruneByFilters
  start := t.start_pruneByFilters
  frame := h.decided_pruneByFilters.trims.frame
  node := by
    intro id n hlive hn
    obtain ⟨n', hn'⟩ := Tree.isLive_iff.mp hlive
    obtain ⟨m, hm, rfl⟩ := h.node?_pruneByFilters hn'
    obtain rfl : n = m := Option.some.inj (hn.symm.trans hm)
    have hmatch : isMatchable t.catalog n := by
      have hat := h.matchableAt_of_isLive hroot hlive
      rwa [matchableAt, getElem?_of_node? hn, Option.any_some] at hat
    rw [resolvedNode_of_isMatchable hmatch] at hn'
    exact ⟨_, hn', thinner_keptFilters hmatch t.topology⟩
  root := h.isLive_pruneByFilters.mpr (.inl rfl)
  parent hlive hparent := h.decided_pruneByFilters.trims.isLive_above hparent hlive
  ancestors hlive ha :=
    h.isLive_pruneByFilters.mpr ((h.isLive_pruneByFilters.mp hlive).above h.built.rooted ha)

/-! ## What is kept names a column -/

theorem exists_column_of_filterFate_eq_keep {g : Topology} {table : Table} {f : Filter}
    (hkeep : filterFate (some g) table f = .keep) :
    f.key ≠ labelKey ∧ ∃ column, f.column (.ok g) table = .ok column := by
  by_cases hkey : f.key = labelKey
  · rw [filterFate_of_labelKey hkey] at hkeep
    split at hkeep <;> cases hkeep
  refine ⟨hkey, ?_⟩
  rw [Filter.column]
  by_cases hid : f.key = idKey
  · exact ⟨_, if_pos hid⟩
  -- pruning asks the topology for the property that compiling then looks up
  have hhas : g.hasProperty table f.key := by
    rw [filterFate, if_neg hkey] at hkeep
    split at hkeep
    · cases hkeep
    · split at hkeep
      · cases hkeep
      · split at hkeep
        · cases hkeep
        · next hlacks => simpa [Filter.isReserved, hkey, hid] using hlacks
  rw [Topology.hasProperty] at hhas
  split at hhas
  · next meaning hfound =>
    obtain ⟨property, ending⟩ := meaning
    obtain rfl : ending = "" := of_decide_eq_true hhas
    have hresolved : g.resolveColumn? table f.key = some ⟨property, ""⟩ := hfound
    rw [if_neg hid]
    refine ⟨(f.key, (property.map (·.type)).getD .long), bind_eq_ok_iff.mpr ⟨g, rfl, ?_⟩⟩
    rw [hresolved]
    rfl
  · cases hhas

/-- What pruning leaves on record needs data. -/
theorem filterFate_of_mem_resolvedNode {catalog : Option Topology} {n : Node} {f : Filter}
    (hf : f ∈ (resolvedNode catalog n).filters) : filterFate catalog n.table f = .keep := by
  have hgood := filterFate_ne_fail (isMatchable_resolvedNode catalog n) hf
  rw [← keptFilters_resolvedNode] at hf
  have hkept := (List.mem_filter.mp hf).2
  cases hfate : filterFate catalog n.table f with
  | keep => rfl
  | drop =>
    rw [show (resolvedNode catalog n).table = n.table from rfl, hfate] at hkept
    cases hkept
  | fail kept => exact absurd hfate (hgood kept)

/-- No filter of a pruned tree is about a column that its table lacks. -/
theorem Grown.form_ne_missingProperty (h : t.Grown) {g : Topology} (hcatalog : t.catalog = some g)
    {id : NodeId} {n : Node} (hn : t.pruneByFilters.node? id = some n) {f : Filter}
    (hf : f ∈ n.filters) (d : Dialect) (allowBulk : Bool) (source : Source) (table : Table)
    (key : String) : f.form d t.pruneByFilters.topology allowBulk n.table source ≠
      .error (.violation (.missingProperty table key)) := by
  obtain ⟨m, -, rfl⟩ := h.node?_pruneByFilters hn
  have hkeep := filterFate_of_mem_resolvedNode hf
  rw [hcatalog] at hkeep
  obtain ⟨hkey, column, hcolumn⟩ := exists_column_of_filterFate_eq_keep hkeep
  have htopology : t.pruneByFilters.topology = .ok g := by
    rw [topology_pruneByFilters, topology, hcatalog]
  intro herror
  rw [Filter.form, if_neg hkey, htopology, show (resolvedNode t.catalog m).table = m.table from rfl,
    hcolumn] at herror
  obtain ⟨what, heq⟩ := Filter.exists_of_formOn_eq_error herror
  cases heq

/-- **Pruning and compiling agree on what a filter means.** A path whose steps and branches are left
by filter pruning compiles to the same statement after it, from the same aliases and temporary
names. Pruning finds a label filter to hold of nothing exactly when compiling writes the condition
`1 = 0` for it, and to hold of everything exactly when compiling writes nothing. In the pruned tree
no filter is about a column that its table lacks. -/
theorem statement_pruneByFilters (h : t.Grown) {g : Topology} (hcatalog : t.catalog = some g)
    (hroot : t.matchableAt rootId) :
    (∀ (c : Compiler) (mode : Mode) (p : Path) (branches : List NodeId),
      (∀ id ∈ p.all ++ branches, t.pruneByFilters.isLive id) → ∀ s st s',
        (CompileM.statement c t mode p branches).Yields s st s' →
          ∃ s'', (CompileM.statement c t.pruneByFilters mode p branches).Yields s st s'' ∧
            s'.Agrees s'') ∧
    (∀ (table : Table) (f : Filter) (d : Dialect) (allowBulk : Bool) (source : Source),
      f.key = labelKey →
        ((∃ kept, filterFate t.catalog table f = .fail kept) ↔
          f.form d t.topology allowBulk table source = .ok (.holds .never)) ∧
        (filterFate t.catalog table f = .drop ↔
          f.form d t.topology allowBulk table source = .ok .always)) ∧
    (∀ d : Dialect, Fragment.render d Condition.never.fragments = "1 = 0") ∧
    ∀ id n, t.pruneByFilters.node? id = some n → ∀ f ∈ n.filters,
      ∀ (d : Dialect) (allowBulk : Bool) (source : Source) (table : Table) (key : String),
        f.form d t.pruneByFilters.topology allowBulk n.table source ≠
          .error (.violation (.missingProperty table key)) := by
  refine ⟨?_, ?_, fun _ ↦ rfl, fun id n hn f hf ↦ h.form_ne_missingProperty hcatalog hn hf⟩
  · intro c mode p branches hlive s st s' hst
    rw [List.forall_mem_append] at hlive
    obtain ⟨st', s'', hst', hagrees⟩ := (h.thins_pruneByFilters hroot).statement (e := True) c mode
      hlive.1 hlive.2 hst s fun _ ↦ .refl s
    obtain ⟨rfl, hstates⟩ := hagrees trivial
    exact ⟨s'', hst', hstates⟩
  · intro table f d allowBulk source hkey
    rw [filterFate_of_labelKey hkey, Filter.form_of_labelKey hkey]
    cases f.matchesTable table <;> simp

/-- A vertex and the end of an edge from it, each with filters that the labels decide, and two more
edges: one at the start whose label is ruled out, and one at the end that may be missing. -/
def decidedTree : Tree :=
  let labeled (predicate : Predicate) (label : String) : Filter :=
    { key := labelKey, predicate, value := .str label }
  let edge (filters : List Filter) : StepSpec :=
    { table := ⟨"s", "E_e"⟩, element := .edge, filters }
  let root := ofRoot (some arrowGraph) {
    table := ⟨"s", "V_a"⟩
    filters := [⟨labelKey, .within, .null, [.str "a", .str "b"]⟩, ⟨idKey, .without, .null, []⟩] }
  let first := (root.addChild? 0 (edge [labeled .eq "e"])).getD root
  let ended := (first.addChild? 1 {
    table := ⟨"s", "V_a"⟩
    filters := [labeled .neq "b", ⟨idKey, .gt, .int .word 5, []⟩] }).getD first
  let second := (ended.addChild? 0 (edge [labeled .eq "x"])).getD ended
  (second.addChild? 2 { edge [labeled .startsWith "e"] with isOptional := true }).getD second

theorem grown_decidedTree : decidedTree.Grown := by
  unfold decidedTree
  exact ((((Grown.root _ _).addChild _ _).addChild _ _).addChild _ _).addChild _ _

/-- Pruning removes the edge that is ruled out and leaves one filter on the way to the end, whose
statement is the same. -/
theorem statement_pruneByFilters_decidedTree :
    ¬ decidedTree.pruneByFilters.isLive 3 ∧
    (decidedTree.nodes.toList.map (·.filters.length) = [2, 1, 2, 1, 1] ∧
      decidedTree.pruneByFilters.nodes.toList.map (·.filters.length) = [0, 0, 1, 0, 0]) ∧
    ⟨⟨[1, 2]⟩, [4]⟩ ∈ decidedTree.optionalPaths ∧ ∃ st s' s'',
      (CompileM.statement { dialect := ⟨.sqlite, "s", 2, true⟩ } decidedTree .optional
        ⟨[1, 2]⟩ [4]).Yields {} st s' ∧
      (CompileM.statement { dialect := ⟨.sqlite, "s", 2, true⟩ } decidedTree.pruneByFilters
        .optional ⟨[1, 2]⟩ [4]).Yields {} st s'' := by
  obtain ⟨st, s', hst, -⟩ := CompileM.exists_yields (s := {})
    (m := CompileM.statement { dialect := ⟨.sqlite, "s", 2, true⟩ } decidedTree .optional
      ⟨[1, 2]⟩ [4]) (P := fun _ _ ↦ true) (by decide +kernel)
  obtain ⟨hsame, -⟩ := statement_pruneByFilters grown_decidedTree (g := arrowGraph) rfl
    (by decide +kernel)
  obtain ⟨s'', hst', -⟩ := hsame _ .optional ⟨[1, 2]⟩ [4] (by decide +kernel) {} st s' hst
  exact ⟨by decide +kernel, by decide +kernel, by decide +kernel, st, s', s'', hst, hst'⟩

end Tree

end PathQuery
