import PathQuery.Proofs.Compile.Lookup
import PathQuery.Proofs.Compile.Registry
import PathQuery.Proofs.Compile.Renumbering
import PathQuery.Proofs.Element.Parts
import PathQuery.Proofs.Relational.Statement
import PathQuery.Proofs.Sql.Weave

/-!
# The aliases of a statement

A statement uses the aliases from the next one on, without gaps and in the order in which its
tables project them, wherever it refers to a column by alias. Which columns these are has nothing
to do with the registry, so a statement that is compiled behind others is the one that an empty
registry leads to, with its aliases moved up.
-/

namespace PathQuery

/-! ## Operands -/

theorem Query.operands_mapAliases (q : Query) (f : String → String) (d : Dialect) :
    (q.mapAliases f).operands d = q.operands d := by
  have hbound : (q.mapAliases f).bound = q.bound := by
    cases q with
    | single s => rfl
    | split s =>
      change (s.first.mapAliases f).bound ++ (s.links.map (Link.mapAliases f)).flatMap _ = _
      rw [List.flatMap_map]
      rfl
  rw [operands_eq, operands_eq, hbound]

/-! ## Where aliases stand -/

/-- What the selects of tables in a query project, in order. -/
def Query.given : Query → List Projection
  | .single s => s.projections
  | .split s => s.tables.flatMap (·.projections)

/-- The aliases at every place of a query where there is one. -/
def Query.aliases : Query → List String
  | .single s => s.projections.map (·.name)
  | .split s => (s.tables.flatMap (·.projections)).map (·.name) ++
      s.projections.flatMap (fun q ↦ [q.column.column, q.name]) ++
      s.links.flatMap (fun l ↦ [l.left.column, l.right.column]) ++ s.order.map (·.column.column)

/-- An alias that a statement refers to is one that a derived table gives. -/
theorem SplitSelect.Resolves.mem_names {s : SplitSelect} {ref column : ColumnRef}
    (h : s.Resolves ref column) : ref.column ∈ (s.tables.flatMap (·.projections)).map (·.name) := by
  obtain ⟨n, table, -, htable, hmem⟩ := h
  exact List.mem_map.mpr
    ⟨_, List.mem_flatMap.mpr ⟨table, List.mem_of_getElem? htable, hmem⟩, rfl⟩

theorem CutPath.mem_aliases_iff {c : Compiler} {t : Tree} {p : Path} {branches : List NodeId}
    {k : ℕ} {keys : List Tree.SortKey} {js : List CompileM.Joint}
    {segments : List CompileM.Segment} {tables : List MembershipTable}
    (h : CutPath c t p branches k keys js segments tables) {name : String} :
    name ∈ (Query.split (.ofSegments p.leaf segments js keys)).aliases ↔
      name ∈ (Query.split (.ofSegments p.leaf segments js keys)).given.map (·.name) := by
  refine ⟨fun hname ↦ ?_, fun hname ↦ ?_⟩
  -- an alias that is not given where it stands is a reference, and references are resolved
  · rcases List.mem_append.mp hname with hname | hname
    · rcases List.mem_append.mp hname with hname | hname
      · rcases List.mem_append.mp hname with hname | hname
        · exact hname
        · obtain ⟨q, hq, hname⟩ := List.mem_flatMap.mp hname
          obtain ⟨hsame, x, -, hresolves⟩ := h.resolves_shown hq
          rw [hsame] at hname
          obtain rfl : name = q.column.column := by simpa using hname
          exact hresolves.mem_names
      · obtain ⟨l, hl, hname⟩ := List.mem_flatMap.mp hname
        obtain ⟨i, hi⟩ := List.mem_iff_getElem?.mp hl
        obtain ⟨j, -, -, -, hleft, hright⟩ := h.resolves_link hi
        rcases List.mem_pair.mp hname with rfl | rfl
        · exact hleft.mem_names
        · exact hright.mem_names
    · obtain ⟨o, ho, rfl⟩ := List.mem_map.mp hname
      obtain ⟨key, -, -, hresolves⟩ := exists_of_mem_forall₂ h.resolves_order.flip ho
      exact hresolves.mem_names
  · exact List.mem_append_left _ (List.mem_append_left _ (List.mem_append_left _ hname))

theorem Slot.mem_map_name_nameAll_iff {k : ℕ} {slots : List Slot} {name : String} :
    name ∈ (nameAll k slots).map (·.name) ↔ ∃ i < slots.length, name = aliasName (k + i) := by
  rw [map_name_nameAll, List.mem_map]
  constructor
  · rintro ⟨n, hn, rfl⟩
    obtain ⟨i, hi, rfl⟩ := List.mem_range'.mp hn
    exact ⟨i, hi, by rw [Nat.one_mul]⟩
  · rintro ⟨i, hi, rfl⟩
    exact ⟨k + i, List.mem_range'.mpr ⟨i, hi, by rw [Nat.one_mul]⟩, rfl⟩

namespace Compiles

variable {c : Compiler} {t : Tree} {p : Path} {branches : List NodeId} {k : ℕ} {q : Query}
  {tables : List MembershipTable} {slots : List Slot}

/-- A query uses the aliases that its selects give to its slots, from the `k`-th on. -/
theorem aliases (h : Compiles c t p branches k q tables slots) (hbuilt : t.Built)
    (hindexed : ∃ g, t.catalog = some g ∧ g.Indexed) {id : NodeId} (hp : p = t.pathTo id) :
    q.given = (Slot.nameAll k slots).map (Projected.projection p) ∧
      ∀ name, name ∈ q.aliases ↔ ∃ i < slots.length, name = aliasName (k + i) := by
  have hmem : q.given = (Slot.nameAll k slots).map (Projected.projection p) →
      ∀ name, name ∈ q.given.map (·.name) ↔ ∃ i < slots.length, name = aliasName (k + i) := by
    intro hgiven name
    rw [hgiven, List.map_map, ← Slot.mem_map_name_nameAll_iff]
    rfl
  have hcompiles := h
  cases h with
  | single parts sorted uncut shown fit => exact ⟨rfl, hmem rfl⟩
  | @split keys js segments tables sorted cut joints derived =>
    have hcut := hcompiles.cutPath hbuilt hindexed hp sorted cut joints derived
    refine ⟨hcut.projections_tables, fun name ↦ ?_⟩
    rw [hcut.mem_aliases_iff]
    exact hmem hcut.projections_tables name

end Compiles

/-! ## Statements behind others -/

/-- The state with no alias given, and temporary names as they are. -/
def CompileState.emptied (s : CompileState) : CompileState := { s with registry := {} }

theorem CompileState.behind_emptied (s : CompileState) :
    s.emptied.Behind s.registry.columns s where
  registry := by rw [emptied, Array.append_empty]
  temporaries := rfl

theorem CompileM.Yields.of_answer {α : Type} {m : CompileM α} {s : CompileState} {a : α}
    (h : (m.runOn s).1 = .ok a) : m.Yields s a (m.runOn s).2 := by
  rw [CompileM.Yields, ← h]

/-- **Compiling behind other statements moves the aliases up.** Whatever aliases have been given
before and however temporary tables are named, a path of a tree compiles exactly when it does with
no alias given, and fails with the same fault otherwise. Its statement is the one compiled with no
alias given, the `i`-th alias being the `(k + i)`-th at every place, and has the same operands,
temporary tables and segments. The aliases in it are the next ones, without gaps and none of them
given before; each is given to a column of a step of the path and stands for that step's logical
column in the registry. -/
theorem statement_behind {t : Tree} (hbuilt : t.Built)
    (hindexed : ∀ g, t.catalog = some g → g.Indexed) (c : Compiler) {mode : Mode}
    {paths : List OptionalPath} (hpaths : CompileM.modePaths t mode = .ok paths)
    {op : OptionalPath} (hop : op ∈ paths) (s : CompileState) :
    ((CompileM.statement c t mode op.path op.branches).runOn s).1 =
        ((CompileM.statement c t mode op.path op.branches).runOn s.emptied).1.map
          (Statement.mapAliases (laterAlias s.registry.size)) ∧
      ∀ st₀ s₀, (CompileM.statement c t mode op.path op.branches).Yields s.emptied st₀ s₀ →
        ∃ st s' slots, (CompileM.statement c t mode op.path op.branches).Yields s st s' ∧
          st = st₀.mapAliases (laterAlias s.registry.size) ∧ st.operands = st₀.operands ∧
          st.tables = st₀.tables ∧ st.segments = st₀.segments ∧
          st.query.given =
            (Slot.nameAll s.registry.size slots).map (Projected.projection op.path) ∧
          (∀ name, name ∈ st.query.aliases ↔
            ∃ i < slots.length, name = aliasName (s.registry.size + i)) ∧
          s'.registry.size = s.registry.size + slots.length ∧
          ∀ q ∈ Slot.nameAll s.registry.size slots, q.name ∉ s.registry.names ∧
            s'.registry.column? q.name = some (t.slotColumn q.slot) := by
  have hmirror := (CompileM.Mirrors.statement c t mode op.path op.branches
    fun _ : True ↦ s.behind_emptied).1.eq_map
  refine ⟨hmirror, fun st₀ s₀ hst₀ ↦ ?_⟩
  rw [hst₀] at hmirror
  have hst := CompileM.Yields.of_answer hmirror
  obtain ⟨-, -, slots, hcompiles, hregistry⟩ := CompileM.yields_statement hst
  -- the columns of the last step are projected, so there is a topology to have them from
  have hcatalog : ∃ g, t.catalog = some g ∧ g.Indexed := by
    obtain ⟨columns, hcolumns⟩ := hcompiles.steps.2 op.path.leaf
      (List.mem_of_getLast? (Tree.getLast?_all op.path)) (.inl rfl)
    obtain ⟨g, hg, -⟩ := Tree.columns?_of_columnsOf hcolumns
    exact ⟨g, hg, hindexed g hg⟩
  obtain ⟨id, hid⟩ := Tree.exists_pathTo_of_modePaths hpaths hop
  obtain ⟨hgiven, haliases⟩ := hcompiles.aliases hbuilt hcatalog hid
  have hoperands : (st₀.query.mapAliases (laterAlias s.registry.size)).operands st₀.dialect =
      st₀.operands := by
    rw [st₀.query.operands_mapAliases, (CompileM.text_statement hst₀).2]
  refine ⟨_, _, slots, hst, rfl, hoperands, rfl, rfl, hgiven, haliases,
    by rw [hregistry, CompileState.size_withSlots], fun q hq ↦ ⟨?_, ?_⟩⟩
  · obtain ⟨i, -, hname⟩ := Slot.exists_index_of_mem_nameAll hq
    rw [hname]
    exact s.registry.aliasName_notMem_names i
  · exact column?_of_mem_nameAll (by rw [hregistry]) hq

/-- Behind one alias, the two edges in a row have the statement they have behind none. -/
theorem statement_behind_arrows : ∃ st₀ s₀ st s' slots,
    (CompileM.statement inlineCompiler arrowTree .regular ⟨[1, 2, 3]⟩ []).Yields {} st₀ s₀ ∧
      (CompileM.statement inlineCompiler arrowTree .regular ⟨[1, 2, 3]⟩ []).Yields
        { registry := ⟨#[⟨"", ⟨"s", "V_a"⟩, idColumn⟩]⟩ } st s' ∧
      st = st₀.mapAliases (laterAlias 1) ∧ st.operands = st₀.operands ∧
      st.query.given = (Slot.nameAll 1 slots).map (Projected.projection ⟨[1, 2, 3]⟩) ∧
      ∀ name, name ∈ st.query.aliases ↔ ∃ i < slots.length, name = aliasName (1 + i) := by
  obtain ⟨st₀, s₀, hst₀, -⟩ := CompileM.exists_yields (s := {})
    (m := CompileM.statement inlineCompiler arrowTree .regular ⟨[1, 2, 3]⟩ [])
    (P := fun _ _ ↦ true) (by decide +kernel)
  have hindexed : ∀ g, arrowTree.catalog = some g → g.Indexed := by
    intro g hg
    obtain rfl := Option.some.inj hg
    exact plainOver_arrowTree.indexed
  have hpaths : CompileM.modePaths arrowTree .regular =
      .ok (arrowTree.regularPaths.map (⟨·, []⟩)) := rfl
  have hop : (⟨⟨[1, 2, 3]⟩, []⟩ : OptionalPath) ∈ arrowTree.regularPaths.map (⟨·, []⟩) := by decide
  obtain ⟨-, hbehind⟩ := statement_behind built_arrowTree hindexed inlineCompiler hpaths hop
    { registry := ⟨#[⟨"", ⟨"s", "V_a"⟩, idColumn⟩]⟩ }
  obtain ⟨st, s', slots, hst, heq, hoperands, -, -, hgiven, haliases, -, -⟩ := hbehind st₀ s₀ hst₀
  exact ⟨st₀, s₀, st, s', slots, hst₀, hst, heq, hoperands, hgiven, haliases⟩

end PathQuery
