import PathQuery.Compile.Tree
import PathQuery.Proofs.Query.Walk
import PathQuery.Proofs.Relational.Spelling

/-!
# What the statements of a tree answer

A regular or an emit statement answers one row for every match of its path, and an optional
statement one row for every match whose end has none of the branches. Both hold of the text that
reaches the database and of either form it may have. They follow from what a compiled path
answers, once the path is known to lead down from the root over checked steps.
-/

namespace PathQuery

/-! ## The paths of a tree -/

namespace Tree

variable {t : Tree}

theorem exists_pathTo_of_mem {p : Path} (h : p ∈ t.regularPaths ∨ p ∈ t.emitPaths) :
    ∃ id, p = t.pathTo id := by
  rcases h with h | h
  · rw [regularPaths] at h
    split at h
    · cases h
    · obtain ⟨id, -, rfl⟩ := List.mem_map.mp h
      exact ⟨id, rfl⟩
  · rw [emitPaths] at h
    split at h
    · cases h
    · obtain ⟨id, -, rfl⟩ := List.mem_map.mp h
      exact ⟨id, rfl⟩

theorem exists_pathTo_of_mem_optionalPaths {op : OptionalPath} (h : op ∈ t.optionalPaths) :
    ∃ id, op.path = t.pathTo id := by
  rw [optionalPaths] at h
  split at h
  · cases h
  · obtain ⟨id, -, hop⟩ := List.mem_filterMap.mp h
    dsimp only at hop
    split at hop
    · cases hop
    · obtain rfl := Option.some.inj hop
      exact ⟨id, rfl⟩

/-- The path of a statement leads to a step. -/
theorem exists_pathTo_of_modePaths {mode : Mode} {paths : List OptionalPath}
    (hpaths : CompileM.modePaths t mode = .ok paths) {op : OptionalPath} (hop : op ∈ paths) :
    ∃ id, op.path = t.pathTo id := by
  cases mode with
  | optional =>
    obtain rfl := Except.ok.inj hpaths
    exact exists_pathTo_of_mem_optionalPaths hop
  | regular =>
    obtain rfl := Except.ok.inj hpaths
    obtain ⟨p, hp, rfl⟩ := List.mem_map.mp hop
    exact exists_pathTo_of_mem (.inl hp)
  | emit =>
    obtain rfl := Except.ok.inj hpaths
    obtain ⟨p, hp, rfl⟩ := List.mem_map.mp hop
    exact exists_pathTo_of_mem (.inr hp)
  | other code => cases hpaths

end Tree

namespace Compiles

variable {c : Compiler} {t : Tree} {p : Path} {branches : List NodeId} {k : ℕ} {q : Query}
  {tables : List MembershipTable} {slots : List Slot}

/-- The first step of a branch is live and stands below the end of the path. -/
theorem branch (h : Compiles c t p branches k q tables slots) :
    ∀ b ∈ branches, ∃ n, t.node? b = some n ∧ n.parent = some p.leaf := by
  have hjoins : ∃ js, t.branchJoins c.dialect p branches = .ok js := by
    cases h with
    | single parts sorted uncut shown fit => exact ⟨_, fit.optional⟩
    | split sorted cut joints derived =>
      obtain ⟨r, hr, hends⟩ := Run.exists_ends true (t.segments_ne_nil p)
      obtain ⟨_, _, _, parts, _, -, fit, -⟩ := exists_of_mem_forall₂ derived.exists_fit hr
      have hoptional := fit.optional
      rw [if_pos hends] at hoptional
      exact ⟨_, hoptional⟩
  obtain ⟨js, hjs⟩ := hjoins
  obtain ⟨above, -, h₁⟩ := bind_eq_ok_iff.mp hjs
  intro b hb
  obtain ⟨i, hi, rfl⟩ := List.getElem_of_mem hb
  obtain ⟨j, -, h₂⟩ := exists_of_mem_of_mapM_eq_ok h₁ (branches[i], i)
    (List.mk_mem_zipIdx_iff_getElem?.mpr (List.getElem?_eq_getElem hi))
  dsimp only at h₂
  rw [Tree.branchJoin] at h₂
  split at h₂
  · cases h₂
  · next n hn =>
    split at h₂
    · cases h₂
    · next hparent => exact ⟨n, hn, not_not.mp hparent⟩

/-- A query has an alias for each projected column. -/
theorem length_names (h : Compiles c t p branches k q tables slots) :
    q.names.length = (t.shownSlots p.leaf p.all).length := by
  obtain ⟨qs, -, hslots, hnames⟩ := h.exists_shown
  rw [hnames, List.length_map, ← hslots, List.length_map]

/-- The steps of a compiled path and the branches below it are visited when the tree is checked, so
their tables are declared. -/
theorem declared (h : Compiles c t p branches k q tables slots) (hbuilt : t.Built)
    (hvalid : t.validate = .ok ()) {g : Topology} (hcatalog : t.catalog = some g) {id : NodeId}
    (hp : p = t.pathTo id) : (∀ i ∈ p.all, ∃ info, g.info? (t.nodeAt i).table = some info) ∧
      ∀ b ∈ branches, ∃ info, g.info? (t.nodeAt b).table = some info := by
  obtain ⟨hlive, -⟩ := h.steps
  have hchain := h.isChain_all hbuilt hp
  have hdeclared : ∀ rest, (rootId :: rest).IsChain t.IsParent →
      (∀ i ∈ rootId :: rest, ∃ n, t.node? i = some n) →
      ∀ i ∈ rootId :: rest, ∃ info, g.info? (t.nodeAt i).table = some info := by
    intro rest hchain hlive i hi
    obtain ⟨n, hn⟩ := hlive i hi
    have hwalk := Tree.mem_walk_of_isChain hbuilt hchain
      (fun i hi ↦ Tree.isLive_iff.mpr (hlive i hi)) i hi
    rw [Tree.nodeAt_of_some hn]
    exact Tree.exists_info_of_validate hvalid hcatalog hwalk hn
  refine ⟨hdeclared p.nodes hchain hlive, fun b hb ↦ ?_⟩
  obtain ⟨n, hn, hparent⟩ := h.branch b hb
  refine hdeclared (p.nodes ++ [b]) ?_ ?_ b (by simp)
  · change (p.all ++ [b]).IsChain t.IsParent
    rw [List.isChain_append, Tree.getLast?_all]
    refine ⟨hchain, .singleton _, ?_⟩
    simpa using (Tree.isParent_of_some hn).mpr hparent
  · change ∀ i ∈ p.all ++ [b], ∃ n, t.node? i = some n
    rw [List.forall_mem_append]
    exact ⟨hlive, by simpa using ⟨n, hn⟩⟩

/-- The text of a path of a checked tree answers the matches of the path whose end is lonely for
every branch. -/
theorem filter_eval_written (h : Compiles c t p branches k q [] slots) (hbuilt : t.Built)
    (hvalid : t.validate = .ok ()) {g : Topology} (ht : t.PlainOver g) {id : NodeId}
    (hp : p = t.pathTo id) (d : Dialect) {db : RowStore} (hdb : db.Identified) :
    ((q.written d).eval db).filter (fun cells ↦ ¬(t.leafIdentity p cells).isNull) =
      ((t.matchesOf db p).filter fun rs ↦
        ∀ b ∈ branches, t.Lonely db b (Tree.rowOf p.all rs p.leaf)).map (t.answerOf p q.names) := by
  have hchain := h.isChain_all hbuilt hp
  have hnodup := Tree.nodup_of_isChain hbuilt.rooted hchain
  obtain ⟨hdeclared, hbranches⟩ := h.declared hbuilt hvalid ht.catalog hp
  rw [h.written_eq ht hdeclared hbranches]
  exact h.filter_eval ht.catalog ht.indexed hchain hnodup hdb

end Compiles

/-! ## Regular and emit statements -/

/-- **Regular and emit statements compute the matches of their paths.** Over a checked tree whose
topology has plain names, whatever the aliases given before, the rows with an identity that the
text of the statement answers are, as a bag, one row for every match of the path. -/
theorem filter_eval_statement {t : Tree} (hbuilt : t.Built) (hvalid : t.validate = .ok ())
    {g : Topology} (ht : t.PlainOver g) {c : Compiler} {mode : Mode} {p : Path}
    (hp : p ∈ t.regularPaths ∨ p ∈ t.emitPaths) {s s' : CompileState} {st : Statement}
    (hst : (CompileM.statement c t mode p []).Yields s st s') (hinline : st.tables = [])
    {db : RowStore} (hdb : db.Identified) :
    st.query.names.length = (t.shownSlots p.leaf p.all).length ∧
      ((st.query.written st.dialect).eval db).filter
          (fun cells ↦ ¬(t.leafIdentity p cells).isNull) =
        (t.matchesOf db p).map (t.answerOf p st.query.names) := by
  obtain ⟨-, -, slots, hcompiles, -⟩ := CompileM.yields_statement hst
  obtain ⟨id, hid⟩ := Tree.exists_pathTo_of_mem hp
  rw [hinline] at hcompiles
  refine ⟨hcompiles.length_names, ?_⟩
  rw [hcompiles.filter_eval_written hbuilt hvalid ht hid st.dialect hdb]
  simp

/-! ### A path that is cut

Vertices `a` and edges `e` between them; two edges in a row repeat a table, so the path over them
is cut. The second edge is optional.
-/

/-- Vertices and edges between them. -/
def arrows : Declarations :=
  [("s", some {
    vertices := [("a", none)]
    edges := [("e", some { outs := ["a"], ins := ["a"] })] })]

/-- The topology of the arrows. -/
def arrowGraph : Topology where
  publicSchema := "s"
  declarations := arrows
  tables := match arrows.index with
    | .ok tables => tables
    | .error _ => []

/-- Two edges in a row; the vertices they start from have the same label. -/
def arrowTree : Tree :=
  let root := Tree.ofRoot (some arrowGraph) { table := ⟨"s", "V_a"⟩, labels := ["x"] }
  let first := (root.addChild? 0 { table := ⟨"s", "E_e"⟩, element := .edge }).getD root
  let second := (first.addChild? 1 { table := ⟨"s", "V_a"⟩, labels := ["x"] }).getD first
  (second.addChild? 2 { table := ⟨"s", "E_e"⟩, element := .edge, isOptional := true }).getD second

theorem Tree.Built.addChild {t : Tree} (h : t.Built) (parent : NodeId) (spec : StepSpec) :
    ((t.addChild? parent spec).getD t).Built := by
  cases hadd : t.addChild? parent spec with
  | none => exact h
  | some t' => exact h.child hadd

theorem built_arrowTree : arrowTree.Built := by
  unfold arrowTree
  exact (((Tree.Built.root _ _).addChild _ _).addChild _ _).addChild _ _

theorem plainOver_arrowTree : arrowTree.PlainOver arrowGraph where
  catalog := rfl
  indexed := ⟨arrows, rfl⟩
  plain := by
    intro table info h
    have hall : ∀ x ∈ arrowGraph.tables, PlainName x.1.schema ∧ PlainName x.1.name ∧
        ∀ c ∈ x.2.columnNames, PlainName c := by
      decide +kernel
    exact hall _ (mem_of_lookupKey h)

/-- One vertex and one edge, which leads from the vertex back to it. -/
def arrowRows : RowStore where
  rows table :=
    if table.isEdge then {fun column ↦ .str (if column = idColumn then "2" else "1")}
    else {fun _ ↦ .str "1"}
  temporaries _ := 0
  compare op
    | .str x, .str y => .ofBool (op = .eq && x = y)
    | _, _ => .unknown
  like _ _ := .unknown
  compare_null_left _ _ := rfl
  compare_null_right _ v := by cases v <;> rfl
  like_null _ := rfl

theorem identified_arrowRows : arrowRows.Identified := by
  intro table r hr
  change r ∈ (if table.isEdge then _ else _ : Multiset Row) at hr
  split at hr <;> rw [Multiset.mem_singleton.mp hr] <;> exact Bool.false_ne_true

/-- The compiler that writes every list inline. -/
def inlineCompiler : Compiler := { dialect := ⟨.postgres, "s", 1000, false⟩ }

/-- The two edges in a row have a statement of two derived tables, which answers their matches. -/
theorem filter_eval_arrows : arrowTree.segments ⟨[1, 2, 3]⟩ = [[1, 2], [3]] ∧ ∃ st s',
    (CompileM.statement inlineCompiler arrowTree .regular ⟨[1, 2, 3]⟩ []).Yields {} st s' ∧
      st.query.names.length = (arrowTree.shownSlots 3 [0, 1, 2, 3]).length ∧
      ((st.query.written st.dialect).eval arrowRows).filter
          (fun cells ↦ ¬(arrowTree.leafIdentity ⟨[1, 2, 3]⟩ cells).isNull) =
        (arrowTree.matchesOf arrowRows ⟨[1, 2, 3]⟩).map
          (arrowTree.answerOf ⟨[1, 2, 3]⟩ st.query.names) := by
  obtain ⟨st, s', hst, hinline⟩ := CompileM.exists_yields (s := {})
    (m := CompileM.statement inlineCompiler arrowTree .regular ⟨[1, 2, 3]⟩ [])
    (P := fun st _ ↦ st.tables.isEmpty) (by decide +kernel)
  exact ⟨by decide, st, s', hst, filter_eval_statement built_arrowTree (by decide +kernel)
    plainOver_arrowTree (.inl (by decide)) hst (List.isEmpty_iff.mp hinline)
    identified_arrowRows⟩

/-! ## Optional statements -/

/-- **Optional statements select the elements without a branch.** The rows with an identity that
the text of the statement answers are, as a bag, one row for every match of the path whose end is
lonely for all its optional branches; a match with one or more partners in some branch has none. -/
theorem filter_eval_optional_statement {t : Tree} (hbuilt : t.Built) (hvalid : t.validate = .ok ())
    {g : Topology} (ht : t.PlainOver g) {c : Compiler} {mode : Mode} {op : OptionalPath}
    (hop : op ∈ t.optionalPaths) {s s' : CompileState} {st : Statement}
    (hst : (CompileM.statement c t mode op.path op.branches).Yields s st s')
    (hinline : st.tables = []) {db : RowStore} (hdb : db.Identified) :
    st.query.names.length = (t.shownSlots op.path.leaf op.path.all).length ∧
      ((st.query.written st.dialect).eval db).filter
          (fun cells ↦ ¬(t.leafIdentity op.path cells).isNull) =
        ((t.matchesOf db op.path).filter fun rs ↦ ∀ b ∈ op.branches,
          t.Lonely db b (Tree.rowOf op.path.all rs op.path.leaf)).map
            (t.answerOf op.path st.query.names) := by
  obtain ⟨-, -, slots, hcompiles, -⟩ := CompileM.yields_statement hst
  obtain ⟨id, hid⟩ := Tree.exists_pathTo_of_mem_optionalPaths hop
  rw [hinline] at hcompiles
  exact ⟨hcompiles.length_names,
    hcompiles.filter_eval_written hbuilt hvalid ht hid st.dialect hdb⟩

/-- The path over one edge, and the further edge that may be missing. -/
def arrowEnd : OptionalPath := ⟨⟨[1, 2]⟩, [3]⟩

/-- The vertices after one edge that have no further edge. -/
theorem filter_eval_arrowEnd : ∃ st s',
    (CompileM.statement inlineCompiler arrowTree .optional arrowEnd.path
        arrowEnd.branches).Yields {} st s' ∧
      st.query.names.length =
        (arrowTree.shownSlots arrowEnd.path.leaf arrowEnd.path.all).length ∧
      ((st.query.written st.dialect).eval arrowRows).filter
          (fun cells ↦ ¬(arrowTree.leafIdentity arrowEnd.path cells).isNull) =
        ((arrowTree.matchesOf arrowRows arrowEnd.path).filter fun rs ↦ ∀ b ∈ arrowEnd.branches,
          arrowTree.Lonely arrowRows b
            (Tree.rowOf arrowEnd.path.all rs arrowEnd.path.leaf)).map
            (arrowTree.answerOf arrowEnd.path st.query.names) := by
  obtain ⟨st, s', hst, hinline⟩ := CompileM.exists_yields (s := {})
    (m := CompileM.statement inlineCompiler arrowTree .optional arrowEnd.path arrowEnd.branches)
    (P := fun st _ ↦ st.tables.isEmpty) (by decide +kernel)
  exact ⟨st, s', hst, filter_eval_optional_statement built_arrowTree (by decide +kernel)
    plainOver_arrowTree (by decide) hst (List.isEmpty_iff.mp hinline) identified_arrowRows⟩

end PathQuery
