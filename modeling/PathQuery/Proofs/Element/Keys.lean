import PathQuery.Proofs.Element.Decoding

/-!
# The keys of columns

The key of a column joins the labels of its step, its table and its name by points, and nearly all
of these may hold points of their own. What can be read off a key are the parts between the points,
not which of them belong together. So two columns have one key exactly when the labels of one go on
where those of the other end, with the parts that its table begins with: a key says how a column is
spelled, and two columns may be spelled alike.

The name of a table is led in by a mark. Where no label and no part of a schema begins with a mark,
the first part that does is the table, and where the schemas have as many parts as each other, the
table tells the labels from the schema. Then the key of a column gives the column back.
-/

namespace PathQuery

/-! ## Texts and their parts -/

theorem splitOn_append_cons {α : Type} [BEq α] [LawfulBEq α] (a : α) (xs ys : List α) :
    (xs ++ a :: ys).splitOn a = xs.splitOn a ++ ys.splitOn a := by
  simp only [List.splitOn_eq_splitOnP]
  exact List.splitOnP_append_cons xs ys (by simp)

theorem splitOn_inj {α : Type} [BEq α] [LawfulBEq α] {a : α} {xs ys : List α} :
    xs.splitOn a = ys.splitOn a ↔ xs = ys := by
  constructor
  · intro h
    calc xs = [a].intercalate (xs.splitOn a) := (List.intercalate_splitOn a).symm
      _ = [a].intercalate (ys.splitOn a) := by rw [h]
      _ = ys := List.intercalate_splitOn a
  · intro h
    rw [h]

/-- Two lists that are split at the first element with a property are split alike. -/
theorem append_cons_inj_of_first {α : Type} {P : α → Prop} {xs ys us vs : List α} {a b : α}
    (hxs : ∀ x ∈ xs, ¬P x) (ha : P a) (hys : ∀ y ∈ ys, ¬P y) (hb : P b)
    (h : xs ++ a :: us = ys ++ b :: vs) : xs = ys ∧ a = b ∧ us = vs := by
  -- the longer beginning would hold the element at which the other list is split
  rcases List.append_eq_append_iff.mp h with ⟨zs, rfl, hzs⟩ | ⟨zs, rfl, hzs⟩
  · cases zs with
    | nil => simpa using hzs
    | cons z zs =>
      obtain ⟨rfl, -⟩ := List.cons.inj hzs
      exact absurd ha (hys a (by simp))
  · cases zs with
    | nil => simpa [eq_comm] using hzs
    | cons z zs =>
      obtain ⟨rfl, -⟩ := List.cons.inj hzs
      exact absurd hb (hxs b (by simp))

/-! ## Keys -/

namespace Column

variable {c d : Column}

/-- The labels, as parts of the key. -/
def labelParts (c : Column) : List (List Char) :=
  if c.labels = "" then [] else c.labels.toList.splitOn '.'

/-- The table and the name, as parts of the key. -/
def nameParts (c : Column) : List (List Char) :=
  (c.table.render ++ "." ++ c.name).toList.splitOn '.'

theorem mem_labelParts {part : List Char} :
    part ∈ c.labelParts ↔ c.labels ≠ "" ∧ part ∈ c.labels.toList.splitOn '.' := by
  rw [labelParts]
  split
  · next hlabels => simp [hlabels]
  · next hlabels => simp [hlabels]

theorem splitOn_key (c : Column) : c.key.toList.splitOn '.' = c.labelParts ++ c.nameParts := by
  rw [key, labelParts, nameParts]
  split
  · rw [List.nil_append]
  · rw [← splitOn_append_cons]
    simp [String.toList_append]

/-- The labels of `d` go on where those of `c` end, with the parts that the table of `c` begins
with. -/
def Overlaps (c d : Column) : Prop :=
  ∃ between, d.labelParts = c.labelParts ++ between ∧ c.nameParts = between ++ d.nameParts

/-- Columns that are spelled alike overlap. -/
theorem key_eq_key_iff : c.key = d.key ↔ c.Overlaps d ∨ d.Overlaps c := by
  rw [← String.toList_inj, ← splitOn_inj (a := '.'), splitOn_key, splitOn_key,
    List.append_eq_append_iff]
  rfl

theorem keyed_iff_overlaps {cs : List Column} :
    Keyed cs ↔ ∀ c ∈ cs, ∀ d ∈ cs, c.Overlaps d → c = d := by
  constructor
  · intro h c hc d hd hoverlaps
    exact h c hc d hd (key_eq_key_iff.mpr (.inl hoverlaps))
  · intro h c hc d hd hkey
    rcases key_eq_key_iff.mp hkey with hoverlaps | hoverlaps
    · exact h c hc d hd hoverlaps
    · exact (h d hd c hc hoverlaps).symm

theorem labels_eq_of_labelParts (h : c.labelParts = d.labelParts) : c.labels = d.labels := by
  rw [labelParts, labelParts] at h
  by_cases hc : c.labels = "" <;> by_cases hd : d.labels = ""
  · rw [hc, hd]
  · rw [if_pos hc, if_neg hd] at h
    exact absurd h.symm (List.splitOn_ne_nil _ _)
  · rw [if_neg hc, if_pos hd] at h
    exact absurd h (List.splitOn_ne_nil _ _)
  · rw [if_neg hc, if_neg hd, splitOn_inj] at h
    exact String.toList_inj.mp h

end Column

/-! ## Keys that give the column back -/

/-- A part that is led in like the name of a table. -/
def Marked (part : List Char) : Prop := (Table.classify part).1 ≠ .unknown

instance : DecidablePred Marked := fun _ ↦ instDecidableNot

/-- The parts of a table's schema. -/
def Table.schemaParts (t : Table) : List (List Char) := t.schema.toList.splitOn '.'

namespace Column

variable {c d : Column}

/-- A column whose table can be found in its key. -/
structure Recognizable (c : Column) : Prop where
  labels : ∀ part ∈ c.labelParts, ¬Marked part
  schema : ∀ part ∈ c.table.schemaParts, ¬Marked part
  marked : Marked c.table.name.toList
  plain : '.' ∉ c.table.name.toList

theorem nameParts_eq (h : '.' ∉ c.table.name.toList) :
    c.nameParts = c.table.schemaParts ++ c.table.name.toList :: c.name.toList.splitOn '.' := by
  have htext : (c.table.render ++ "." ++ c.name).toList =
      c.table.schema.toList ++ '.' :: (c.table.name.toList ++ '.' :: c.name.toList) := by
    simp [Table.render, String.toList_append]
  rw [nameParts, htext, splitOn_append_cons, splitOn_append_cons, List.splitOn_eq_singleton h,
    Table.schemaParts, List.singleton_append]

/-- The first marked part is the table, and the parts of the schema stand right before it. -/
theorem Recognizable.eq_of_key_eq (hc : c.Recognizable) (hd : d.Recognizable)
    (hlength : c.table.schemaParts.length = d.table.schemaParts.length) (hkey : c.key = d.key) :
    c = d := by
  have hparts := congrArg (fun text ↦ text.toList.splitOn '.') hkey
  simp only [splitOn_key, nameParts_eq hc.plain, nameParts_eq hd.plain] at hparts
  rw [← List.append_assoc, ← List.append_assoc] at hparts
  have hunmarked : ∀ {c : Column}, c.Recognizable →
      ∀ part ∈ c.labelParts ++ c.table.schemaParts, ¬Marked part :=
    fun h part hpart ↦ (List.mem_append.mp hpart).elim (h.labels part) (h.schema part)
  obtain ⟨hbefore, htable, hname⟩ := append_cons_inj_of_first (hunmarked hc) hc.marked
    (hunmarked hd) hd.marked hparts
  -- labels and schema can be told apart only because both schemas have as many parts
  obtain ⟨hlabels, hschema⟩ := List.append_inj' hbefore hlength
  obtain ⟨labels, ⟨schema, table⟩, name⟩ := c
  obtain ⟨labels', ⟨schema', table'⟩, name'⟩ := d
  obtain rfl : labels = labels' := labels_eq_of_labelParts hlabels
  obtain rfl : schema = schema' := String.toList_inj.mp (splitOn_inj.mp hschema)
  obtain rfl : table = table' := String.toList_inj.mp htable
  obtain rfl : name = name' := String.toList_inj.mp (splitOn_inj.mp hname)
  rfl

end Column

/-! ## The columns of a statement -/

theorem Compiles.node_mem_of_mem_slots {c : Compiler} {t : Tree} {p : Path} {branches : List NodeId}
    {k : ℕ} {q : Query} {tables : List MembershipTable} {slots : List Slot}
    (h : Compiles c t p branches k q tables slots) {x : Slot} (hx : x ∈ slots) :
    x.node ∈ p.all := by
  cases h with
  | single => exact Tree.node_mem_of_mem_shownSlots hx
  | split =>
    obtain ⟨r, hr, hx⟩ := List.mem_flatMap.mp hx
    rw [← Run.flatMap_ids_ofSegments t p]
    exact List.mem_flatMap.mpr ⟨r, hr, Run.node_mem_of_mem_slots hx⟩

namespace Tree

variable {t : Tree}

/-- The parts of the labels of a slot are the labels of its step, or the one of the helpers. -/
theorem mem_labelParts_slotColumn {x : Slot}
    (hlabels : ∀ l ∈ (t.nodeAt x.node).labels, '.' ∉ l.toList) {part : List Char}
    (hpart : part ∈ (t.slotColumn x).labelParts) :
    part = hiddenLabels.toList ∨ ∃ l ∈ (t.nodeAt x.node).labels, l.toList = part := by
  obtain ⟨hne, hcut⟩ := Column.mem_labelParts.mp hpart
  obtain ⟨id, role, column⟩ := x
  cases role with
  | result => exact absurd rfl hne
  | labeled =>
    change joinLabels (t.nodeAt id).labels ≠ "" at hne
    change part ∈ (joinLabels (t.nodeAt id).labels).toList.splitOn '.' at hcut
    have hnil : (t.nodeAt id).labels ≠ [] := by
      intro hnil
      simp [hnil, joinLabels] at hne
    rw [splitOn_joinLabels hnil hlabels] at hcut
    obtain ⟨l, hl, heq⟩ := List.mem_map.mp hcut
    exact .inr ⟨l, List.mem_mergeSort.mp hl, heq⟩
  | helper =>
    change part ∈ hiddenLabels.toList.splitOn '.' at hcut
    rw [List.splitOn_eq_singleton (by decide)] at hcut
    exact .inl (List.mem_singleton.mp hcut)

/-- On these steps nothing but the name of a table looks like one, and the schemas have as many
parts as each other. -/
structure PlainlyNamed (t : Tree) (ids : List NodeId) : Prop where
  tables : ∀ id ∈ ids, '.' ∉ (t.nodeAt id).table.name.toList
  schemas : ∀ id ∈ ids, ∀ part ∈ (t.nodeAt id).table.schemaParts, ¬Marked part
  labels : ∀ id ∈ ids, ∀ l ∈ (t.nodeAt id).labels, ¬Marked l.toList
  level : ∀ id ∈ ids, ∀ id' ∈ ids,
    (t.nodeAt id).table.schemaParts.length = (t.nodeAt id').table.schemaParts.length

/-- A checked step has an element table. -/
theorem marked_of_validate (hvalid : t.validate = .ok ()) {id : NodeId} (hid : id ∈ t.walk)
    {n : Node} (hn : t.node? id = some n) : Marked n.table.name.toList := by
  have hfault := nodeFault_eq_none hvalid hid hn
  rw [nodeFault, Option.orElse_eq_or, Option.or_eq_none_iff, tableFault] at hfault
  obtain ⟨htable, -⟩ := hfault
  split at htable
  · cases htable
  · next hkind => exact hkind

/-- **Keys tell columns apart unless they overlap.** The columns that a statement of a checked tree
registers, labeled ones and helpers included, have different keys if and only if no two of them
overlap. They have different keys if the names of the tables hold no points, no label and no part of
a schema is led in like the name of a table, and all schemas on the path have as many parts as each
other, whatever the columns are called. -/
theorem keyed_statement {t : Tree} (hbuilt : t.Built) (hvalid : t.validate = .ok ()) {c : Compiler}
    {mode : Mode} {paths : List OptionalPath} (hpaths : CompileM.modePaths t mode = .ok paths)
    {op : OptionalPath} (hop : op ∈ paths) {s s' : CompileState} {st : Statement}
    (hst : (CompileM.statement c t mode op.path op.branches).Yields s st s') :
    (Column.Keyed (s'.registry.since s.registry.size) ↔
      ∀ x ∈ s'.registry.since s.registry.size, ∀ y ∈ s'.registry.since s.registry.size,
        x.Overlaps y → x = y) ∧
    (t.PlainlyNamed op.path.all → Column.Keyed (s'.registry.since s.registry.size)) := by
  refine ⟨Column.keyed_iff_overlaps, fun hplain ↦ ?_⟩
  obtain ⟨-, -, slots, hcompiles, hregistry⟩ := CompileM.yields_statement hst
  obtain ⟨id, hid⟩ := exists_pathTo_of_modePaths hpaths hop
  have hchain := hcompiles.isChain_all hbuilt hid
  have hlive := hcompiles.steps.1
  have hwalk := mem_walk_of_isChain hbuilt hchain fun i hi ↦ isLive_iff.mpr (hlive i hi)
  -- every column is one of a checked step of the path
  have hcolumn : ∀ column ∈ s'.registry.since s.registry.size, column.Recognizable ∧
      ∃ i ∈ op.path.all, column.table = (t.nodeAt i).table := by
    intro column hmem
    rw [hregistry, since_withSlots] at hmem
    obtain ⟨x, hx, rfl⟩ := List.mem_map.mp hmem
    have hon := hcompiles.node_mem_of_mem_slots hx
    obtain ⟨n, hn⟩ := hlive x.node hon
    have hlabels : ∀ l ∈ (t.nodeAt x.node).labels, '.' ∉ l.toList := by
      rw [nodeAt_of_some hn]
      exact fun l hl ↦ (labels_of_validate hvalid (hwalk _ hon) hn l hl).2
    refine ⟨⟨fun part hpart ↦ ?_, hplain.schemas _ hon, ?_, hplain.tables _ hon⟩, x.node, hon, rfl⟩
    · rcases mem_labelParts_slotColumn hlabels hpart with rfl | ⟨l, hl, rfl⟩
      · decide
      · exact hplain.labels _ hon l hl
    · rw [slotColumn, nodeAt_of_some hn]
      exact marked_of_validate hvalid (hwalk _ hon) hn
  intro x hx y hy hkey
  obtain ⟨hx, i, hi, hxtable⟩ := hcolumn x hx
  obtain ⟨hy, j, hj, hytable⟩ := hcolumn y hy
  refine hx.eq_of_key_eq hy ?_ hkey
  rw [hxtable, hytable]
  exact hplain.level i hi j hj

/-! ### Columns that are spelled alike

The labels of a step may be what the schema of another begins with. A vertex of the schema `s`
labeled `a` then has the columns of a vertex of the same name in the schema `a.s`.
-/

/-- Vertices of two schemas and edges from those of one to those of the other. -/
def dottedBridge : Declarations :=
  [("s", some {
    vertices := [("x", none)]
    edges := [("e", some { outs := ["x"], ins := ["a.s.x"] })] }),
   ("a.s", some { vertices := [("x", some ⟨[{ name := "p", type := .string }]⟩)] })]

/-- The topology of the two schemas. -/
def dottedGraph : Topology where
  publicSchema := "s"
  declarations := dottedBridge
  tables := match dottedBridge.index with
    | .ok tables => tables
    | .error _ => []

/-- One edge from a labeled vertex to another one. -/
def dottedTree : Tree :=
  let root := Tree.ofRoot (some dottedGraph) { table := ⟨"s", "V_x"⟩, labels := ["a"] }
  let first := (root.addChild? 0 { table := ⟨"s", "E_e"⟩, element := .edge }).getD root
  (first.addChild? 1 { table := ⟨"a.s", "V_x"⟩ }).getD first

theorem built_dottedTree : dottedTree.Built := by
  unfold dottedTree
  exact ((Tree.Built.root _ _).addChild _ _).addChild _ _

theorem plainlyNamed_arrowTree : arrowTree.PlainlyNamed [0, 1, 2, 3] := by
  constructor <;> decide +kernel

/-- The columns of two edges in a row have different keys; those of the edge between the schemas do
not. -/
theorem keyed_arrows :
    (∃ st s',
      (CompileM.statement inlineCompiler arrowTree .regular ⟨[1, 2, 3]⟩ []).Yields {} st s' ∧
        Column.Keyed (s'.registry.since 0)) ∧
    ∃ st s', (CompileM.statement inlineCompiler dottedTree .regular ⟨[1, 2]⟩ []).Yields {} st s' ∧
      ¬Column.Keyed (s'.registry.since 0) := by
  constructor
  · obtain ⟨st, s', hst, -⟩ := CompileM.exists_yields (s := {})
      (m := CompileM.statement inlineCompiler arrowTree .regular ⟨[1, 2, 3]⟩ [])
      (P := fun _ _ ↦ true) (by decide +kernel)
    have hpath : (⟨⟨[1, 2, 3]⟩, []⟩ : OptionalPath) ∈ arrowTree.regularPaths.map (⟨·, []⟩) := by
      decide +kernel
    obtain ⟨-, hkeyed⟩ := keyed_statement built_arrowTree (by decide +kernel) rfl hpath hst
    exact ⟨st, s', hst, hkeyed plainlyNamed_arrowTree⟩
  · obtain ⟨st, s', hst, hchecked⟩ := CompileM.exists_yields (s := {})
      (m := CompileM.statement inlineCompiler dottedTree .regular ⟨[1, 2]⟩ [])
      (P := fun _ s' ↦ ⟨"", ⟨"a.s", "V_x"⟩, idColumn⟩ ∈ s'.registry.since 0 ∧
        ⟨"a", ⟨"s", "V_x"⟩, idColumn⟩ ∈ s'.registry.since 0) (by decide +kernel)
    obtain ⟨hend, hlabeled⟩ := of_decide_eq_true hchecked
    have hpath : (⟨⟨[1, 2]⟩, []⟩ : OptionalPath) ∈ dottedTree.regularPaths.map (⟨·, []⟩) := by
      decide +kernel
    obtain ⟨hiff, -⟩ := keyed_statement built_dottedTree (by decide +kernel) rfl hpath hst
    refine ⟨st, s', hst, fun hkeyed ↦ ?_⟩
    have hoverlaps : Column.Overlaps ⟨"", ⟨"a.s", "V_x"⟩, idColumn⟩ ⟨"a", ⟨"s", "V_x"⟩, idColumn⟩ :=
      ⟨[['a']], by decide +kernel, by decide +kernel⟩
    have heq := hiff.mp hkeyed _ hend _ hlabeled hoverlaps
    simp at heq

end Tree

end PathQuery
