import PathQuery.Proofs.Graph.Creation

/-!
# What declarations mean

Declarations are lists of labels by schema, but what becomes of them does not depend on the order of
these lists: a label says which properties its table has and which vertices it connects, and an
index holds for each label the table of what it says. So declarations that say the same are indexed
to the same tables or refused together, and what a table's label said can be read off the table.
-/

namespace PathQuery

/-- What a label says about its table. -/
structure LabelMeaning where
  /-- The properties, in column order. -/
  properties : List Property
  /-- The vertices an edge may start from. -/
  outs : List Table := []
  /-- The vertices an edge may lead to. -/
  ins : List Table := []
  deriving DecidableEq

/-- The foreign key of an edge to a vertex table. -/
def Table.foreignKey (d : Direction) (vertex : Table) : ForeignKey :=
  ⟨vertex.foreignKeyColumn d, vertex, d⟩

namespace LabelMeaning

/-- The foreign keys of the table of a label. -/
def foreignKeys (m : LabelMeaning) : List ForeignKey :=
  m.outs.map (Table.foreignKey .outward) ++ m.ins.map (Table.foreignKey .inward)

/-- The two sides of an edge can be told apart by the direction of the foreign keys. -/
theorem vertices_of_foreignKeys (m : LabelMeaning) :
    (m.foreignKeys.filter (·.direction = .outward)).map (·.vertex) = m.outs ∧
      (m.foreignKeys.filter (·.direction = .inward)).map (·.vertex) = m.ins := by
  simp [foreignKeys, List.filter_map, Function.comp_def, Table.foreignKey]

theorem ext_foreignKeys {m m' : LabelMeaning} (hproperties : m.properties = m'.properties)
    (hkeys : m.foreignKeys = m'.foreignKeys) : m = m' := by
  obtain ⟨houts, hins⟩ := m.vertices_of_foreignKeys
  obtain ⟨houts', hins'⟩ := m'.vertices_of_foreignKeys
  rw [hkeys] at houts hins
  cases m
  cases m'
  exact LabelMeaning.mk.injEq .. ▸ ⟨hproperties, houts.symm.trans houts', hins.symm.trans hins'⟩

end LabelMeaning

namespace TableInfo

/-- Adds the foreign keys of one side of an edge, whose vertices have to be declared. -/
def addSide (declares : Table → Bool) (edge : Table) (d : Direction) (info : TableInfo)
    (vertices : List Table) : Except Topology.Error TableInfo :=
  vertices.foldlM (fun info vertex ↦
    if declares vertex then info.addForeignKey edge vertex d
    else .error (.unknownVertex edge vertex)) info

/-- The table of a label. -/
def ofMeaning (declares : Table → Bool) (table : Table) (m : LabelMeaning) :
    Except Topology.Error TableInfo := do
  let info ← ofProperties table m.properties
  let info ← addSide declares table .outward info m.outs
  addSide declares table .inward info m.ins

theorem addForeignKey_eq_ok {edge vertex : Table} {d : Direction} {info info' : TableInfo}
    (h : info.addForeignKey edge vertex d = .ok info') :
    info'.properties = info.properties ∧
      info'.foreignKeys = info.foreignKeys ++ [vertex.foreignKey d] := by
  rw [addForeignKey] at h
  dsimp only at h
  split at h
  · cases h
  · obtain rfl := Except.ok.inj h
    exact ⟨rfl, rfl⟩

theorem addSide_eq_ok {declares : Table → Bool} {edge : Table} {d : Direction}
    {info info' : TableInfo} {vertices : List Table}
    (h : addSide declares edge d info vertices = .ok info') :
    info'.properties = info.properties ∧
      info'.foreignKeys = info.foreignKeys ++ vertices.map (Table.foreignKey d) := by
  induction vertices generalizing info with
  | nil =>
    obtain rfl : info = info' := by simpa [addSide, pure, Except.pure] using h
    exact ⟨rfl, (List.append_nil _).symm⟩
  | cons v vertices ih =>
    rw [addSide, List.foldlM_cons] at h
    obtain ⟨info₁, hadd, hrest⟩ := bind_eq_ok_iff.mp h
    split at hadd
    · obtain ⟨hproperties, hkeys⟩ := addForeignKey_eq_ok hadd
      obtain ⟨hproperties', hkeys'⟩ := ih hrest
      exact ⟨hproperties'.trans hproperties, by rw [hkeys', hkeys]; simp⟩
    · cases hadd

/-- What a label says can be read off its table. -/
theorem ofMeaning_eq_ok {declares : Table → Bool} {table : Table} {m : LabelMeaning}
    {info : TableInfo} (h : ofMeaning declares table m = .ok info) :
    info.properties = m.properties ∧ info.foreignKeys = m.foreignKeys := by
  obtain ⟨info₁, h₁, h⟩ := bind_eq_ok_iff.mp h
  obtain ⟨info₂, h₂, h₃⟩ := bind_eq_ok_iff.mp h
  obtain ⟨columns, -, heq⟩ := bind_eq_ok_iff.mp h₁
  obtain rfl := Except.ok.inj heq
  obtain ⟨hproperties₂, hkeys₂⟩ := addSide_eq_ok h₂
  obtain ⟨hproperties₃, hkeys₃⟩ := addSide_eq_ok h₃
  exact ⟨hproperties₃.trans hproperties₂, by rw [hkeys₃, hkeys₂, List.nil_append]; rfl⟩

end TableInfo

/-! ## Labels and their meanings -/

namespace Declarations

/-- What a vertex label says. -/
def vertexSays (v : VertexLabel) : LabelMeaning := { properties := v.properties }

/-- What an edge label says within its schema. -/
def edgeSays (schema : String) (e : EdgeLabel) : LabelMeaning where
  properties := e.properties
  outs := e.outs.map (vertexTable · schema)
  ins := e.ins.map (vertexTable · schema)

/-- What the vertex labels say. -/
def vertexMeanings (d : Declarations) : List (Table × LabelMeaning) :=
  d.vertexLabels.map fun x ↦ (x.1, vertexSays x.2)

/-- The table of an edge label and what the label says. -/
def edgeMeaning (x : String × String × EdgeLabel) : Table × LabelMeaning :=
  (.edge x.1 x.2.1, edgeSays x.1 x.2.2)

/-- What all labels say. -/
def meanings (d : Declarations) : List (Table × LabelMeaning) :=
  d.vertexMeanings ++ d.edgeLabels.map edgeMeaning

/-- Whether a table is declared. -/
def declares (d : Declarations) (table : Table) : Bool := (d.meanings.map Prod.fst).contains table

/-- Declarations that say the same. -/
def Alike (d e : Declarations) : Prop := ∀ x, x ∈ d.meanings ↔ x ∈ e.meanings

/-- Every schema is listed once, and so is every label of a schema. -/
structure Unique (d : Declarations) : Prop where
  /-- Every schema is listed once. -/
  schemas : (d.map Prod.fst).Nodup
  /-- Every vertex label of a schema is listed once. -/
  vertices : ∀ x ∈ d, ((x.2.getD {}).vertices.map Prod.fst).Nodup
  /-- Every edge label of a schema is listed once. -/
  edges : ∀ x ∈ d, ((x.2.getD {}).edges.map Prod.fst).Nodup

theorem isVertex_vertex (schema label : String) : (Table.vertex schema label).isVertex := by
  simp [Table.vertex, Table.isVertex, Table.kind, vertexMark, Table.classify]

theorem isVertex_vertexTable (ref schema : String) : (vertexTable ref schema).isVertex := by
  rw [vertexTable]
  split <;> exact isVertex_vertex _ _

theorem not_isVertex_edge (schema label : String) : ¬(Table.edge schema label).isVertex := by
  simp [Table.edge, Table.isVertex, Table.kind, edgeMark, Table.classify]

theorem nodup_flatMap_labels {δ : Type} {d : Declarations} (hd : (d.map Prod.fst).Nodup)
    {labels : String × Option SchemaLabels → List (String × δ)}
    (hlabels : ∀ x ∈ d, ((labels x).map Prod.fst).Nodup) {mark : String} :
    (d.flatMap fun x ↦ (labels x).map fun l ↦ (⟨x.1, mark ++ l.1⟩ : Table)).Nodup := by
  refine List.nodup_flatMap.mpr ⟨fun x hx ↦ ?_, ?_⟩
  · refine List.Nodup.of_map Table.name ?_
    have hnames : ((labels x).map fun l ↦ (⟨x.1, mark ++ l.1⟩ : Table)).map Table.name =
        ((labels x).map Prod.fst).map (mark ++ ·) := by
      rw [List.map_map, List.map_map]
      rfl
    rw [hnames]
    refine (hlabels x hx).map fun a b heq ↦ String.toList_inj.mp ?_
    simpa using congrArg String.toList heq
  · refine (List.pairwise_map.mp hd).imp fun {x y} hne table hx hy ↦ hne ?_
    obtain ⟨l, -, rfl⟩ := List.mem_map.mp hx
    obtain ⟨l', -, heq⟩ := List.mem_map.mp hy
    exact (Table.mk.inj heq).1.symm

theorem map_fst_vertexMeanings (d : Declarations) : d.vertexMeanings.map Prod.fst =
    d.flatMap fun x ↦ (x.2.getD {}).vertices.map fun l ↦ (⟨x.1, vertexMark ++ l.1⟩ : Table) := by
  rw [vertexMeanings, vertexLabels, List.map_map, List.map_flatMap]
  refine List.flatMap_congr fun x _ ↦ ?_
  rw [List.map_map]
  rfl

theorem map_fst_edgeMeanings (d : Declarations) : (d.edgeLabels.map edgeMeaning).map Prod.fst =
    d.flatMap fun x ↦ (x.2.getD {}).edges.map fun l ↦ (⟨x.1, edgeMark ++ l.1⟩ : Table) := by
  rw [edgeLabels, List.map_map, List.map_flatMap]
  refine List.flatMap_congr fun x _ ↦ ?_
  rw [List.map_map]
  rfl

theorem isVertex_of_mem_vertexMeanings {d : Declarations} {table : Table}
    (h : table ∈ d.vertexMeanings.map Prod.fst) : table.isVertex := by
  rw [map_fst_vertexMeanings] at h
  obtain ⟨x, -, h⟩ := List.mem_flatMap.mp h
  obtain ⟨l, -, rfl⟩ := List.mem_map.mp h
  exact isVertex_vertex _ _

theorem not_isVertex_of_mem_edgeMeanings {d : Declarations} {table : Table}
    (h : table ∈ (d.edgeLabels.map edgeMeaning).map Prod.fst) : ¬table.isVertex := by
  rw [map_fst_edgeMeanings] at h
  obtain ⟨x, -, h⟩ := List.mem_flatMap.mp h
  obtain ⟨l, -, rfl⟩ := List.mem_map.mp h
  exact not_isVertex_edge _ _

theorem Unique.nodup_meanings {d : Declarations} (hd : d.Unique) :
    (d.meanings.map Prod.fst).Nodup := by
  rw [meanings, List.map_append]
  refine List.nodup_append.mpr ⟨?_, ?_, ?_⟩
  · rw [map_fst_vertexMeanings]
    exact nodup_flatMap_labels hd.schemas hd.vertices
  · rw [map_fst_edgeMeanings]
    exact nodup_flatMap_labels hd.schemas hd.edges
  · rintro table hvertex table' hedge rfl
    exact not_isVertex_of_mem_edgeMeanings hedge (isVertex_of_mem_vertexMeanings hvertex)

theorem declares_of_isVertex {d : Declarations} {table : Table} (h : table.isVertex) :
    d.declares table = (d.vertexMeanings.map Prod.fst).contains table := by
  rw [Bool.eq_iff_iff, declares, meanings, List.map_append, List.contains_iff_mem,
    List.contains_iff_mem, List.mem_append, or_iff_left]
  exact fun hedge ↦ not_isVertex_of_mem_edgeMeanings hedge h

end Declarations

/-! ## The index of declarations -/

section Keys

variable {ε α β ι : Type} [BEq α] [LawfulBEq α]

/-- Under a key that is listed once stands what is listed with it. -/
theorem lookupKey_eq_some_iff {entries : List (α × β)} (h : (entries.map Prod.fst).Nodup) {key : α}
    {value : β} : lookupKey key entries = some value ↔ (key, value) ∈ entries := by
  refine ⟨mem_of_lookupKey, fun hmem ↦ ?_⟩
  obtain ⟨value', hvalue'⟩ := Option.isSome_iff_exists.mp
    (isSome_lookupKey_iff.mpr (List.mem_map_of_mem hmem))
  have heq := List.inj_on_of_nodup_map h (mem_of_lookupKey hvalue') hmem rfl
  rw [hvalue', (Prod.mk.inj heq).2]

/-- What is found does not depend on the order of the entries. -/
theorem lookupKey_eq_of_perm {entries entries' : List (α × β)} (hperm : entries.Perm entries')
    (h : (entries.map Prod.fst).Nodup) (key : α) :
    lookupKey key entries = lookupKey key entries' := by
  refine Option.ext fun value ↦ ?_
  rw [lookupKey_eq_some_iff h, lookupKey_eq_some_iff ((hperm.map Prod.fst).nodup_iff.mp h),
    hperm.mem_iff]

/-- A fold that puts entries under new keys lists them in order. -/
theorem foldlM_putKey_eq_ok_iff {f : List (α × β) → ι → Except ε (List (α × β))} {key : ι → α}
    {g : ι → Except ε β} {P : List (α × β) → Prop}
    (hf : ∀ entries x, P entries → f entries x = (g x).map (putKey (key x) · entries))
    (hP : ∀ entries x b, P entries → P (putKey (key x) b entries)) {xs : List ι}
    (hnodup : (xs.map key).Nodup) {entries entries' : List (α × β)} (hentries : P entries)
    (hnew : ∀ x ∈ xs, key x ∉ entries.map Prod.fst) :
    xs.foldlM f entries = .ok entries' ↔ ∃ added, entries' = entries ++ added ∧
      List.Forall₂ (fun x y ↦ y.1 = key x ∧ g x = .ok y.2) xs added := by
  induction xs generalizing entries with
  | nil => simp [pure, Except.pure, eq_comm]
  | cons x xs ih =>
    obtain ⟨hx, hxs⟩ := List.nodup_cons.mp hnodup
    obtain ⟨hnewx, hnewxs⟩ := List.forall_mem_cons.mp hnew
    have hput : ∀ b, putKey (key x) b entries = entries ++ [(key x, b)] :=
      fun b ↦ putKey_of_notMem hnewx
    have hrest : ∀ b, ∀ y ∈ xs, key y ∉ (putKey (key x) b entries).map Prod.fst := by
      intro b y hy hmem
      rw [hput, List.map_append, List.mem_append, List.map_singleton, List.mem_singleton] at hmem
      rcases hmem with hmem | heq
      · exact hnewxs y hy hmem
      · exact hx (List.mem_map.mpr ⟨y, hy, heq⟩)
    rw [List.foldlM_cons, hf _ _ hentries]
    cases hg : g x with
    | error e =>
      refine iff_of_false nofun ?_
      rintro ⟨added, -, _ | ⟨⟨-, hok⟩, -⟩⟩
      rw [hg] at hok
      cases hok
    | ok b =>
      change xs.foldlM f (putKey (key x) b entries) = .ok entries' ↔ _
      rw [ih hxs (hP _ _ _ hentries) (hrest b), hput]
      constructor
      · rintro ⟨added, rfl, hadded⟩
        exact ⟨(key x, b) :: added, by simp, .cons ⟨rfl, hg⟩ hadded⟩
      · rintro ⟨_, rfl, _ | ⟨⟨hkey, hok⟩, hadded⟩⟩
        rename_i y added
        obtain ⟨k, b'⟩ := y
        obtain rfl := Except.ok.inj (hg.symm.trans hok)
        obtain rfl : k = key x := hkey
        exact ⟨added, by simp, hadded⟩

end Keys

namespace Declarations

variable {d e : Declarations}

theorem indexVertex_eq (index : TableIndex) (x : Table × VertexLabel) :
    indexVertex index x =
      (TableInfo.ofProperties x.1 x.2.properties).map (putKey x.1 · index) := by
  rw [indexVertex]
  cases TableInfo.ofProperties x.1 x.2.properties <;> rfl

/-- The index knows the declared vertices. -/
def KnowsVertices (d : Declarations) (index : TableIndex) : Prop :=
  ∀ vertex : Table, vertex.isVertex → (lookupKey vertex index).isSome = d.declares vertex

theorem indexSide_eq {index : TableIndex} (h : d.KnowsVertices index) (schema : String)
    (edge : Table) (side : Direction) (info : TableInfo) (refs : List String) :
    indexSide index schema edge side info refs =
      TableInfo.addSide d.declares edge side info (refs.map (vertexTable · schema)) := by
  rw [indexSide, TableInfo.addSide, List.foldlM_map]
  congr 1
  funext info ref
  dsimp only
  rw [h _ (isVertex_vertexTable ref schema)]

theorem indexEdge_eq {index : TableIndex} (h : d.KnowsVertices index)
    (x : String × String × EdgeLabel) :
    indexEdge index x = (TableInfo.ofMeaning d.declares (edgeMeaning x).1 (edgeMeaning x).2).map
      (putKey (edgeMeaning x).1 · index) := by
  obtain ⟨schema, label, labels⟩ := x
  change indexEdge index (schema, label, labels) =
    (PathQuery.putKey (Table.edge schema label) · index) <$>
      TableInfo.ofMeaning d.declares (.edge schema label) (edgeMeaning (schema, label, labels)).2
  rw [indexEdge, TableInfo.ofMeaning, map_bind]
  simp only [indexSide_eq h]
  refine bind_congr fun info ↦ ?_
  rw [map_bind]
  exact bind_congr fun info ↦ bind_pure_comp _ _

theorem KnowsVertices.putKey {index : TableIndex} (h : d.KnowsVertices index) {edge : Table}
    (hedge : ¬edge.isVertex) (info : TableInfo) : d.KnowsVertices (putKey edge info index) := by
  intro vertex hvertex
  rw [lookupKey_putKey, if_neg, h vertex hvertex]
  intro heq
  exact hedge (beq_iff_eq.mp heq ▸ hvertex)

theorem ofMeaning_vertexSays (declares : Table → Bool) (table : Table) (v : VertexLabel) :
    TableInfo.ofMeaning declares table (vertexSays v) =
      TableInfo.ofProperties table v.properties := by
  rw [TableInfo.ofMeaning]
  exact (bind_congr fun _ ↦ pure_bind _ _).trans (bind_pure _)

/-- An entry of an index holds the table of a label. -/
def Tabulates (d : Declarations) (x : Table × LabelMeaning) (y : Table × TableInfo) : Prop :=
  y.1 = x.1 ∧ TableInfo.ofMeaning d.declares x.1 x.2 = .ok y.2

theorem map_fst_of_tabulates {meanings : List (Table × LabelMeaning)} {index : TableIndex}
    (h : List.Forall₂ d.Tabulates meanings index) :
    index.map Prod.fst = meanings.map Prod.fst := by
  rw [← List.forall₂_eq_eq_eq, List.forall₂_map_left_iff, List.forall₂_map_right_iff]
  exact h.flip.imp fun _ _ h ↦ h.1

theorem foldlM_indexVertex_eq_ok_iff (hd : d.Unique) {index : TableIndex} :
    d.vertexLabels.foldlM indexVertex [] = .ok index ↔
      List.Forall₂ d.Tabulates d.vertexMeanings index := by
  have hnodup : (d.vertexLabels.map Prod.fst).Nodup := by
    have hmeanings := hd.nodup_meanings
    rw [meanings, List.map_append, List.nodup_append, vertexMeanings, List.map_map] at hmeanings
    exact hmeanings.1
  rw [foldlM_putKey_eq_ok_iff (P := fun _ ↦ True) (fun index x _ ↦ indexVertex_eq index x)
    (fun _ _ _ _ ↦ trivial) hnodup trivial (by simp), vertexMeanings, List.forall₂_map_left_iff]
  simp [Tabulates, ofMeaning_vertexSays]

/-- Tables of the vertex labels are all the vertices that the labels of edges may refer to. -/
theorem knowsVertices_of_tabulates {vertices : TableIndex}
    (h : List.Forall₂ d.Tabulates d.vertexMeanings vertices) :
    d.KnowsVertices vertices ∧ ∀ table ∈ vertices.map Prod.fst, table.isVertex := by
  have hkeys := map_fst_of_tabulates h
  constructor
  · intro vertex hvertex
    rw [declares_of_isVertex hvertex, ← hkeys, Bool.eq_iff_iff, isSome_lookupKey_iff,
      List.contains_iff_mem]
  · intro table htable
    exact isVertex_of_mem_vertexMeanings (hkeys ▸ htable)

theorem foldlM_indexEdge_eq_ok_iff (hd : d.Unique) {vertices index : TableIndex}
    (hknows : d.KnowsVertices vertices)
    (hvertices : ∀ table ∈ vertices.map Prod.fst, table.isVertex) :
    d.edgeLabels.foldlM indexEdge vertices = .ok index ↔ ∃ edges, index = vertices ++ edges ∧
      List.Forall₂ d.Tabulates (d.edgeLabels.map edgeMeaning) edges := by
  have hmeanings := hd.nodup_meanings
  rw [meanings, List.map_append, List.nodup_append, List.map_map] at hmeanings
  have hnew : ∀ x ∈ d.edgeLabels, (edgeMeaning x).1 ∉ vertices.map Prod.fst :=
    fun x _ hmem ↦ not_isVertex_edge _ _ (hvertices _ hmem)
  rw [foldlM_putKey_eq_ok_iff (fun index x h ↦ indexEdge_eq h x)
    (fun index x info h ↦ h.putKey (not_isVertex_edge x.1 x.2.1) info) hmeanings.2.1 hknows hnew]
  simp only [Tabulates, List.forall₂_map_left_iff]

namespace Alike

theorem refl (d : Declarations) : d.Alike d := fun _ ↦ Iff.rfl

theorem symm (h : d.Alike e) : e.Alike d := fun x ↦ (h x).symm

theorem trans {f : Declarations} (h : d.Alike e) (h' : e.Alike f) : d.Alike f :=
  fun x ↦ (h x).trans (h' x)

theorem declares_eq (h : d.Alike e) : d.declares = e.declares := by
  funext table
  rw [Bool.eq_iff_iff, declares, declares, List.contains_iff_mem, List.contains_iff_mem,
    List.mem_map, List.mem_map]
  exact exists_congr fun x ↦ and_congr_left' (h x)

theorem tabulates_eq (h : d.Alike e) : d.Tabulates = e.Tabulates := by
  unfold Tabulates
  rw [h.declares_eq]

end Alike

/-- Indexes the vertex labels of some declarations and then the edge labels of others. -/
def indexIn (d e : Declarations) : Except Topology.Error TableIndex := do
  let vertices ← d.vertexLabels.foldlM indexVertex []
  e.edgeLabels.foldlM indexEdge vertices

theorem index_eq_indexIn (d : Declarations) : d.index = indexIn d d := rfl

/-- If both say the same, the index lists the tables of the labels, one after the other. -/
theorem indexIn_eq_ok_iff (h : d.Alike e) (hd : d.Unique) (he : e.Unique) {index : TableIndex} :
    indexIn d e = .ok index ↔
      List.Forall₂ d.Tabulates (d.vertexMeanings ++ e.edgeLabels.map edgeMeaning) index := by
  have hedges : ∀ {vertices}, List.Forall₂ d.Tabulates d.vertexMeanings vertices →
      (e.edgeLabels.foldlM indexEdge vertices = .ok index ↔ ∃ edges, index = vertices ++ edges ∧
        List.Forall₂ d.Tabulates (e.edgeLabels.map edgeMeaning) edges) := by
    intro vertices hvertices
    obtain ⟨hknows, honly⟩ := knowsVertices_of_tabulates hvertices
    rw [KnowsVertices, h.declares_eq] at hknows
    rw [foldlM_indexEdge_eq_ok_iff he hknows honly, h.tabulates_eq]
  rw [indexIn, bind_eq_ok_iff]
  constructor
  · rintro ⟨vertices, hvertices, hrest⟩
    rw [foldlM_indexVertex_eq_ok_iff hd] at hvertices
    obtain ⟨edges, rfl, hinfos⟩ := (hedges hvertices).mp hrest
    exact List.rel_append hvertices hinfos
  · intro htabulates
    have hvertices := (List.forall₂_take_append _ _ _ htabulates.flip).flip
    have hinfos := (List.forall₂_drop_append _ _ _ htabulates.flip).flip
    exact ⟨_, (foldlM_indexVertex_eq_ok_iff hd).mpr hvertices,
      (hedges hvertices).mpr ⟨_, (List.take_append_drop _ _).symm, hinfos⟩⟩

theorem index_eq_ok_iff (hd : d.Unique) {index : TableIndex} :
    d.index = .ok index ↔ List.Forall₂ d.Tabulates d.meanings index := by
  rw [index_eq_indexIn]
  exact indexIn_eq_ok_iff (.refl d) hd hd

/-- Declarations can be indexed if every label can have its table. -/
theorem exists_index_iff (hd : d.Unique) : (∃ index, d.index = .ok index) ↔
    ∀ x ∈ d.meanings, ∃ info, TableInfo.ofMeaning d.declares x.1 x.2 = .ok info := by
  simp only [index_eq_ok_iff hd]
  induction d.meanings with
  | nil => simp
  | cons x meanings ih =>
    rw [List.forall_mem_cons, ← ih]
    constructor
    · rintro ⟨_, hindex⟩
      obtain ⟨y, index, hy, hindex, -⟩ := List.forall₂_cons_left_iff.mp hindex
      exact ⟨⟨y.2, hy.2⟩, index, hindex⟩
    · rintro ⟨⟨info, hinfo⟩, index, hindex⟩
      exact ⟨(x.1, info) :: index, .cons ⟨rfl, hinfo⟩ hindex⟩

/-- Under each table of an index stands what its label says. -/
theorem lookupKey_index (hd : d.Unique) {index : TableIndex} (h : d.index = .ok index)
    {table : Table} {info : TableInfo} : lookupKey table index = some info ↔
      ∃ m, (table, m) ∈ d.meanings ∧ TableInfo.ofMeaning d.declares table m = .ok info := by
  have hmem : ∀ {meanings index}, List.Forall₂ d.Tabulates meanings index →
      ((table, info) ∈ index ↔
        ∃ m, (table, m) ∈ meanings ∧ TableInfo.ofMeaning d.declares table m = .ok info) := by
    intro meanings index htabulates
    induction htabulates with
    | nil => simp
    | @cons x y meanings index hxy _ ih =>
      obtain ⟨table', m⟩ := x
      obtain ⟨_, info'⟩ := y
      obtain ⟨rfl, hinfo'⟩ := hxy
      simp only [List.mem_cons, ih, Prod.mk.injEq]
      constructor
      · rintro (⟨rfl, rfl⟩ | ⟨m', hm', hinfo⟩)
        · exact ⟨m, .inl ⟨rfl, rfl⟩, hinfo'⟩
        · exact ⟨m', .inr hm', hinfo⟩
      · rintro ⟨m', ⟨rfl, rfl⟩ | hm', hinfo⟩
        · exact .inl ⟨rfl, Except.ok.inj (hinfo.symm.trans hinfo')⟩
        · exact .inr ⟨m', hm', hinfo⟩
  rw [lookupKey_eq_some_iff (Topology.nodup_keys_index h)]
  exact hmem ((index_eq_ok_iff hd).mp h)

namespace Alike

/-- Declarations that say the same are indexed together. -/
theorem exists_index (h : d.Alike e) (hd : d.Unique) (he : e.Unique) {index : TableIndex}
    (hindex : d.index = .ok index) : ∃ index', e.index = .ok index' := by
  rw [exists_index_iff he, ← h.declares_eq]
  exact fun x hx ↦ (exists_index_iff hd).mp ⟨index, hindex⟩ x ((h x).mpr hx)

/-- Declarations that say the same are indexed to the same tables. -/
theorem lookupKey_eq (h : d.Alike e) (hd : d.Unique) (he : e.Unique) {index index' : TableIndex}
    (hindex : d.index = .ok index) (hindex' : e.index = .ok index') (table : Table) :
    lookupKey table index = lookupKey table index' := by
  refine Option.ext fun info ↦ ?_
  rw [lookupKey_index hd hindex, lookupKey_index he hindex',
    h.declares_eq]
  exact exists_congr fun m ↦ and_congr_left' (h (table, m))

end Alike

/-- What the labels say can be read off an index. -/
theorem mem_meanings_iff (hd : d.Unique) {index : TableIndex} (h : d.index = .ok index)
    {table : Table} {m : LabelMeaning} : (table, m) ∈ d.meanings ↔
      ∃ info, lookupKey table index = some info ∧ info.properties = m.properties ∧
        info.foreignKeys = m.foreignKeys := by
  constructor
  · intro hm
    obtain ⟨info, hinfo⟩ := (exists_index_iff hd).mp ⟨index, h⟩ _ hm
    exact ⟨info, (lookupKey_index hd h).mpr ⟨m, hm, hinfo⟩, TableInfo.ofMeaning_eq_ok hinfo⟩
  · rintro ⟨info, hinfo, hproperties, hkeys⟩
    obtain ⟨m', hm', hof⟩ := (lookupKey_index hd h).mp hinfo
    obtain ⟨hproperties', hkeys'⟩ := TableInfo.ofMeaning_eq_ok hof
    obtain rfl : m' = m := LabelMeaning.ext_foreignKeys
      (hproperties'.symm.trans hproperties) (hkeys'.symm.trans hkeys)
    exact hm'

end Declarations

end PathQuery
