import PathQuery.Compile.Basic
import PathQuery.Proofs.Compile.Run

/-!
# The columns of indexed tables

Declarations are folded into an index, one label after the other. What a column name resolves to
is kept apart from the list of columns that a statement projects, so the two have to be brought
together: a name that resolves on a table is among the columns projected for it. This is what
makes a foreign key that a join needs available wherever its step is projected at all.
-/

namespace PathQuery

/-! ## Entries under keys -/

instance : LawfulBEq Table where
  rfl := by
    rintro ⟨schema, name⟩
    simp [BEq.beq, instBEqTable.beq]
  eq_of_beq := by
    rintro ⟨schema, name⟩ ⟨schema', name'⟩ h
    simpa [BEq.beq, instBEqTable.beq] using h

section Keys

variable {α β : Type} [BEq α] {key key' : α} {value : β} {entries : List (α × β)}

theorem lookupKey_cons (entry : α × β) :
    lookupKey key (entry :: entries) =
      if entry.1 == key then some entry.2 else lookupKey key entries := by
  rw [lookupKey, List.find?_cons]
  cases h : entry.1 == key <;> simp [lookupKey]

variable [LawfulBEq α]

theorem lookupKey_putKey :
    lookupKey key (putKey key' value entries) =
      if key' == key then some value else lookupKey key entries := by
  induction entries with
  | nil => rw [putKey, lookupKey_cons]
  | cons entry rest ih =>
    obtain ⟨k, v⟩ := entry
    rw [putKey]
    split
    · next hk =>
      obtain rfl := beq_iff_eq.mp hk
      rw [lookupKey_cons, lookupKey_cons]
      split <;> rfl
    · next hk =>
      rw [lookupKey_cons, lookupKey_cons, ih]
      split
      · next hkey =>
        obtain rfl := beq_iff_eq.mp hkey
        rw [if_neg (fun h ↦ hk (by rw [beq_iff_eq.mp h, beq_self_eq_true]))]
      · rfl

theorem putKey_of_notMem (h : key ∉ entries.map (·.1)) :
    putKey key value entries = entries ++ [(key, value)] := by
  induction entries with
  | nil => rfl
  | cons entry rest ih =>
    rw [List.map_cons, List.mem_cons, not_or] at h
    rw [putKey, if_neg (by simpa using Ne.symm h.1), ih h.2, List.cons_append]

theorem mem_of_lookupKey (h : lookupKey key entries = some value) : (key, value) ∈ entries := by
  obtain ⟨entry, hfind, rfl⟩ := Option.map_eq_some_iff.mp h
  have hkey : entry.1 = key := by simpa using List.find?_some hfind
  rw [← hkey]
  exact List.mem_of_find?_eq_some hfind

end Keys

/-! ## Folds that may fail -/

/-- What every step of a fold keeps, the fold keeps. -/
theorem foldlM_eq_ok_induction {ε α β : Type} {f : β → α → Except ε β} {P : β → Prop}
    {as : List α} {b b' : β} (h : as.foldlM f b = .ok b') (hb : P b)
    (hstep : ∀ b a b', P b → f b a = .ok b' → P b') : P b' := by
  induction as generalizing b with
  | nil =>
    obtain rfl : b = b' := by simpa [pure, Except.pure] using h
    exact hb
  | cons a as ih =>
    rw [List.foldlM_cons] at h
    obtain ⟨b₁, hb₁, hrest⟩ := bind_eq_ok_iff.mp h
    exact ih hrest (hstep b a b₁ hb hb₁)

/-- A fold whose steps all succeed succeeds. -/
theorem exists_foldlM_eq_ok {ε α β : Type} {f : β → α → Except ε β} {as : List α}
    (h : ∀ a ∈ as, ∀ b, ∃ b', f b a = .ok b') (b : β) : ∃ b', as.foldlM f b = .ok b' := by
  induction as generalizing b with
  | nil => exact ⟨b, rfl⟩
  | cons a as ih =>
    obtain ⟨ha, hrest⟩ := List.forall_mem_cons.mp h
    obtain ⟨b₁, hb₁⟩ := ha b
    obtain ⟨b₂, hb₂⟩ := ih hrest b₁
    exact ⟨b₂, by rw [List.foldlM_cons, hb₁]; exact hb₂⟩

/-- Every name under which there is a meaning is among `names`. -/
def ColumnsWithin (columns : List (String × ColumnMeaning)) (names : List String) : Prop :=
  ∀ c, (lookupKey c columns).isSome → c ∈ names

theorem ColumnsWithin.putKey {columns : List (String × ColumnMeaning)} {names : List String}
    (h : ColumnsWithin columns names) (key : String) (meaning : ColumnMeaning) :
    ColumnsWithin (putKey key meaning columns) (names ++ [key]) := by
  intro c hc
  rw [lookupKey_putKey] at hc
  split at hc
  · next heq => simp [beq_iff_eq.mp heq]
  · exact List.mem_append_left _ (h c hc)

theorem ColumnsWithin.foldl_putKey {columns : List (String × ColumnMeaning)} {names : List String}
    (h : ColumnsWithin columns names) (column : String → String)
    (meaning : String → ColumnMeaning) (endings : List String) :
    ColumnsWithin (endings.foldl (fun cs e ↦ PathQuery.putKey (column e) (meaning e) cs) columns)
      (names ++ endings.map column) := by
  induction endings generalizing columns names with
  | nil => simpa using h
  | cons e endings ih => simpa using ih (h.putKey (column e) (meaning e))

namespace TableInfo

/-- The columns of a table: the identity, the columns of the properties and the foreign keys. -/
def columnNames (info : TableInfo) : List String :=
  idColumn :: info.properties.flatMap Property.columns ++ info.foreignKeys.map (·.column)

/-- Only columns of the table resolve, and only an edge has foreign keys. -/
structure Sound (table : Table) (info : TableInfo) : Prop where
  /-- A name that resolves is a column. -/
  within : ColumnsWithin info.columns info.columnNames
  /-- A table with foreign keys stores edges. -/
  keyed : info.foreignKeys ≠ [] → table.isEdge

theorem within_addProperty {table : Table} {columns columns' : List (String × ColumnMeaning)}
    {p : Property} {names : List String} (h : addProperty table columns p = .ok columns')
    (hwithin : ColumnsWithin columns names) : ColumnsWithin columns' (names ++ p.columns) := by
  rw [addProperty] at h
  repeat' split at h
  all_goals try cases h
  have hall := (hwithin.putKey p.name ⟨some p, ""⟩).foldl_putKey (p.name ++ ·)
    (fun pf ↦ ⟨some p, pf⟩) p.type.postfixes
  simpa [Property.columns] using hall

theorem within_foldlM_addProperty {table : Table} {properties : List Property}
    {columns columns' : List (String × ColumnMeaning)} {names : List String}
    (h : properties.foldlM (addProperty table) columns = .ok columns')
    (hwithin : ColumnsWithin columns names) :
    ColumnsWithin columns' (names ++ properties.flatMap Property.columns) := by
  induction properties generalizing columns names with
  | nil =>
    obtain rfl : columns = columns' := by simpa [pure, Except.pure] using h
    simpa using hwithin
  | cons p properties ih =>
    rw [List.foldlM_cons] at h
    obtain ⟨columns₁, hadd, hrest⟩ := bind_eq_ok_iff.mp h
    simpa using ih hrest (within_addProperty hadd hwithin)

theorem sound_ofProperties {table : Table} {properties : List Property} {info : TableInfo}
    (h : ofProperties table properties = .ok info) : Sound table info := by
  obtain ⟨columns, hcolumns, heq⟩ := bind_eq_ok_iff.mp h
  obtain rfl := Except.ok.inj heq
  have hstart : ColumnsWithin [(idColumn, {})] [idColumn] := by
    intro c hc
    rw [lookupKey_cons] at hc
    split at hc
    · next heq => simp [← beq_iff_eq.mp heq]
    · cases hc
  refine ⟨?_, by simp⟩
  simpa [columnNames] using within_foldlM_addProperty hcolumns hstart

theorem sound_addForeignKey {edge vertex : Table} {d : Direction} {info info' : TableInfo}
    (hedge : edge.isEdge) (hinfo : Sound edge info)
    (h : info.addForeignKey edge vertex d = .ok info') : Sound edge info' := by
  rw [addForeignKey] at h
  dsimp only at h
  split at h
  · cases h
  · obtain rfl := Except.ok.inj h
    refine ⟨?_, fun _ ↦ hedge⟩
    simpa [columnNames] using hinfo.within.putKey (vertex.foreignKeyColumn d) {}

end TableInfo

namespace Topology

/-- The index of some declarations, or of those before the last that could be indexed. -/
def Indexed (t : Topology) : Prop := ∃ d : Declarations, d.index = .ok t.tables

theorem isEdge_edge (schema label : String) : (Table.edge schema label).isEdge := by
  simp [Table.edge, Table.isEdge, Table.kind, edgeMark, Table.classify]

/-- Every table of an index has a property. -/
def Throughout (P : Table → TableInfo → Prop) (index : TableIndex) : Prop :=
  ∀ table info, lookupKey table index = some info → P table info

section Throughout

variable {P : Table → TableInfo → Prop}

theorem Throughout.putKey {index : TableIndex} {table : Table} {info : TableInfo}
    (hindex : Throughout P index) (hinfo : P table info) :
    Throughout P (putKey table info index) := by
  intro table' info' heq
  rw [lookupKey_putKey] at heq
  split at heq
  · next htable =>
    obtain rfl := Option.some.inj heq
    rwa [← beq_iff_eq.mp htable]
  · exact hindex table' info' heq

variable
  (hproperties : ∀ {table : Table} {properties : List Property} {info : TableInfo},
    TableInfo.ofProperties table properties = .ok info → P table info)
  (hkey : ∀ {edge vertex : Table} {d : Direction} {info info' : TableInfo}, edge.isEdge →
    P edge info → info.addForeignKey edge vertex d = .ok info' → P edge info')

include hproperties in
theorem throughout_indexVertex {index index' : TableIndex} {entry : Table × VertexLabel}
    (hindex : Throughout P index) (h : Declarations.indexVertex index entry = .ok index') :
    Throughout P index' := by
  obtain ⟨info, hinfo, heq⟩ := bind_eq_ok_iff.mp h
  obtain rfl := Except.ok.inj heq
  exact hindex.putKey (hproperties hinfo)

include hkey in
theorem holds_indexSide {index : TableIndex} {schema : String} {edge : Table} {d : Direction}
    {info info' : TableInfo} {refs : List String} (hedge : edge.isEdge) (hinfo : P edge info)
    (h : Declarations.indexSide index schema edge d info refs = .ok info') : P edge info' := by
  refine foldlM_eq_ok_induction h hinfo fun info ref info' hinfo hadd ↦ ?_
  dsimp only at hadd
  split at hadd
  · exact hkey hedge hinfo hadd
  · cases hadd

include hproperties hkey in
theorem throughout_indexEdge {index index' : TableIndex} {entry : String × String × EdgeLabel}
    (hindex : Throughout P index) (h : Declarations.indexEdge index entry = .ok index') :
    Throughout P index' := by
  obtain ⟨schema, label, e⟩ := entry
  obtain ⟨info, hinfo, h₁⟩ := bind_eq_ok_iff.mp h
  obtain ⟨info₁, hout, h₂⟩ := bind_eq_ok_iff.mp h₁
  obtain ⟨info₂, hin, heq⟩ := bind_eq_ok_iff.mp h₂
  obtain rfl := Except.ok.inj heq
  have hedge := isEdge_edge schema label
  exact hindex.putKey
    (holds_indexSide hkey hedge (holds_indexSide hkey hedge (hproperties hinfo) hout) hin)

include hproperties hkey in
/-- What holds of a table with its properties alone, and is kept by every foreign key, holds of
every table of an index. -/
theorem throughout_index {d : Declarations} {index : TableIndex} (h : d.index = .ok index) :
    Throughout P index := by
  obtain ⟨vertices, hvertices, hedges⟩ := bind_eq_ok_iff.mp h
  have hstart : Throughout P [] := by
    intro table info heq
    cases heq
  have hindexed := foldlM_eq_ok_induction hvertices hstart
    fun _ _ _ ↦ throughout_indexVertex hproperties
  exact foldlM_eq_ok_induction hedges hindexed fun _ _ _ ↦ throughout_indexEdge hproperties hkey

end Throughout

theorem soundIndex_index {d : Declarations} {index : TableIndex} (h : d.index = .ok index) :
    Throughout TableInfo.Sound index :=
  throughout_index TableInfo.sound_ofProperties TableInfo.sound_addForeignKey h

/-- A name that resolves on a table is among the columns projected for it. -/
theorem mem_columns_of_resolveColumn? {t : Topology} (h : t.Indexed) {table : Table} {c : String}
    (hc : (t.resolveColumn? table c).isSome) : ∃ columns, t.columns? table = some columns ∧
      c ∈ columns := by
  obtain ⟨d, hindex⟩ := h
  rw [resolveColumn?] at hc
  cases hinfo : t.info? table with
  | none => simp [hinfo] at hc
  | some info =>
    have hsound := soundIndex_index hindex table info hinfo
    rw [hinfo, Option.bind_some] at hc
    refine ⟨_, by rw [columns?, properties?, hinfo, Option.map_some, Option.map_some], ?_⟩
    have hmem := hsound.within c hc
    rw [foreignKeys, hinfo, Option.map_some, Option.getD_some]
    by_cases hkeys : info.foreignKeys = []
    · simpa [TableInfo.columnNames, hkeys] using hmem
    · rwa [if_pos (hsound.keyed hkeys)]

end Topology

end PathQuery
