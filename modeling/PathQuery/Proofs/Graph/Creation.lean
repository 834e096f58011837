import Mathlib.Data.List.Nodup
import PathQuery.Command.Plans
import PathQuery.Proofs.Graph.Columns

/-!
# Creating the tables of a topology

The columns of a table are listed three times: where a statement projects them, where the tables
of a topology are shown, and in the statement that creates the table. The three lists are one. The
index has every declared table under one key, so the tables are created one by one; whether two of
them are created under the same name is a matter of how the dialect spells the parts of a name,
because quoting keeps different names apart.
-/

namespace PathQuery

/-! ## Quoted names -/

/-- The end of a quoted name is the first quote that is not doubled. -/
theorem doubleQuotes_append_inj {xs ys rest rest' : List Char} (hrest : rest.head? ≠ some '"')
    (hrest' : rest'.head? ≠ some '"')
    (h : doubleQuotes xs ++ '"' :: rest = doubleQuotes ys ++ '"' :: rest') :
    xs = ys ∧ rest = rest' := by
  -- a name that has ended is not taken for one that goes on, not even with a quote
  have hends : ∀ {zs tail tail' : List Char} {z : Char}, tail.head? ≠ some '"' →
      '"' :: tail ≠ doubleQuotes (z :: zs) ++ '"' :: tail' := by
    intro zs tail tail' z htail heq
    rw [doubleQuotes] at heq
    split at heq
    · rw [List.cons_append, List.cons_append] at heq
      obtain ⟨-, rfl⟩ := List.cons.inj heq
      exact htail rfl
    · next hz => exact hz (List.cons.inj heq).1.symm
  induction xs generalizing ys with
  | nil =>
    cases ys with
    | nil => exact ⟨rfl, (List.cons.inj h).2⟩
    | cons y ys => exact absurd h (hends hrest)
  | cons x xs ih =>
    cases ys with
    | nil => exact absurd h.symm (hends hrest')
    | cons y ys =>
      have hheads : x = y ∧ doubleQuotes xs ++ '"' :: rest = doubleQuotes ys ++ '"' :: rest' := by
        rw [doubleQuotes, doubleQuotes] at h
        split at h
        · next hx =>
          split at h
          · next hy =>
            obtain ⟨-, htails⟩ := List.cons.inj h
            exact ⟨hx.trans hy.symm, (List.cons.inj htails).2⟩
          · next hy => exact absurd (List.cons.inj h).1.symm hy
        · next hx =>
          split at h
          · exact absurd (List.cons.inj h).1 hx
          · exact List.cons.inj h
      obtain ⟨rfl, htails⟩ := hheads
      obtain ⟨rfl, hsame⟩ := ih htails
      exact ⟨rfl, hsame⟩

namespace Dialect

/-- The two parts of a table name as the dialect takes them. -/
def tableParts (d : Dialect) (t : Table) : String × String :=
  (d.tablePart t.schema, d.tablePart t.name)

theorem toList_quoteTable (d : Dialect) (t : Table) : (d.quoteTable t).toList =
    '"' :: doubleQuotes (d.tablePart t.schema).toList ++
      '"' :: '.' :: '"' :: doubleQuotes (d.tablePart t.name).toList ++ ['"'] := by
  simp [quoteTable, quoteIdentifier]

/-- What follows two quoted table names is the same only if the names are. -/
theorem tableParts_inj {d : Dialect} {t t' : Table} {rest rest' : List Char}
    (hrest : rest.head? ≠ some '"') (hrest' : rest'.head? ≠ some '"')
    (h : (d.quoteTable t).toList ++ rest = (d.quoteTable t').toList ++ rest') :
    d.tableParts t = d.tableParts t' := by
  rw [toList_quoteTable, toList_quoteTable] at h
  simp only [List.cons_append, List.append_assoc, List.nil_append] at h
  obtain ⟨hschema, hnames⟩ := doubleQuotes_append_inj (by simp) (by simp) (List.cons.inj h).2
  obtain ⟨hname, -⟩ := doubleQuotes_append_inj hrest hrest'
    (List.cons.inj (List.cons.inj hnames).2).2
  exact Prod.ext (String.toList_injective hschema) (String.toList_injective hname)

end Dialect

/-! ## Columns -/

namespace Topology

/-- The columns of the statement that creates a table. -/
def createdColumns (g : Topology) (d : Dialect) (table : Table) : List String :=
  (g.columnTypes d table).map Prod.fst

theorem createdColumns_eq (g : Topology) (d : Dialect) (table : Table) :
    g.createdColumns d table = idColumn ::
      ((g.properties? table).getD []).flatMap Property.columns ++
        (g.foreignKeys table).map (·.column) := by
  have hproperty : ∀ p : Property, List.map Prod.fst ((p.name, d.columnType p.type) ::
      p.type.postfixes.map fun pf ↦ (p.name ++ pf, postfixType d pf)) = p.columns := by
    intro p
    rw [List.map_cons, List.map_map, Property.columns]
    rfl
  rw [createdColumns, columnTypes, List.map_append, List.map_cons, List.map_flatMap, List.map_map,
    funext hproperty]
  rfl

/-- The columns that are shown of a table are those it is created with. -/
theorem physicalColumns_eq (g : Topology) (d : Dialect) (table : Table) :
    Command.physicalColumns g table = g.createdColumns d table :=
  (g.createdColumns_eq d table).symm

/-- The columns that are projected of a declared table are those it is created with. -/
theorem columns?_eq_createdColumns {g : Topology} (hg : g.Indexed) (d : Dialect) {table : Table}
    {info : TableInfo} (hinfo : g.info? table = some info) :
    g.columns? table = some (g.createdColumns d table) := by
  obtain ⟨declarations, hindex⟩ := hg
  have hsound := soundIndex_index hindex table info hinfo
  have hkeys : (if table.isEdge then (g.foreignKeys table).map (·.column) else []) =
      (g.foreignKeys table).map (·.column) := by
    rw [foreignKeys, hinfo, Option.map_some, Option.getD_some]
    -- only an edge has foreign keys
    by_cases hnone : info.foreignKeys = []
    · rw [hnone, List.map_nil, ite_self]
    · rw [if_pos (hsound.keyed hnone)]
  rw [createdColumns_eq, columns?, properties?, hinfo, Option.map_some, Option.map_some,
    Option.getD_some, hkeys]

end Topology

/-! ## Tables -/

section Keys

variable {α β : Type} [BEq α] [LawfulBEq α] {key : α} {value : β} {entries : List (α × β)}

theorem mem_keys_putKey {k : α} :
    k ∈ (putKey key value entries).map Prod.fst ↔ k = key ∨ k ∈ entries.map Prod.fst := by
  induction entries with
  | nil => simp [putKey]
  | cons entry rest ih =>
    rw [putKey]
    split
    · next hk =>
      rw [List.map_cons, List.map_cons, List.mem_cons, List.mem_cons, beq_iff_eq.mp hk, ← or_assoc,
        or_self]
    · rw [List.map_cons, List.map_cons, List.mem_cons, List.mem_cons, ih, or_left_comm]

theorem nodup_keys_putKey (h : (entries.map Prod.fst).Nodup) :
    ((putKey key value entries).map Prod.fst).Nodup := by
  induction entries with
  | nil => exact List.nodup_singleton key
  | cons entry rest ih =>
    obtain ⟨hentry, hrest⟩ := List.nodup_cons.mp h
    rw [putKey]
    split
    · next hk =>
      rw [beq_iff_eq] at hk
      exact List.nodup_cons.mpr ⟨hk ▸ hentry, hrest⟩
    · next hk =>
      refine List.nodup_cons.mpr ⟨fun hmem ↦ ?_, ih hrest⟩
      rcases mem_keys_putKey.mp hmem with heq | hmem
      · exact hk (beq_iff_eq.mpr heq)
      · exact hentry hmem

theorem isSome_lookupKey_iff :
    (lookupKey key entries).isSome ↔ key ∈ entries.map Prod.fst := by
  rw [lookupKey, Option.isSome_map, List.find?_isSome, List.mem_map]
  exact exists_congr fun entry ↦ and_congr_right fun _ ↦ beq_iff_eq

end Keys

namespace Topology

/-- An index has every table under one key. -/
theorem nodup_keys_index {d : Declarations} {index : TableIndex} (h : d.index = .ok index) :
    (index.map Prod.fst).Nodup := by
  obtain ⟨vertices, hvertices, hedges⟩ := bind_eq_ok_iff.mp h
  have hvertex : (vertices.map Prod.fst).Nodup := by
    refine foldlM_eq_ok_induction (P := fun index : TableIndex ↦ (index.map Prod.fst).Nodup)
      hvertices List.nodup_nil fun index entry index' hindex hstep ↦ ?_
    obtain ⟨info, -, heq⟩ := bind_eq_ok_iff.mp hstep
    rw [← Except.ok.inj heq]
    exact nodup_keys_putKey hindex
  refine foldlM_eq_ok_induction (P := fun index : TableIndex ↦ (index.map Prod.fst).Nodup)
    hedges hvertex fun index entry index' hindex hstep ↦ ?_
  obtain ⟨info, -, h₁⟩ := bind_eq_ok_iff.mp hstep
  obtain ⟨info₁, -, h₂⟩ := bind_eq_ok_iff.mp h₁
  obtain ⟨info₂, -, heq⟩ := bind_eq_ok_iff.mp h₂
  rw [← Except.ok.inj heq]
  exact nodup_keys_putKey hindex

theorem mem_tableList_iff {g : Topology} {table : Table} :
    table ∈ g.tableList ↔ ∃ info, g.info? table = some info := by
  rw [tableList, List.mem_mergeSort, ← Option.isSome_iff_exists, info?, isSome_lookupKey_iff]

theorem Indexed.nodup_tableList {g : Topology} (hg : g.Indexed) : g.tableList.Nodup := by
  obtain ⟨d, hindex⟩ := hg
  rw [tableList, (List.mergeSort_perm _ _).nodup_iff]
  exact nodup_keys_index hindex

/-! ## Statements -/

/-- The statement that creates a schema. -/
def createSchema (schema : String) : String :=
  "CREATE SCHEMA IF NOT EXISTS " ++ quoteIdentifier schema

theorem ddl_eq (g : Topology) (d : Dialect) : g.ddl d =
    (match d.engine with
      | .sqlite => []
      | .postgres => firstOccurrences [] (g.tableList.map Table.schema)).map createSchema ++
      g.tableList.map (g.createTable d) := rfl

/-- The dialect takes the names of all tables as they are. -/
def TakenBy (g : Topology) (d : Dialect) : Prop :=
  ∀ table ∈ g.tableList, d.tablePart table.schema = table.schema ∧
    d.tablePart table.name = table.name

theorem exists_toList_createTable (g : Topology) (d : Dialect) (t : Table) :
    ∃ rest : List Char, rest.head? ≠ some '"' ∧ (g.createTable d t).toList =
      "CREATE TABLE ".toList ++ ((d.quoteTable t).toList ++ rest) := by
  obtain ⟨body, hbody⟩ : ∃ body : String,
      g.createTable d t = "CREATE TABLE " ++ d.quoteTable t ++ " (\n\t" ++ body ++ "\n)" := ⟨_, rfl⟩
  refine ⟨" (\n\t".toList ++ (body.toList ++ "\n)".toList), by simp, ?_⟩
  rw [hbody, String.toList_append, String.toList_append, String.toList_append,
    String.toList_append, List.append_assoc, List.append_assoc, List.append_assoc]

theorem tableParts_inj_createTable {g : Topology} {d : Dialect} {t t' : Table}
    (h : g.createTable d t = g.createTable d t') : d.tableParts t = d.tableParts t' := by
  obtain ⟨rest, hrest, heq⟩ := g.exists_toList_createTable d t
  obtain ⟨rest', hrest', heq'⟩ := g.exists_toList_createTable d t'
  rw [h, heq', List.append_right_inj] at heq
  exact (Dialect.tableParts_inj hrest' hrest heq).symm

theorem toList_createSchema (schema : String) : (createSchema schema).toList =
    "CREATE SCHEMA IF NOT EXISTS ".toList ++ (quoteIdentifier schema).toList :=
  String.toList_append

theorem createTable_ne_createSchema (g : Topology) (d : Dialect) (t : Table) (schema : String) :
    g.createTable d t ≠ createSchema schema := by
  intro h
  obtain ⟨rest, -, heq⟩ := g.exists_toList_createTable d t
  -- `CREATE T` and `CREATE S`
  have hwords := congrArg (List.take 8) ((toList_createSchema schema).symm.trans (h ▸ heq))
  rw [List.take_append_of_le_length (by simp), List.take_append_of_le_length (by simp)] at hwords
  exact absurd hwords (by simp)

/-- **Every table is created exactly once**, if the dialect takes the names as they are. -/
theorem count_createTable {g : Topology} (hg : g.Indexed) {d : Dialect} (htaken : g.TakenBy d)
    {table : Table} (htable : table ∈ g.tableList) :
    (g.ddl d).count (g.createTable d table) = 1 := by
  have hinjective : ∀ a ∈ g.tableList, ∀ b ∈ g.tableList,
      g.createTable d a = g.createTable d b → a = b := by
    intro a ha b hb heq
    have hparts := tableParts_inj_createTable heq
    rw [Dialect.tableParts, Dialect.tableParts, (htaken a ha).1, (htaken a ha).2, (htaken b hb).1,
      (htaken b hb).2] at hparts
    obtain ⟨hschema, hname⟩ := Prod.mk.inj hparts
    cases a
    cases b
    rw [Table.mk.injEq]
    exact ⟨hschema, hname⟩
  rw [ddl_eq, List.count_append, List.count_eq_zero_of_not_mem, Nat.zero_add]
  · exact List.count_eq_one_of_mem (hg.nodup_tableList.map_on hinjective)
      (List.mem_map_of_mem htable)
  · intro hmem
    obtain ⟨schema, -, heq⟩ := List.mem_map.mp hmem
    exact g.createTable_ne_createSchema d table schema heq.symm

/-- Where there are schemas, a table is created after its own. -/
theorem exists_ddl_eq_append (g : Topology) {d : Dialect} (hd : d.engine = .postgres)
    {table : Table} (htable : table ∈ g.tableList) :
    ∃ before after, g.ddl d = before ++ g.createTable d table :: after ∧
      createSchema table.schema ∈ before := by
  obtain ⟨pre, post, hlist⟩ := List.append_of_mem htable
  have hschema : table.schema ∈ firstOccurrences [] (g.tableList.map Table.schema) :=
    mem_firstOccurrences (List.mem_map_of_mem htable) List.not_mem_nil
  have htables : g.tableList.map (g.createTable d) = pre.map (g.createTable d) ++
      g.createTable d table :: post.map (g.createTable d) := by
    rw [hlist, List.map_append, List.map_cons]
  refine ⟨(firstOccurrences [] (g.tableList.map Table.schema)).map createSchema ++
    pre.map (g.createTable d), post.map (g.createTable d), ?_,
    List.mem_append_left _ (List.mem_map_of_mem hschema)⟩
  rw [ddl_eq, hd, htables, List.append_assoc]

/-- Without NULs in names every dialect takes them as they are. -/
theorem takenBy_of_forall {g : Topology} {d : Dialect} (h : ∀ table ∈ g.tableList,
    Char.ofNat 0 ∉ table.schema.toList ∧ Char.ofNat 0 ∉ table.name.toList) : g.TakenBy d :=
  fun table htable ↦
    ⟨d.tablePart_of_notMem (h table htable).1, d.tablePart_of_notMem (h table htable).2⟩

end Topology

end PathQuery
