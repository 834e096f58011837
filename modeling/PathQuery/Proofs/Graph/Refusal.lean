import Mathlib.Data.List.Induction
import Mathlib.Data.List.Sort
import PathQuery.Proofs.Graph.Meaning

/-!
# Refused declarations

A declaration that is refused leaves every answer of a topology as it was, because the answers are
those of the index. It stays on record all the same: the next declaration is indexed together with
it. So a run of declarations is like the run of those that were not refused as long as a refused
declaration is superseded before the next one is accepted, and not otherwise: an edge that is
refused for want of a vertex is there once the vertex is.
-/

namespace PathQuery

/-! ## Listings -/

/-- The order of listings leaves no choice. -/
theorem Table.eq_of_not_before {a b : Table} (h : (!b.before a) = true)
    (h' : (!a.before b) = true) : a = b := by
  cases a
  cases b
  grind [before]

namespace Topology

/-- A listing depends on nothing but what is listed. -/
theorem tableList_eq {t t' : Topology}
    (h : (t.tables.map Prod.fst).Perm (t'.tables.map Prod.fst)) : t.tableList = t'.tableList := by
  have hsorted : ∀ t : Topology, t.tableList.Pairwise fun a b ↦ (!b.before a) = true := by
    intro t
    refine List.pairwise_mergeSort (fun a b c hab hbc ↦ ?_) (fun a b ↦ ?_) _
    · grind [Table.before]
    · grind [Table.before]
  exact List.Perm.eq_of_pairwise (fun _ _ _ _ ↦ Table.eq_of_not_before) (hsorted t) (hsorted t')
    ((List.mergeSort_perm _ _).trans (h.trans (List.mergeSort_perm _ _).symm))

/-! ## Answers -/

/-- Topologies that cannot be told apart by asking. -/
structure SameAnswers (t t' : Topology) : Prop where
  /-- They list the same tables. -/
  tables : t.tableList = t'.tableList
  /-- The tables have the same properties. -/
  properties : ∀ table, t.properties? table = t'.properties? table
  /-- The same names are properties. -/
  hasProperty : ∀ table key, t.hasProperty table key = t'.hasProperty table key
  /-- The tables have the same foreign keys. -/
  foreignKeys : ∀ table, t.foreignKeys table = t'.foreignKeys table
  /-- Columns stand for the same. -/
  columns : ∀ table column, t.resolveColumn? table column = t'.resolveColumn? table column
  /-- References name the same tables. -/
  references : ∀ ref, t.resolve ref = t'.resolve ref
  /-- The tables are created by the same statements. -/
  statements : ∀ d, t.ddl d = t'.ddl d

/-- The answers are those of the index. -/
theorem sameAnswers_of_info {t t' : Topology} (hschema : t.publicSchema = t'.publicSchema)
    (hlist : t.tableList = t'.tableList) (hinfo : ∀ table, t.info? table = t'.info? table) :
    t.SameAnswers t' := by
  have hproperties : t.properties? = t'.properties? := by
    funext table
    rw [properties?, properties?, hinfo]
  have hkeys : t.foreignKeys = t'.foreignKeys := by
    funext table
    rw [foreignKeys, foreignKeys, hinfo]
  have htable : t.hasTable = t'.hasTable := by
    funext table
    rw [hasTable, hasTable, hinfo]
  have hcreate : t.createTable = t'.createTable := by
    funext d table
    unfold createTable columnTypes
    rw [hproperties, hkeys]
  exact {
    tables := hlist
    properties := congrFun hproperties
    hasProperty := fun table key ↦ by rw [hasProperty, hasProperty, hinfo]
    foreignKeys := congrFun hkeys
    columns := fun table column ↦ by rw [resolveColumn?, resolveColumn?, hinfo]
    references := fun ref ↦ by rw [resolve, resolve, hschema, htable]
    statements := fun d ↦ by rw [ddl, ddl, hlist, hcreate] }

end Topology

/-! ## Runs of declarations -/

/-- A declaration of a label. -/
inductive Declaration where
  /-- Of a vertex label. -/
  | vertex (schema label : String) (properties : List Property)
  /-- Of an edge label. -/
  | edge (schema label : String) (outs ins : List Table) (properties : List Property)

/-- What comes of a declaration. -/
inductive Verdict where
  /-- It is accepted. -/
  | accepted
  /-- It does not fit what is on record. -/
  | refused (e : Topology.Error)
  /-- There is no schema to add to. -/
  | undefinedSchema
  deriving DecidableEq

/-- Whether a declaration has been refused. -/
def Verdict.isRefusal : Verdict → Bool
  | .refused _ => true
  | _ => false

namespace Declaration

/-- The schema of the label. -/
def schema : Declaration → String
  | .vertex schema .. => schema
  | .edge schema .. => schema

/-- What the declaration does to the labels of its schema. -/
def change : Declaration → SchemaLabels → SchemaLabels
  | .vertex _ label properties, labels =>
    { labels with vertices := putKey label (some ⟨properties⟩) labels.vertices }
  | .edge _ label outs ins properties, labels =>
    let e : EdgeLabel :=
      ⟨outs.map Topology.endpointLabel, ins.map Topology.endpointLabel, properties⟩
    { labels with edges := putKey label (some e) labels.edges }

end Declaration

namespace Topology

/-- Makes a declaration. -/
def perform (t : Topology) : Declaration → DeclareOutcome
  | .vertex schema label properties => t.addVertex schema label properties
  | .edge schema label outs ins properties => t.addEdge schema label outs ins properties

/-- What comes of a declaration. -/
def verdict (t : Topology) (c : Declaration) : Verdict :=
  match t.perform c with
  | .declared _ => .accepted
  | .refused _ e => .refused e
  | .undefinedSchema => .undefinedSchema

/-- The topology after a declaration. -/
def after (t : Topology) (c : Declaration) : Topology :=
  match t.perform c with
  | .declared t' => t'
  | .refused t' _ => t'
  | .undefinedSchema => t

/-- The topology after declarations. -/
def performAll (t : Topology) (calls : List Declaration) : Topology := calls.foldl after t

/-- What comes of declarations. -/
def verdicts (t : Topology) : List Declaration → List Verdict
  | [] => []
  | c :: calls => t.verdict c :: (t.after c).verdicts calls

/-- The declarations that are not refused. -/
def kept (t : Topology) : List Declaration → List Declaration
  | [] => []
  | c :: calls =>
    if (t.verdict c).isRefusal then (t.after c).kept calls else c :: (t.after c).kept calls

/-- Whether a schema is listed without a definition. -/
def Undefined (t : Topology) (schema : String) : Prop :=
  lookupKey schema t.declarations = some none

/-- What is on record once a declaration has been made. -/
def record (t : Topology) (c : Declaration) : Declarations :=
  putKey c.schema (some (c.change ((lookupKey c.schema t.declarations).join.getD {})))
    t.declarations

theorem perform_eq_declare (t : Topology) (c : Declaration) :
    t.perform c = t.declare c.schema c.change := by
  cases c <;> rfl

theorem perform_of_undefined {t : Topology} {c : Declaration} (h : t.Undefined c.schema) :
    t.perform c = .undefinedSchema := by
  rw [perform_eq_declare, declare, h]

theorem perform_of_not_undefined {t : Topology} {c : Declaration} (h : ¬t.Undefined c.schema) :
    t.perform c = reindex { t with declarations := t.record c } := by
  rw [perform_eq_declare, declare, record]
  cases hlabels : lookupKey c.schema t.declarations with
  | none =>
    have hnew : c.schema ∉ t.declarations.map Prod.fst := by
      rw [← isSome_lookupKey_iff, hlabels]
      nofun
    rw [putKey_of_notMem hnew]
    rfl
  | some labels =>
    cases labels with
    | none => exact absurd hlabels h
    | some labels => rfl

/-- All that a declaration can do. -/
theorem after_cases (t : Topology) (c : Declaration) :
    (t.Undefined c.schema ∧ t.verdict c = .undefinedSchema ∧ t.after c = t) ∨
    (¬t.Undefined c.schema ∧ ∃ e, t.verdict c = .refused e ∧
      t.after c = { t with declarations := t.record c }) ∨
    (¬t.Undefined c.schema ∧ t.verdict c = .accepted ∧ ∃ tables,
      (t.record c).index = .ok tables ∧
      t.after c = { t with declarations := t.record c, tables }) := by
  by_cases h : t.Undefined c.schema
  · have hperform := perform_of_undefined h
    exact .inl ⟨h, by rw [verdict, hperform], by rw [after, hperform]⟩
  · have hperform := perform_of_not_undefined h
    rw [reindex] at hperform
    cases hindex : (t.record c).index with
    | error e =>
      rw [hindex] at hperform
      exact .inr (.inl ⟨h, e, by rw [verdict, hperform], by rw [after, hperform]⟩)
    | ok tables =>
      rw [hindex] at hperform
      exact .inr (.inr ⟨h, by rw [verdict, hperform], tables, rfl, by rw [after, hperform]⟩)

end Topology

/-! ## What is on record -/

namespace Declarations

/-- The labels of a schema. -/
def labels (d : Declarations) (schema : String) : SchemaLabels :=
  (lookupKey schema d).join.getD {}

/-- The labels that are listed are those under the schemas. -/
theorem exists_mem_iff {δ : Type} {d : Declarations} (hd : (d.map Prod.fst).Nodup)
    {f : SchemaLabels → List (String × δ)} (hf : f {} = [])
    (hlabels : ∀ x ∈ d, ((f (x.2.getD {})).map Prod.fst).Nodup) (schema label : String) (l : δ) :
    (∃ labels, (schema, labels) ∈ d ∧ (label, l) ∈ f (labels.getD {})) ↔
      lookupKey label (f (d.labels schema)) = some l := by
  simp only [← lookupKey_eq_some_iff hd, labels]
  cases hlookup : lookupKey schema d with
  | none => simp [hf, lookupKey]
  | some labels =>
    have hnodup := hlabels _ (mem_of_lookupKey hlookup)
    rw [Option.join_some, lookupKey_eq_some_iff hnodup]
    simp

/-- What is said by the labels that are found. -/
def Said {δ : Type} (table : String → String → Table) (meaning : String → δ → LabelMeaning)
    (look : String → String → Option (Option δ)) (x : Table × LabelMeaning) [Inhabited δ] : Prop :=
  ∃ schema label l, look schema label = some l ∧ x = (table schema label, meaning schema (l.getD default))

theorem mem_meanings_iff_said {d : Declarations} (hd : d.Unique) {x : Table × LabelMeaning} :
    x ∈ d.meanings ↔
      Said .vertex (fun _ ↦ vertexSays) (fun s l ↦ lookupKey l (d.labels s).vertices) x ∨
      Said .edge edgeSays (fun s l ↦ lookupKey l (d.labels s).edges) x := by
  have hvertices := exists_mem_iff hd.schemas (f := SchemaLabels.vertices) rfl hd.vertices
  have hedges := exists_mem_iff hd.schemas (f := SchemaLabels.edges) rfl hd.edges
  simp only [meanings, List.mem_append, vertexMeanings, vertexLabels, edgeLabels, List.mem_map,
    List.mem_flatMap, Said, ← hvertices, ← hedges]
  constructor
  · rintro (⟨_, ⟨⟨schema, labels⟩, hschema, ⟨label, v⟩, hlabel, rfl⟩, rfl⟩ |
      ⟨_, ⟨⟨schema, labels⟩, hschema, ⟨label, e⟩, hlabel, rfl⟩, rfl⟩)
    · exact .inl ⟨schema, label, v, ⟨labels, hschema, hlabel⟩, rfl⟩
    · exact .inr ⟨schema, label, e, ⟨labels, hschema, hlabel⟩, rfl⟩
  · rintro (⟨schema, label, v, ⟨labels, hschema, hlabel⟩, rfl⟩ |
      ⟨schema, label, e, ⟨labels, hschema, hlabel⟩, rfl⟩)
    · exact .inl ⟨_, ⟨⟨schema, labels⟩, hschema, ⟨label, v⟩, hlabel, rfl⟩, rfl⟩
    · exact .inr ⟨_, ⟨⟨schema, labels⟩, hschema, ⟨label, e⟩, hlabel, rfl⟩, rfl⟩

theorem Said.supersede_iff {δ : Type} [Inhabited δ] {table : String → String → Table}
    (htable : ∀ {s l s' l'}, table s l = table s' l' → s = s' ∧ l = l')
    (meaning : String → δ → LabelMeaning) {look look' : String → String → Option (Option δ)}
    {schema label : String} {value : δ}
    (hlook : ∀ s l, look' s l = if schema = s ∧ label = l then some (some value) else look s l)
    {x : Table × LabelMeaning} : Said table meaning look' x ↔
      x = (table schema label, meaning schema value) ∨
        x.1 ≠ table schema label ∧ Said table meaning look x := by
  constructor
  · rintro ⟨s, l, v, hv, rfl⟩
    rw [hlook] at hv
    split at hv
    · next h =>
      obtain ⟨rfl, rfl⟩ := h
      exact .inl (by rw [← Option.some.inj hv, Option.getD_some])
    · next h =>
      refine .inr ⟨fun heq ↦ h ?_, s, l, v, hv, rfl⟩
      obtain ⟨rfl, rfl⟩ := htable heq
      exact ⟨rfl, rfl⟩
  · rintro (rfl | ⟨hne, s, l, v, hv, rfl⟩)
    · exact ⟨schema, label, some value, by rw [hlook, if_pos ⟨rfl, rfl⟩], rfl⟩
    · refine ⟨s, l, v, ?_, rfl⟩
      rw [hlook, if_neg, hv]
      rintro ⟨rfl, rfl⟩
      exact hne rfl

end Declarations

/-- What a declaration says. -/
def Declaration.meaning : Declaration → Table × LabelMeaning
  | .vertex schema label properties => (.vertex schema label, Declarations.vertexSays ⟨properties⟩)
  | .edge schema label outs ins properties => (.edge schema label, Declarations.edgeSays schema
      ⟨outs.map Topology.endpointLabel, ins.map Topology.endpointLabel, properties⟩)

namespace Topology

theorem labels_record (t : Topology) (c : Declaration) (schema : String) :
    (t.record c).labels schema = if c.schema = schema then c.change (t.declarations.labels schema)
      else t.declarations.labels schema := by
  rw [Declarations.labels, record, lookupKey_putKey]
  by_cases h : c.schema = schema
  · rw [if_pos (beq_iff_eq.mpr h), if_pos h, Option.join_some, Option.getD_some, ← h]
    rfl
  · rw [if_neg (by simpa using h), if_neg h]
    rfl

theorem mem_putKey {α β : Type} [BEq α] {key : α} {value : β} {entries : List (α × β)} {x : α × β}
    (h : x ∈ putKey key value entries) : x = (key, value) ∨ x ∈ entries := by
  induction entries with
  | nil => exact .inl (List.mem_singleton.mp h)
  | cons entry rest ih =>
    rw [putKey] at h
    split at h
    · exact (List.mem_cons.mp h).imp_right (List.mem_cons_of_mem _)
    · rcases List.mem_cons.mp h with rfl | h
      · exact .inr List.mem_cons_self
      · exact (ih h).imp_right (List.mem_cons_of_mem _)

theorem nodup_labels {d : Declarations} {δ : Type} {f : SchemaLabels → List (String × δ)}
    (hf : f {} = []) (hlabels : ∀ x ∈ d, ((f (x.2.getD {})).map Prod.fst).Nodup)
    (schema : String) : ((f (d.labels schema)).map Prod.fst).Nodup := by
  rw [Declarations.labels]
  cases hlookup : lookupKey schema d with
  | none => simp [hf]
  | some labels => exact hlabels _ (mem_of_lookupKey hlookup)

/-- Declarations keep the keys apart. -/
theorem unique_record {t : Topology} (h : t.declarations.Unique) (c : Declaration) :
    (t.record c).Unique where
  schemas := nodup_keys_putKey h.schemas
  vertices := by
    intro x hx
    rcases mem_putKey hx with rfl | hx
    · have hold := nodup_labels rfl h.vertices c.schema
      cases c with
      | vertex => exact nodup_keys_putKey hold
      | edge => exact hold
    · exact h.vertices x hx
  edges := by
    intro x hx
    rcases mem_putKey hx with rfl | hx
    · have hold := nodup_labels rfl h.edges c.schema
      cases c with
      | vertex => exact hold
      | edge => exact nodup_keys_putKey hold
    · exact h.edges x hx

theorem vertex_inj {schema label schema' label' : String}
    (h : Table.vertex schema label = Table.vertex schema' label') :
    schema = schema' ∧ label = label' := by
  obtain ⟨rfl, hname⟩ := Table.mk.inj h
  exact ⟨rfl, String.toList_inj.mp (by simpa using congrArg String.toList hname)⟩

theorem edge_inj {schema label schema' label' : String}
    (h : Table.edge schema label = Table.edge schema' label') :
    schema = schema' ∧ label = label' := by
  obtain ⟨rfl, hname⟩ := Table.mk.inj h
  exact ⟨rfl, String.toList_inj.mp (by simpa using congrArg String.toList hname)⟩

/-- What is kept is not superseded anyway, so it makes no difference whether that is asked of it. -/
theorem supersede_or_iff {isNew isOther old kept : Prop} (h : kept → isOther) :
    (isNew ∨ isOther ∧ old) ∨ kept ↔ isNew ∨ isOther ∧ (old ∨ kept) := by
  rw [and_or_left, and_iff_right_of_imp h, or_assoc]

/-- A declaration supersedes what has been said of its label, and nothing else. -/
theorem mem_meanings_record {t : Topology} (h : t.declarations.Unique) (c : Declaration)
    {x : Table × LabelMeaning} : x ∈ (t.record c).meanings ↔
      x = c.meaning ∨ x.1 ≠ c.meaning.1 ∧ x ∈ t.declarations.meanings := by
  have hput : ∀ {δ : Type} {f : SchemaLabels → List (String × Option δ)} {label : String} {v : δ},
      (∀ labels, f (c.change labels) = putKey label (some v) (f labels)) → ∀ s l,
        lookupKey l (f ((t.record c).labels s)) = if c.schema = s ∧ label = l then some (some v)
          else lookupKey l (f (t.declarations.labels s)) := by
    intro δ f label v hf s l
    rw [labels_record]
    by_cases hs : c.schema = s
    · rw [if_pos hs, hf, lookupKey_putKey]
      simp [hs]
    · simp [hs]
  have hkeep : ∀ {δ : Type} {f : SchemaLabels → List (String × Option δ)},
      (∀ labels, f (c.change labels) = f labels) → ∀ s,
        f ((t.record c).labels s) = f (t.declarations.labels s) := by
    intro δ f hf s
    rw [labels_record]
    split
    · exact hf _
    · rfl
  rw [Declarations.mem_meanings_iff_said (unique_record h c), Declarations.mem_meanings_iff_said h]
  cases c with
  | vertex schema label properties =>
    have hvertices := Declarations.Said.supersede_iff (x := x) vertex_inj
      (fun _ ↦ Declarations.vertexSays) (hput (f := SchemaLabels.vertices) fun _ ↦ rfl)
    have hedges := hkeep (f := SchemaLabels.edges) fun _ ↦ rfl
    have hother : Declarations.Said .edge Declarations.edgeSays
        (fun s l ↦ lookupKey l (t.declarations.labels s).edges) x → x.1 ≠ .vertex schema label := by
      rintro ⟨s, l, e, -, rfl⟩ heq
      refine Declarations.not_isVertex_edge s l ?_
      rw [show Table.edge s l = .vertex schema label from heq]
      exact Declarations.isVertex_vertex schema label
    simp only [hedges]
    rw [hvertices]
    exact supersede_or_iff hother
  | edge schema label outs ins properties =>
    have hedges := Declarations.Said.supersede_iff (x := x) edge_inj
      Declarations.edgeSays (hput (f := SchemaLabels.edges) fun _ ↦ rfl)
    have hvertices := hkeep (f := SchemaLabels.vertices) fun _ ↦ rfl
    have hother : Declarations.Said .vertex (fun _ ↦ Declarations.vertexSays)
        (fun s l ↦ lookupKey l (t.declarations.labels s).vertices) x → x.1 ≠ .edge schema label := by
      rintro ⟨s, l, v, -, rfl⟩ heq
      refine Declarations.not_isVertex_edge schema label ?_
      rw [← show Table.vertex s l = .edge schema label from heq]
      exact Declarations.isVertex_vertex s l
    simp only [hvertices]
    rw [hedges]
    rw [or_comm, or_comm (b := Declarations.Said .edge _ _ x)]
    exact supersede_or_iff hother

/-! ## The last word -/

theorem undefined_after {t : Topology} {c : Declaration} {schema : String} :
    (t.after c).Undefined schema ↔ t.Undefined schema := by
  have hrecord : ¬t.Undefined c.schema →
      (lookupKey schema (t.record c) = some none ↔ t.Undefined schema) := by
    intro h
    rw [record, lookupKey_putKey]
    split
    · next heq =>
      obtain rfl := beq_iff_eq.mp heq
      exact iff_of_false nofun h
    · exact Iff.rfl
  obtain ⟨-, -, h⟩ | ⟨hdefined, e, -, h⟩ | ⟨hdefined, -, tables, -, h⟩ := t.after_cases c
  · rw [h]
  · rw [h]
    exact hrecord hdefined
  · rw [h]
    exact hrecord hdefined

instance (t : Topology) (schema : String) : Decidable (t.Undefined schema) :=
  decidable_of_iff (lookupKey schema t.declarations matches some none) (by
    rw [Undefined]
    split <;> simp_all)

theorem unique_after {t : Topology} (h : t.declarations.Unique) (c : Declaration) :
    (t.after c).declarations.Unique := by
  obtain ⟨-, -, hafter⟩ | ⟨-, e, -, hafter⟩ | ⟨-, -, tables, -, hafter⟩ := t.after_cases c
  · rwa [hafter]
  · rw [hafter]
    exact unique_record h c
  · rw [hafter]
    exact unique_record h c

theorem mem_meanings_after {t : Topology} (h : t.declarations.Unique) {c : Declaration}
    (hc : ¬t.Undefined c.schema) {x : Table × LabelMeaning} :
    x ∈ (t.after c).declarations.meanings ↔
      x = c.meaning ∨ x.1 ≠ c.meaning.1 ∧ x ∈ t.declarations.meanings := by
  obtain ⟨hundefined, -, -⟩ | ⟨-, e, -, hafter⟩ | ⟨-, -, tables, -, hafter⟩ := t.after_cases c
  · exact absurd hundefined hc
  · rw [hafter]
    exact mem_meanings_record h c
  · rw [hafter]
    exact mem_meanings_record h c

/-- What has been said of labels, the last word first. -/
def said (t : Topology) (calls : List Declaration) : List (Table × LabelMeaning) :=
  ((calls.filter fun c ↦ ¬t.Undefined c.schema).map Declaration.meaning).reverse ++
    t.declarations.meanings

theorem performAll_append (t : Topology) (calls calls' : List Declaration) :
    t.performAll (calls ++ calls') = (t.performAll calls).performAll calls' := List.foldl_append ..

theorem undefined_performAll {t : Topology} {calls : List Declaration} {schema : String} :
    (t.performAll calls).Undefined schema ↔ t.Undefined schema := by
  induction calls generalizing t with
  | nil => rfl
  | cons c calls ih => exact ih.trans undefined_after

theorem unique_performAll {t : Topology} (h : t.declarations.Unique) (calls : List Declaration) :
    (t.performAll calls).declarations.Unique := by
  induction calls generalizing t with
  | nil => exact h
  | cons c calls ih => exact ih (unique_after h c)

/-- On record is the last word on every label, whether it was refused or not. -/
theorem lookupKey_said {t : Topology} (h : t.declarations.Unique) {calls : List Declaration}
    {table : Table} {m : LabelMeaning} : lookupKey table (t.said calls) = some m ↔
      (table, m) ∈ (t.performAll calls).declarations.meanings := by
  induction calls using List.reverseRecOn with
  | nil => exact lookupKey_eq_some_iff h.nodup_meanings
  | append_singleton calls c ih =>
    rw [performAll_append]
    change _ ↔ _ ∈ ((t.performAll calls).after c).declarations.meanings
    by_cases hc : t.Undefined c.schema
    · have hsaid : t.said (calls ++ [c]) = t.said calls := by simp [said, hc]
      obtain ⟨-, -, hafter⟩ | ⟨hdefined, -⟩ | ⟨hdefined, -⟩ := (t.performAll calls).after_cases c
      · rw [hsaid, hafter, ih]
      · exact absurd (undefined_performAll.mpr hc) hdefined
      · exact absurd (undefined_performAll.mpr hc) hdefined
    · have hsaid : t.said (calls ++ [c]) = c.meaning :: t.said calls := by simp [said, hc]
      rw [hsaid, lookupKey_cons,
        mem_meanings_after (unique_performAll h calls) (undefined_performAll.not.mpr hc), ← ih]
      by_cases htable : c.meaning.1 = table
      · simp [htable, Prod.ext_iff, eq_comm]
      · simp [htable, Prod.ext_iff, Ne.symm htable]

/-- What is on record. -/
theorem alike_performAll_iff {t : Topology} (h : t.declarations.Unique)
    {calls calls' : List Declaration} :
    (t.performAll calls).declarations.Alike (t.performAll calls').declarations ↔
      ∀ table, lookupKey table (t.said calls) = lookupKey table (t.said calls') := by
  constructor
  · intro halike table
    refine Option.ext fun m ↦ ?_
    rw [lookupKey_said h, lookupKey_said h]
    exact halike (table, m)
  · rintro heq ⟨table, m⟩
    rw [← lookupKey_said h, ← lookupKey_said h, heq]

/-! ## With and without refused declarations -/

section Verdicts

variable {t : Topology} {c : Declaration}

theorem after_of_undefinedSchema (h : t.verdict c = .undefinedSchema) :
    t.Undefined c.schema ∧ t.after c = t := by
  obtain ⟨hundefined, -, hafter⟩ | ⟨-, e, hverdict, -⟩ | ⟨-, hverdict, -⟩ := t.after_cases c
  · exact ⟨hundefined, hafter⟩
  · cases hverdict.symm.trans h
  · cases hverdict.symm.trans h

/-- A refusal leaves the index. -/
theorem after_of_refused {e : Error} (h : t.verdict c = .refused e) :
    (t.after c).publicSchema = t.publicSchema ∧ (t.after c).tables = t.tables := by
  obtain ⟨-, hverdict, -⟩ | ⟨-, e', -, hafter⟩ | ⟨-, hverdict, -⟩ := t.after_cases c
  · cases hverdict.symm.trans h
  · rw [hafter]
    exact ⟨rfl, rfl⟩
  · cases hverdict.symm.trans h

/-- An accepted declaration is indexed together with all that is on record. -/
theorem after_of_accepted (h : t.verdict c = .accepted) :
    ¬t.Undefined c.schema ∧ (t.after c).publicSchema = t.publicSchema ∧
      (t.after c).declarations = t.record c ∧ (t.record c).index = .ok (t.after c).tables := by
  obtain ⟨-, hverdict, -⟩ | ⟨-, e, hverdict, -⟩ | ⟨hdefined, -, tables, hindex, hafter⟩ :=
    t.after_cases c
  · cases hverdict.symm.trans h
  · cases hverdict.symm.trans h
  · rw [hafter]
    exact ⟨hdefined, rfl, rfl, hindex⟩

theorem verdict_eq_accepted_iff : t.verdict c = .accepted ↔
    ¬t.Undefined c.schema ∧ ∃ tables, (t.record c).index = .ok tables := by
  constructor
  · intro h
    obtain ⟨hdefined, -, -, hindex⟩ := after_of_accepted h
    exact ⟨hdefined, _, hindex⟩
  · rintro ⟨hdefined, tables, hindex⟩
    rw [verdict, perform_of_not_undefined hdefined, reindex, hindex]

theorem record_eq_after (h : ¬t.Undefined c.schema) : (t.after c).declarations = t.record c := by
  obtain ⟨hundefined, -, -⟩ | ⟨-, e, -, hafter⟩ | ⟨-, -, tables, -, hafter⟩ := t.after_cases c
  · exact absurd hundefined h
  · rw [hafter]
  · rw [hafter]

end Verdicts

theorem performAll_concat (t : Topology) (calls : List Declaration) (c : Declaration) :
    t.performAll (calls ++ [c]) = (t.performAll calls).after c := performAll_append ..

theorem verdicts_concat (t : Topology) (calls : List Declaration) (c : Declaration) :
    t.verdicts (calls ++ [c]) = t.verdicts calls ++ [(t.performAll calls).verdict c] := by
  induction calls generalizing t with
  | nil => rfl
  | cons c calls ih => exact congrArg (t.verdict c :: ·) (ih _)

theorem kept_concat (t : Topology) (calls : List Declaration) (c : Declaration) :
    t.kept (calls ++ [c]) =
      t.kept calls ++ if ((t.performAll calls).verdict c).isRefusal then [] else [c] := by
  induction calls generalizing t with
  | nil => rfl
  | cons c calls ih =>
    rw [List.cons_append, kept, kept, ih]
    split <;> rfl

/-- Two topologies that have come to the same index, whatever is on record. -/
structure Abreast (t t' : Topology) : Prop where
  /-- Unqualified references are taken the same way. -/
  publicSchema : t.publicSchema = t'.publicSchema
  /-- They list the same tables. -/
  tableList : t.tableList = t'.tableList
  /-- The tables are the same. -/
  info : ∀ table, t.info? table = t'.info? table
  /-- The same schemas are listed without a definition. -/
  undefined : ∀ schema, t.Undefined schema ↔ t'.Undefined schema

namespace Abreast

variable {t t' : Topology} {c : Declaration}

theorem refl (t : Topology) : t.Abreast t := ⟨rfl, rfl, fun _ ↦ rfl, fun _ ↦ Iff.rfl⟩

theorem sameAnswers (h : t.Abreast t') : t.SameAnswers t' :=
  sameAnswers_of_info h.publicSchema h.tableList h.info

theorem refuse (h : t.Abreast t') {e : Error} (hc : t.verdict c = .refused e) :
    (t.after c).Abreast t' := by
  obtain ⟨hschema, htables⟩ := after_of_refused hc
  exact {
    publicSchema := hschema.trans h.publicSchema
    tableList := by rw [← h.tableList, Topology.tableList, Topology.tableList, htables]
    info := fun table ↦ by rw [← h.info, info?, info?, htables]
    undefined := fun schema ↦ undefined_after.trans (h.undefined schema) }

theorem undefinedSchema (h : t.Abreast t') (hc : t.verdict c = .undefinedSchema) :
    t'.verdict c = .undefinedSchema ∧ (t.after c).Abreast (t'.after c) := by
  obtain ⟨hundefined, hafter⟩ := after_of_undefinedSchema hc
  have hperform := perform_of_undefined ((h.undefined c.schema).mp hundefined)
  have hverdict : t'.verdict c = .undefinedSchema := by rw [verdict, hperform]
  rw [hafter, (after_of_undefinedSchema hverdict).2]
  exact ⟨hverdict, h⟩

/-- If the same is on record, a declaration is accepted by both and leads to the same index. -/
theorem accept (h : t.Abreast t') (ht : t.declarations.Unique) (ht' : t'.declarations.Unique)
    (hc : t.verdict c = .accepted)
    (halike : (t.after c).declarations.Alike (t'.after c).declarations) :
    t'.verdict c = .accepted ∧ (t.after c).Abreast (t'.after c) := by
  obtain ⟨hdefined, hschema, hrecord, hindex⟩ := after_of_accepted hc
  have hdefined' : ¬t'.Undefined c.schema := (h.undefined c.schema).not.mp hdefined
  rw [hrecord, record_eq_after hdefined'] at halike
  have hunique := unique_record ht c
  have hunique' := unique_record ht' c
  have hverdict : t'.verdict c = .accepted :=
    verdict_eq_accepted_iff.mpr ⟨hdefined', halike.exists_index hunique hunique' hindex⟩
  obtain ⟨-, hschema', -, hindex'⟩ := after_of_accepted hverdict
  have hlookup := halike.lookupKey_eq hunique hunique' hindex hindex'
  refine ⟨hverdict, hschema.trans (h.publicSchema.trans hschema'.symm), tableList_eq ?_, hlookup,
    fun schema ↦ undefined_after.trans ((h.undefined schema).trans undefined_after.symm)⟩
  refine (List.perm_ext_iff_of_nodup (nodup_keys_index hindex) (nodup_keys_index hindex')).mpr
    fun table ↦ ?_
  rw [← isSome_lookupKey_iff, ← isSome_lookupKey_iff, hlookup]

end Abreast

theorem SameAnswers.symm {t t' : Topology} (h : t.SameAnswers t') : t'.SameAnswers t where
  tables := h.tables.symm
  properties table := (h.properties table).symm
  hasProperty table key := (h.hasProperty table key).symm
  foreignKeys table := (h.foreignKeys table).symm
  columns table column := (h.columns table column).symm
  references ref := (h.references ref).symm
  statements d := (h.statements d).symm

/-- What is on record can be read off the answers once it has been indexed. -/
theorem SameAnswers.mem_meanings {t t' : Topology} (h : t.SameAnswers t')
    (ht : t.declarations.Unique) (ht' : t'.declarations.Unique)
    (hindex : t.declarations.index = .ok t.tables)
    (hindex' : t'.declarations.index = .ok t'.tables) {x : Table × LabelMeaning}
    (hx : x ∈ t.declarations.meanings) : x ∈ t'.declarations.meanings := by
  obtain ⟨table, m⟩ := x
  obtain ⟨info, hinfo, hproperties, hkeys⟩ := (Declarations.mem_meanings_iff ht hindex).mp hx
  have hinfo₁ : t.info? table = some info := hinfo
  have hsame := h.properties table
  rw [properties?, hinfo₁, Option.map_some, eq_comm, properties?, Option.map_eq_some_iff] at hsame
  obtain ⟨info', hinfo', hproperties'⟩ := hsame
  have hsameKeys : info.foreignKeys = info'.foreignKeys := by
    simpa [Topology.foreignKeys, hinfo₁, hinfo'] using h.foreignKeys table
  exact (Declarations.mem_meanings_iff ht' hindex').mpr
    ⟨info', hinfo', hproperties'.trans hproperties, hsameKeys.symm.trans hkeys⟩

theorem SameAnswers.alike {t t' : Topology} (h : t.SameAnswers t') (ht : t.declarations.Unique)
    (ht' : t'.declarations.Unique) (hindex : t.declarations.index = .ok t.tables)
    (hindex' : t'.declarations.index = .ok t'.tables) :
    t.declarations.Alike t'.declarations :=
  fun _ ↦ ⟨h.mem_meanings ht ht' hindex hindex', h.symm.mem_meanings ht' ht hindex' hindex⟩

/-- A declaration is accepted if every label can have the table that was last declared. -/
theorem verdict_performAll_iff {t : Topology} (ht : t.declarations.Unique)
    (calls : List Declaration) (c : Declaration) :
    (t.performAll calls).verdict c = .accepted ↔
      ¬t.Undefined c.schema ∧ ∀ table m, lookupKey table (t.said (calls ++ [c])) = some m →
        ∃ info, TableInfo.ofMeaning
          (fun table ↦ (lookupKey table (t.said (calls ++ [c]))).isSome) table m = .ok info := by
  rw [verdict_eq_accepted_iff, undefined_performAll]
  refine and_congr_right fun hdefined ↦ ?_
  have hrecord : (t.performAll (calls ++ [c])).declarations = (t.performAll calls).record c := by
    rw [performAll_concat, record_eq_after (undefined_performAll.not.mpr hdefined)]
  have hdeclares : (fun table ↦ (lookupKey table (t.said (calls ++ [c]))).isSome) =
      (t.performAll (calls ++ [c])).declarations.declares := by
    funext table
    rw [Bool.eq_iff_iff, Option.isSome_iff_exists, Declarations.declares, List.contains_iff_mem]
    simp [lookupKey_said ht]
  rw [hdeclares, ← hrecord, Declarations.exists_index_iff (unique_performAll ht _), Prod.forall]
  exact forall₂_congr fun table m ↦ by rw [lookupKey_said ht]

/-- What comes of declarations is the same without the refused ones. -/
def Overlooks (t : Topology) (calls : List Declaration) : Prop :=
  (t.performAll calls).SameAnswers (t.performAll (t.kept calls)) ∧
    (t.verdicts calls).filter (!·.isRefusal) = t.verdicts (t.kept calls)

/-- As long as no refused declaration is on record when one is accepted, the two runs are abreast. -/
theorem abreast_kept {t : Topology} (ht : t.declarations.Unique) {calls : List Declaration}
    (h : ∀ done c, done ++ [c] <+: calls → (t.performAll done).verdict c = .accepted →
      (t.performAll (done ++ [c])).declarations.Alike
        (t.performAll (t.kept (done ++ [c]))).declarations) :
    (t.performAll calls).Abreast (t.performAll (t.kept calls)) ∧
      (t.verdicts calls).filter (!·.isRefusal) = t.verdicts (t.kept calls) := by
  induction calls using List.reverseRecOn with
  | nil => exact ⟨.refl t, rfl⟩
  | append_singleton calls c ih =>
    obtain ⟨habreast, hverdicts⟩ := ih fun done c' hdone ↦
      h done c' (hdone.trans (List.prefix_append calls [c]))
    have hlast := h calls c (List.prefix_refl _)
    have hu := unique_performAll ht calls
    have hu' := unique_performAll ht (t.kept calls)
    rw [performAll_concat, kept_concat] at hlast ⊢
    rw [verdicts_concat, List.filter_append, hverdicts]
    cases hverdict : (t.performAll calls).verdict c with
    | refused e =>
      simp only [Verdict.isRefusal, if_true, List.append_nil]
      exact ⟨habreast.refuse hverdict, by simp⟩
    | undefinedSchema =>
      obtain ⟨hsame, habreast'⟩ := habreast.undefinedSchema hverdict
      simp only [Verdict.isRefusal, Bool.false_eq_true, if_false, performAll_concat, verdicts_concat,
        hsame]
      exact ⟨habreast', by simp⟩
    | accepted =>
      simp only [hverdict, Verdict.isRefusal, Bool.false_eq_true, if_false, performAll_concat,
        verdicts_concat] at hlast ⊢
      obtain ⟨hsame, habreast'⟩ := habreast.accept hu hu' hverdict (hlast trivial)
      exact ⟨habreast', by simp [hsame]⟩

/-- When a declaration is accepted and nothing is different without the refused ones, the same is
on record without them. -/
theorem Overlooks.alike {t : Topology} (ht : t.declarations.Unique) {calls : List Declaration}
    {c : Declaration} (hcalls : t.Overlooks calls) (h : t.Overlooks (calls ++ [c]))
    (hc : (t.performAll calls).verdict c = .accepted) :
    (t.performAll (calls ++ [c])).declarations.Alike
      (t.performAll (t.kept (calls ++ [c]))).declarations := by
  have hkept : t.kept (calls ++ [c]) = t.kept calls ++ [c] := by
    rw [kept_concat, hc]
    rfl
  obtain ⟨hanswers, hverdicts⟩ := h
  have hc' : (t.performAll (t.kept calls)).verdict c = .accepted := by
    rw [hkept, verdicts_concat, verdicts_concat, List.filter_append, hcalls.2, hc] at hverdicts
    exact (List.cons.inj (List.append_cancel_left hverdicts)).1.symm
  rw [hkept, performAll_concat, performAll_concat] at hanswers ⊢
  obtain ⟨-, -, hrecord, hindex⟩ := after_of_accepted hc
  obtain ⟨-, -, hrecord', hindex'⟩ := after_of_accepted hc'
  exact hanswers.alike (unique_after (unique_performAll ht _) c)
    (unique_after (unique_performAll ht _) c) (hrecord ▸ hindex) (hrecord' ▸ hindex')

/-- **Refused declarations stay on record.** A refused declaration changes no answer. A declaration
is accepted exactly when every label can have its table as it was last declared, be that refused or
not. So a run of declarations is like the run without the refused ones, at every point of it,
exactly when at every accepted declaration the last word on every label is the same in both. -/
theorem overlooks_iff_said {t : Topology} (ht : t.declarations.Unique) (calls : List Declaration) :
    (∀ c e, (t.performAll calls).verdict c = .refused e →
      (t.performAll calls).SameAnswers (t.performAll (calls ++ [c]))) ∧
    (∀ c, (t.performAll calls).verdict c = .accepted ↔
      ¬t.Undefined c.schema ∧ ∀ table m, lookupKey table (t.said (calls ++ [c])) = some m →
        ∃ info, TableInfo.ofMeaning
          (fun table ↦ (lookupKey table (t.said (calls ++ [c]))).isSome) table m = .ok info) ∧
    ((∀ done, done <+: calls → t.Overlooks done) ↔
      ∀ done c, done ++ [c] <+: calls → (t.performAll done).verdict c = .accepted →
        ∀ table, lookupKey table (t.said (done ++ [c])) =
          lookupKey table (t.said (t.kept (done ++ [c])))) := by
  refine ⟨fun c e hc ↦ ?_, fun c ↦ ?_, ?_, fun h done hdone ↦ ?_⟩
  · rw [performAll_concat]
    exact ((Abreast.refl _).refuse hc).sameAnswers.symm
  · exact verdict_performAll_iff ht calls c
  · intro h done c hdone hc
    exact (alike_performAll_iff ht).mp
      ((h done ((List.prefix_append done [c]).trans hdone)).alike ht (h _ hdone) hc)
  · obtain ⟨habreast, hverdicts⟩ := abreast_kept ht fun done' c hdone' hc ↦
      (alike_performAll_iff ht).mpr (h done' c (hdone'.trans hdone) hc)
    exact ⟨habreast.sameAnswers, hverdicts⟩

/-! ### An edge before its vertex

An edge is refused because its vertex is not declared. Once the vertex is declared, the edge is
there as well. A vertex label with a property that has no name is refused for good, until the label
is declared again.
-/

/-- An edge label whose vertex is declared after it. -/
def edgeFirst : List Declaration := [.edge "s" "e" [⟨"s", "V_v"⟩] [] [], .vertex "s" "v" []]

/-- A vertex label that is declared a second time. -/
def vertexTwice : List Declaration := [.vertex "s" "v" [⟨"", .string⟩], .vertex "s" "v" []]

/-- The refused edge appears with its vertex; the refused vertex is forgotten. -/
theorem overlooks_edgeFirst :
    (empty "s").verdicts edgeFirst =
      [.refused (.unknownVertex ⟨"s", "E_e"⟩ ⟨"s", "V_v"⟩), .accepted] ∧
    ((empty "s").performAll edgeFirst).hasTable ⟨"s", "E_e"⟩ = true ∧
    ((empty "s").performAll ((empty "s").kept edgeFirst)).hasTable ⟨"s", "E_e"⟩ = false ∧
    (¬∀ done, done <+: edgeFirst → (empty "s").Overlooks done) ∧
    (empty "s").verdicts vertexTwice = [.refused (.namelessProperty ⟨"s", "V_v"⟩), .accepted] ∧
    ∀ done, done <+: vertexTwice → (empty "s").Overlooks done := by
  have hunique : (empty "s").declarations.Unique := ⟨List.nodup_nil, nofun, nofun⟩
  refine ⟨rfl, rfl, rfl, fun h ↦ ?_, rfl, ?_⟩
  · have hsaid := (overlooks_iff_said hunique edgeFirst).2.2.mp h
      [.edge "s" "e" [⟨"s", "V_v"⟩] [] []] (.vertex "s" "v" []) (List.prefix_refl _) rfl ⟨"s", "E_e"⟩
    revert hsaid
    decide
  · refine (overlooks_iff_said hunique vertexTwice).2.2.mpr fun done c hdone hc table ↦ ?_
    rcases done with _ | ⟨c₁, _ | ⟨c₂, done⟩⟩
    · obtain rfl : c = .vertex "s" "v" [⟨"", .string⟩] := by simpa [vertexTwice] using hdone
      cases hc
    · obtain ⟨rfl, rfl⟩ : c₁ = .vertex "s" "v" [⟨"", .string⟩] ∧ c = .vertex "s" "v" [] := by
        simpa [vertexTwice] using hdone
      -- the second declaration is of the same label
      change lookupKey table [(_, _), (_, _)] = lookupKey table [(_, _)]
      rw [lookupKey_cons, lookupKey_cons, lookupKey_cons]
      split <;> simp_all
    · have hlength := hdone.length_le
      simp [vertexTwice] at hlength

end Topology

end PathQuery
