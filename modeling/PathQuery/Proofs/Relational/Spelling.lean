import PathQuery.Proofs.Relational.Answer
import PathQuery.Proofs.Sql.Layout
import PathQuery.Proofs.Sql.Masking

/-!
# Names as they are written

A statement reaches the database as text, and the text does not spell every name as the statement
has it: a dialect may leave characters out of table names, and a line break inside a derived table
is followed by an indentation, also within a name. The query that a text stands for is therefore
the compiled one with its names respelled. Names without line breaks and NULs are spelled as they
are, and every name in a compiled query comes from the topology or is an alias; so over a topology
with plain names a text stands for the query it was written from.
-/

namespace PathQuery

/-! ## Respelling -/

/-- How a text spells the parts of table names, and all other names. -/
structure Spelling where
  /-- The parts of table names. -/
  table : String → String
  /-- Other names. -/
  other : String → String

/-- The spelling in a text that does something to every name after the dialect is done. -/
def Dialect.spelling (d : Dialect) (f : String → String) : Spelling := ⟨fun s ↦ f (d.tablePart s), f⟩

section Respelling

variable (sp : Spelling)

/-- A respelled table. -/
def Table.respell (t : Table) : Table := ⟨sp.table t.schema, sp.table t.name⟩

/-- A respelled column. -/
def ColumnRef.respell (c : ColumnRef) : ColumnRef := ⟨c.source, sp.other c.column⟩

/-- A respelled condition. -/
def Condition.respell : Condition → Condition
  | .same l r => .same (l.respell sp) (r.respell sp)
  | .compare c op v => .compare (c.respell sp) op v
  | .among c negated vs => .among (c.respell sp) negated vs
  | .like c negated pattern => .like (c.respell sp) negated pattern
  | .isNull c => .isNull (c.respell sp)
  | .never => .never

/-- A respelled relation. -/
def Relation.respell : Relation → Relation
  | .table t => .table (t.respell sp)
  | .temporary name => .temporary (sp.other name)

/-- A respelled join. -/
def Join.respell (j : Join) : Join :=
  { j with
    relation := j.relation.respell sp
    conditions := j.conditions.map (Condition.respell sp) }

/-- A respelled projection. -/
def Projection.respell (p : Projection) : Projection := ⟨p.column.respell sp, sp.other p.name⟩

/-- A respelled sort column. -/
def SortColumn.respell (o : SortColumn) : SortColumn := ⟨o.column.respell sp, o.order⟩

/-- A respelled select. -/
def Select.respell (s : Select) : Select where
  projections := s.projections.map (Projection.respell sp)
  table := s.table.respell sp
  source := s.source
  joins := s.joins.map (Join.respell sp)
  conditions := s.conditions.map (Condition.respell sp)
  order := s.order.map (SortColumn.respell sp)

end Respelling

/-- The query that a text stands for. -/
def Query.written (d : Dialect) : Query → Query
  | .single s => .single (s.respell (d.spelling id))
  | .split s => .split { s with
      first := s.first.respell (d.spelling indentBreaks)
      links := s.links.map fun l ↦ { l with select := l.select.respell (d.spelling indentBreaks) } }

/-! ## The text spells what is respelled -/

namespace Fragment

/-- A fragment with its name changed, if it is one. -/
def mapName (f : String → String) : Fragment → Fragment
  | .name n => .name (f n)
  | fragment => fragment

@[simp] theorem map_mapName_separated (f : String → String) (sep : String)
    (parts : List (List Fragment)) :
    (separated sep parts).map (mapName f) = separated sep (parts.map (List.map (mapName f))) :=
  map_separated (fun _ ↦ rfl) sep parts

end Fragment

section Text

variable (d : Dialect) (f : String → String)

@[simp] theorem ColumnRef.fragments_respell (c : ColumnRef) :
    (c.respell (d.spelling f)).fragments = c.fragments.map (Fragment.mapName f) := rfl

@[simp] theorem map_mapName_operandList (vs : List Value) :
    (operandList vs).map (Fragment.mapName f) = operandList vs := by
  rw [operandList]
  split
  · rfl
  · rw [Fragment.map_mapName_separated, List.map_map]
    rfl

@[simp] theorem Condition.fragments_respell (c : Condition) :
    (c.respell (d.spelling f)).fragments = c.fragments.map (Fragment.mapName f) := by
  cases c <;> simp [Condition.respell, Condition.fragments, Fragment.mapName]

/-- A dialect that takes the parts of table names as they are. -/
def Dialect.verbatim (d : Dialect) : Dialect := { d with engine := .sqlite }

@[simp] theorem Table.fragments_respell (t : Table) :
    (t.respell (d.spelling f)).fragments d.verbatim =
      (t.fragments d).map (Fragment.mapName f) := rfl

@[simp] theorem Relation.fragments_respell (r : Relation) :
    (r.respell (d.spelling f)).fragments d.verbatim =
      (r.fragments d).map (Fragment.mapName f) := by
  cases r <;> rfl

@[simp] theorem Condition.allFragments_respell (cs : List Condition) :
    Condition.allFragments (cs.map (Condition.respell (d.spelling f))) =
      (Condition.allFragments cs).map (Fragment.mapName f) := by
  simp [Condition.allFragments, Function.comp_def]

@[simp] theorem Join.fragments_respell (j : Join) :
    (j.respell (d.spelling f)).fragments d.verbatim =
      (j.fragments d).map (Fragment.mapName f) := by
  simp [Join.respell, Join.fragments, Fragment.mapName]

@[simp] theorem Projection.fragments_respell (p : Projection) :
    (p.respell (d.spelling f)).fragments = p.fragments.map (Fragment.mapName f) := rfl

@[simp] theorem SortColumn.fragments_respell (t : SortColumn) :
    (t.respell (d.spelling f)).fragments = t.fragments.map (Fragment.mapName f) := rfl

@[simp] theorem SortColumn.clause_respell (terms : List SortColumn) :
    SortColumn.clause (terms.map (SortColumn.respell (d.spelling f))) =
      (SortColumn.clause terms).map (Fragment.mapName f) := by
  rw [SortColumn.clause, SortColumn.clause, List.isEmpty_map]
  split
  · rfl
  · simp [Function.comp_def, Fragment.mapName]

/-- The text of a select spells the names of the respelled one. -/
theorem Select.fragments_respell (s : Select) :
    (s.respell (d.spelling f)).fragments d.verbatim = (s.fragments d).map (Fragment.mapName f) := by
  have hjoins : (s.joins.map (Join.respell (d.spelling f))).flatMap (Join.fragments d.verbatim) =
      (s.joins.flatMap (Join.fragments d)).map (Fragment.mapName f) := by
    rw [List.flatMap_map, List.map_flatMap]
    exact List.flatMap_congr fun j _ ↦ Join.fragments_respell d f j
  have hconditions : Condition.clause (s.conditions.map (Condition.respell (d.spelling f))) =
      (Condition.clause s.conditions).map (Fragment.mapName f) := by
    rw [Condition.clause, Condition.clause, List.isEmpty_map]
    split
    · rfl
    · simp [Fragment.mapName]
  simp [Select.respell, Select.fragments, Projection.clause, hjoins, hconditions,
    Function.comp_def, Fragment.mapName]

/-- The names in a text, as they are spelled. -/
def Fragment.spelled (fs : List Fragment) : List String :=
  fs.filterMap fun
    | .name n => some n
    | _ => none

end Text

/-! ## Plain names -/

/-- A name without line breaks and NULs. -/
def PlainName (s : String) : Prop := '\n' ∉ s.toList ∧ Char.ofNat 0 ∉ s.toList

instance (s : String) : Decidable (PlainName s) := inferInstanceAs (Decidable (_ ∧ _))

/-- Indenting changes a text exactly when it has a line break. -/
theorem indentBreaks_eq_self_iff {s : String} : indentBreaks s = s ↔ '\n' ∉ s.toList := by
  have hlength : ∀ cs : List Char,
      (cs.flatMap fun c ↦ if c = '\n' then ['\n', '\t'] else [c]).length =
        cs.length + cs.count '\n' := by
    intro cs
    induction cs with
    | nil => rfl
    | cons c cs ih =>
      rw [List.flatMap_cons, List.length_append, ih, List.length_cons, List.count_cons]
      by_cases hc : c = '\n'
      · rw [if_pos hc, if_pos (by rw [hc]; rfl), List.length_cons, List.length_singleton]
        omega
      · rw [if_neg hc, if_neg (by simpa using hc), List.length_singleton]
        omega
  constructor
  · intro h
    have hchars := congrArg (fun s : String ↦ s.toList.length) h
    simp only [indentBreaks, String.toList_ofList, hlength] at hchars
    exact List.count_eq_zero.mp (by omega)
  · intro h
    have hsame : s.toList.flatMap (fun c ↦ if c = '\n' then ['\n', '\t'] else [c]) = s.toList := by
      rw [List.flatMap_congr fun c hc ↦ if_neg (ne_of_mem_of_not_mem hc h),
        List.flatMap_singleton']
    rw [indentBreaks, hsame, String.ofList_toList]

theorem indentBreaks_of_plain {s : String} (h : PlainName s) : indentBreaks s = s :=
  indentBreaks_eq_self_iff.mpr h.1

theorem Dialect.tablePart_of_plain (d : Dialect) {s : String} (h : PlainName s) :
    d.tablePart s = s := d.tablePart_of_notMem h.2

theorem plainName_aliasName (i : ℕ) : PlainName (aliasName i) := by
  constructor <;>
  · rw [aliasName, String.toList_append, List.mem_append, not_or]
    exact ⟨by decide, notMem_repr (by decide) (i + 1)⟩

theorem plainName_idColumn : PlainName idColumn := by decide

/-- The names of a topology's tables and columns are plain. -/
def Topology.PlainNames (g : Topology) : Prop :=
  ∀ table info, g.info? table = some info →
    PlainName table.schema ∧ PlainName table.name ∧ ∀ column ∈ info.columnNames, PlainName column

/-- A spelling that leaves plain names alone. -/
def Spelling.KeepsPlain (sp : Spelling) : Prop :=
  ∀ s, PlainName s → sp.table s = s ∧ sp.other s = s

theorem Dialect.keepsPlain_spelling (d : Dialect) {f : String → String}
    (hf : ∀ s, PlainName s → f s = s) : (d.spelling f).KeepsPlain := by
  intro s hs
  refine ⟨?_, hf s hs⟩
  change f (d.tablePart s) = s
  rw [d.tablePart_of_plain hs, hf s hs]

/-! ## Names in a compiled query -/

/-- A tree over an indexed topology with plain names. -/
structure Tree.PlainOver (t : Tree) (g : Topology) : Prop where
  /-- The topology is the tree's. -/
  catalog : t.catalog = some g
  /-- It indexes some declarations. -/
  indexed : g.Indexed
  /-- Its names are plain. -/
  plain : g.PlainNames

namespace Tree.PlainOver

variable {t : Tree} {g : Topology}

theorem of_resolveColumn? (h : t.PlainOver g) {table : Table} {c : String}
    (hc : (g.resolveColumn? table c).isSome) : PlainName c := by
  obtain ⟨d, hindex⟩ := h.indexed
  obtain ⟨meaning, hmeaning⟩ := Option.isSome_iff_exists.mp hc
  obtain ⟨info, hinfo, hlookup⟩ := Option.bind_eq_some_iff.mp hmeaning
  refine (h.plain table info hinfo).2.2 c ?_
  exact (Topology.soundIndex_index hindex table info hinfo).within c (by rw [hlookup]; rfl)

theorem topology_eq (h : t.PlainOver g) : t.topology = .ok g := by
  rw [topology, h.catalog]

theorem of_columnsOf (h : t.PlainOver g) {table : Table} {columns : List String}
    (hcolumns : t.columnsOf table = .ok columns) : ∀ c ∈ columns, PlainName c := by
  obtain ⟨g', hg', hsome⟩ := columns?_of_columnsOf hcolumns
  obtain rfl := Option.some.inj (hg'.symm.trans h.catalog)
  rw [Topology.columns?, Topology.properties?, Option.map_map] at hsome
  obtain ⟨info, hinfo, rfl⟩ := Option.map_eq_some_iff.mp hsome
  intro c hc
  refine (h.plain table info hinfo).2.2 c ?_
  rw [TableInfo.columnNames]
  rcases List.mem_append.mp hc with hc | hc
  · exact List.mem_append_left _ hc
  · split at hc
    · rw [Topology.foreignKeys, hinfo] at hc
      exact List.mem_append_right _ hc
    · cases hc

theorem of_correlation (h : t.PlainOver g) {id : NodeId} {above below : Node} {c : Correlation}
    (hc : t.correlation id above below = .ok c) : PlainName c.above ∧ PlainName c.below := by
  obtain ⟨⟨edge, key, c'⟩, hcorrelate, h₁⟩ := bind_eq_ok_iff.mp hc
  obtain ⟨g', hg', h₂⟩ := bind_eq_ok_iff.mp h₁
  obtain rfl := Except.ok.inj (hg'.symm.trans h.topology_eq)
  split at h₂
  · next hresolved =>
    obtain rfl := Except.ok.inj h₂
    have hkey := h.of_resolveColumn? hresolved
    obtain ⟨side, ⟨-, -, -, rfl⟩ | ⟨-, -, -, rfl⟩⟩ := correlate_cases hcorrelate
    · exact ⟨plainName_idColumn, hkey⟩
    · exact ⟨hkey, plainName_idColumn⟩
  · cases h₂

theorem of_parentCorrelation (h : t.PlainOver g) {id : NodeId} {c : Correlation}
    (hc : t.parentCorrelation id = .ok c) : PlainName c.above ∧ PlainName c.below := by
  obtain ⟨n, -, h₁⟩ := bind_eq_ok_iff.mp hc
  split at h₁
  · obtain ⟨above, -, h₂⟩ := bind_eq_ok_iff.mp h₁
    exact h.of_correlation h₂
  · cases h₁

theorem of_sortKeys (h : t.PlainOver g) {ids : List NodeId} {keys : List SortKey}
    (hkeys : t.sortKeys ids = .ok keys) : ∀ k ∈ keys, PlainName k.column := by
  obtain ⟨parts, hparts, heq⟩ := bind_eq_ok_iff.mp hkeys
  obtain rfl := Except.ok.inj heq
  intro k hk
  obtain ⟨part, hpart, hmem⟩ := List.mem_flatten.mp hk
  obtain ⟨id, -, h₁⟩ := exists_of_mem_right_of_mapM_eq_ok hparts part hpart
  obtain ⟨n, -, h₂⟩ := bind_eq_ok_iff.mp h₁
  obtain ⟨o, -, h₃⟩ := exists_of_mem_right_of_mapM_eq_ok h₂ k hmem
  obtain ⟨node, -, h₄⟩ := bind_eq_ok_iff.mp h₃
  obtain ⟨n', -, h₅⟩ := bind_eq_ok_iff.mp h₄
  obtain ⟨g', hg', h₆⟩ := bind_eq_ok_iff.mp h₅
  obtain rfl := Except.ok.inj (hg'.symm.trans h.topology_eq)
  split at h₆
  · next hproperty =>
    obtain rfl := Except.ok.inj h₆
    rw [Topology.hasProperty] at hproperty
    split at hproperty
    · next meaning hmeaning =>
      exact h.of_resolveColumn? (by rw [Topology.resolveColumn?, hmeaning]; rfl)
    · cases hproperty
  · cases h₆

end Tree.PlainOver

/-- All columns of a condition have plain names. -/
def Condition.Plain (c : Condition) : Prop := ∀ ref ∈ c.columns, PlainName ref.column

/-- Whatever the predicate, what a filter becomes on a column is about that column. -/
theorem Filter.columns_of_formOn {d : Dialect} {bulk : Bool} {f : Filter} {ref : ColumnRef}
    {type : PropertyType} {form : FilterForm} (h : f.formOn d bulk ref type = .ok form) :
    (∀ c ∈ form.condition?, c.columns = [ref]) ∧
      ∀ column type' without, form = .member column type' without → column = ref := by
  rw [Filter.formOn] at h
  split at h
  case h_1 => split at h <;> obtain rfl := Except.ok.inj h <;>
    simp [FilterForm.condition?, Condition.columns]
  case h_2 =>
    split at h
    · obtain rfl := Except.ok.inj h
      simp [FilterForm.condition?]
    · split at h <;> obtain rfl := Except.ok.inj h <;>
        simp [FilterForm.condition?, Condition.columns]
  case h_3 | h_4 | h_5 | h_6 =>
    obtain ⟨operand, -, heq⟩ := bind_eq_ok_iff.mp h
    obtain rfl := Except.ok.inj heq
    simp [FilterForm.condition?, Condition.columns]
  case h_7 =>
    split at h
    · obtain rfl := Except.ok.inj h
      simp [FilterForm.condition?, Condition.columns]
    · cases h

/-- The column a filter is about is the identity or resolves on the table. -/
theorem Filter.resolves_of_column {catalog : Except QueryError Topology} {table : Table}
    {f : Filter} {column : String} {type : PropertyType}
    (h : f.column catalog table = .ok (column, type)) :
    column = idColumn ∨ ∃ g, catalog = .ok g ∧ (g.resolveColumn? table column).isSome := by
  rw [Filter.column] at h
  split at h
  · exact .inl (Prod.mk.inj (Except.ok.inj h)).1.symm
  · obtain ⟨g, hg, hresolve⟩ := bind_eq_ok_iff.mp h
    split at hresolve
    · next hsome =>
      rw [← (Prod.mk.inj (Except.ok.inj hresolve)).1]
      exact .inr ⟨g, hg, by rw [hsome]; rfl⟩
    · cases hresolve

theorem Filter.plain_of_form {t : Tree} {g : Topology} (h : t.PlainOver g) {d : Dialect}
    {bulk : Bool} {table : Table} {source : Source} {f : Filter} {form : FilterForm}
    (hform : f.form d t.topology bulk table source = .ok form) :
    ∀ c ∈ form.condition?, c.Plain := by
  rw [Filter.form] at hform
  split at hform
  · obtain rfl := Except.ok.inj hform
    split <;> simp [FilterForm.condition?, Condition.Plain, Condition.columns]
  · obtain ⟨⟨column, type⟩, hcolumn, hon⟩ := bind_eq_ok_iff.mp hform
    have hplain : PlainName column := by
      rcases Filter.resolves_of_column hcolumn with rfl | ⟨g', hg', hresolves⟩
      · exact plainName_idColumn
      · obtain rfl := Except.ok.inj (hg'.symm.trans h.topology_eq)
        exact h.of_resolveColumn? hresolves
    intro c hc ref href
    rw [(Filter.columns_of_formOn hon).1 c hc, List.mem_singleton] at href
    rwa [href]

/-- The conditions of filters have plain columns. -/
theorem FilterSite.plain_of_formed {t : Tree} {g : Topology} (h : t.PlainOver g) {d : Dialect}
    {bulk : Bool} {xs : List FilterSite} (hformed : ∀ x ∈ xs, ∃ form, x.form t d bulk = .ok form) :
    ∀ c ∈ xs.filterMap (FilterSite.condition? t d bulk), c.Plain := by
  intro c hc
  obtain ⟨x, hx, hcx⟩ := List.mem_filterMap.mp hc
  obtain ⟨form, hform⟩ := hformed x hx
  rw [FilterSite.condition?_of_form hform] at hcx
  exact Filter.plain_of_form h hform c hcx

namespace Spelling.KeepsPlain

variable {sp : Spelling} {t : Tree} {g : Topology}

theorem condition (h : sp.KeepsPlain) {c : Condition} (hc : c.Plain) : c.respell sp = c := by
  have hcolumn : ∀ ref ∈ c.columns, ref.respell sp = ref := by
    intro ref href
    rw [ColumnRef.respell, (h _ (hc ref href)).2]
  cases c <;> simp_all [Condition.respell, Condition.columns]

theorem conditions (h : sp.KeepsPlain) {cs : List Condition} (hcs : ∀ c ∈ cs, c.Plain) :
    cs.map (Condition.respell sp) = cs := by
  rw [List.map_congr_left fun c hc ↦ h.condition (hcs c hc), List.map_id']

theorem table (h : sp.KeepsPlain) (ht : t.PlainOver g) {table : Table}
    (hdeclared : ∃ info, g.info? table = some info) : table.respell sp = table := by
  obtain ⟨info, hinfo⟩ := hdeclared
  obtain ⟨hschema, hname, -⟩ := ht.plain table info hinfo
  rw [Table.respell, (h _ hschema).1, (h _ hname).1]

/-- A join of a declared table on plain columns is spelled as it is. -/
theorem join (h : sp.KeepsPlain) (ht : t.PlainOver g) {j : Join} {table : Table}
    (hrelation : j.relation = .table table) (hdeclared : ∃ info, g.info? table = some info)
    (hconditions : ∀ c ∈ j.conditions, c.Plain) : j.respell sp = j := by
  rw [Join.respell, hrelation, Relation.respell, h.table ht hdeclared, h.conditions hconditions,
    ← hrelation]

theorem stepJoins (h : sp.KeepsPlain) (ht : t.PlainOver g) {p : Path} {ids : List NodeId}
    {js : List Join} (hjs : t.stepJoins p ids = .ok js)
    (hdeclared : ∀ id ∈ ids, ∃ info, g.info? (t.nodeAt id).table = some info) :
    js.map (Join.respell sp) = js := by
  rw [List.map_congr_left fun j hj ↦ ?_, List.map_id']
  obtain ⟨id, hid, h₁⟩ := exists_of_mem_right_of_mapM_eq_ok hjs j hj
  obtain ⟨n, hn, h₂⟩ := bind_eq_ok_iff.mp h₁
  obtain ⟨m, -, h₃⟩ := bind_eq_ok_iff.mp h₂
  obtain ⟨c, hc, h₄⟩ := bind_eq_ok_iff.mp h₃
  obtain rfl := Except.ok.inj h₄
  obtain ⟨habove, hbelow⟩ := ht.of_correlation hc
  have hdeclared := hdeclared id hid
  rw [Tree.nodeAt_of_some (Tree.liveNode_eq_ok_iff.mp hn)] at hdeclared
  exact h.join ht rfl hdeclared (by simp [Condition.Plain, Condition.columns, habove, hbelow])

theorem branchJoins (h : sp.KeepsPlain) (ht : t.PlainOver g) {d : Dialect} {p : Path}
    {branches : List NodeId} {js : List Join} (hjs : t.branchJoins d p branches = .ok js)
    (hdeclared : ∀ b ∈ branches, ∃ info, g.info? (t.nodeAt b).table = some info) :
    js.map (Join.respell sp) = js := by
  obtain ⟨above, habove, h₁⟩ := bind_eq_ok_iff.mp hjs
  rw [List.map_congr_left fun j hj ↦ ?_, List.map_id']
  obtain ⟨x, hx, h₂⟩ := exists_of_mem_right_of_mapM_eq_ok h₁ j hj
  obtain ⟨c, hc, hformed, rfl⟩ := Tree.branchJoin_eq_ok habove h₂
  obtain ⟨habove, hbelow⟩ := ht.of_parentCorrelation hc
  refine h.join ht rfl (hdeclared x.1 (List.fst_mem_of_mem_zipIdx hx)) ?_
  exact List.forall_mem_cons.mpr ⟨by simp [Condition.Plain, Condition.columns, habove, hbelow],
    FilterSite.plain_of_formed ht hformed⟩

/-- A select over declared tables and plain columns is spelled as it is. -/
theorem select (h : sp.KeepsPlain) (ht : t.PlainOver g) {parts : SelectParts} {c : Compiler}
    {p : Path} {branches : List NodeId} {tables : List MembershipTable} {r : Run}
    (fit : parts.Fit c t p branches tables r) (hinline : parts.clauses.tables = tables)
    (hids : r.ids ≠ []) (hdeclared : ∀ id ∈ r.ids, ∃ info, g.info? (t.nodeAt id).table = some info)
    (hbranches : ∀ b ∈ branches, ∃ info, g.info? (t.nodeAt b).table = some info)
    {projected : List Projected}
    (hprojected : ∀ q ∈ projected, sp.other q.column = q.column ∧ sp.other q.name = q.name)
    {order : List SortColumn} (horder : order.map (SortColumn.respell sp) = order) :
    (parts.select t p projected r order).respell sp = parts.select t p projected r order := by
  have hfirst : r.ids.headD rootId ∈ r.ids := by
    obtain ⟨id, rest, heq⟩ := List.exists_cons_of_ne_nil hids
    simp [heq]
  have htable : (t.tableOf (r.ids.headD rootId)).respell sp = t.tableOf (r.ids.headD rootId) := by
    obtain ⟨n, hn⟩ := fit.live _ hfirst
    have hinfo := hdeclared _ hfirst
    rw [Tree.nodeAt_of_some hn] at hinfo
    rw [Tree.tableOf_of_some hn]
    exact h.table ht hinfo
  have hprojections : (projected.map (Projected.projection p)).map (Projection.respell sp) =
      projected.map (Projected.projection p) := by
    rw [List.map_map]
    refine List.map_congr_left fun q hq ↦ ?_
    obtain ⟨hcolumn, hname⟩ := hprojected q hq
    simp [Projected.projection, Projection.respell, ColumnRef.respell, hcolumn, hname]
  have hoptional : parts.optional.map (Join.respell sp) = parts.optional := by
    have hok := fit.optional
    split at hok
    · exact h.branchJoins ht hok hbranches
    · rw [← Except.ok.inj hok, List.map_nil]
  obtain ⟨hjoins, hconditions, -⟩ := fit.clauses.inline hinline
  have hplain : ∀ c ∈ (if r.starts then t.startConditions p else []) ++ parts.clauses.conditions ++
      Join.absences parts.optional, c.Plain := by
    rw [hconditions, List.nil_append]
    intro c hc
    rcases List.mem_append.mp hc with hc | hc
    · rcases List.mem_append.mp hc with hc | hc
      · split at hc
        · rw [Tree.startConditions] at hc
          split at hc
          · cases hc
          · rw [List.mem_singleton.mp hc]
            simp [Condition.Plain, Condition.columns, plainName_idColumn]
        · cases hc
      · exact FilterSite.plain_of_formed ht fit.clauses.formed c hc
    · obtain ⟨j, -, rfl⟩ := List.mem_map.mp hc
      simp [Condition.Plain, Condition.columns, plainName_idColumn]
  rw [Select.respell, SelectParts.select]
  simp only [hprojections, htable, h.conditions hplain, horder, hjoins, List.append_nil,
    List.map_append, hoptional,
    h.stepJoins ht fit.chain fun id hid ↦ hdeclared id (List.mem_of_mem_drop hid)]

end Spelling.KeepsPlain

/-- Every column that a derived table projects has a plain name. -/
theorem Run.plain_of_mem_slots {t : Tree} {g : Topology} (ht : t.PlainOver g) {p : Path}
    {needed : List (NodeId × String)} (hneeded : ∀ x ∈ needed, PlainName x.2) {r : Run} {x : Slot}
    (hx : x ∈ r.slots t p needed) : PlainName x.column := by
  rcases Run.mem_columnsAt_or_needed hx with hcolumn | hmem
  · rw [Tree.columnsAt] at hcolumn
    split at hcolumn
    · next hok => exact ht.of_columnsOf hok _ hcolumn
    · cases hcolumn
  · exact hneeded _ hmem

theorem Slot.plain_of_mem_nameAll {k : ℕ} {slots : List Slot} {q : Projected}
    (hq : q ∈ Slot.nameAll k slots) : PlainName q.name := by
  have hname : q.name ∈ (Slot.nameAll k slots).map (·.name) := List.mem_map_of_mem hq
  rw [Slot.map_name_nameAll] at hname
  obtain ⟨i, -, heq⟩ := List.mem_map.mp hname
  rw [← heq]
  exact plainName_aliasName i

/-- **A text stands for the query it was written from**, if all tables are declared and no
membership table is loaded. -/
theorem Compiles.written_eq {c : Compiler} {t : Tree} {p : Path} {branches : List NodeId} {k : ℕ}
    {q : Query} {slots : List Slot} (h : Compiles c t p branches k q [] slots) {g : Topology}
    (ht : t.PlainOver g)
    (hdeclared : ∀ id ∈ p.all, ∃ info, g.info? (t.nodeAt id).table = some info)
    (hbranches : ∀ b ∈ branches, ∃ info, g.info? (t.nodeAt b).table = some info) (d : Dialect) :
    q.written d = q := by
  generalize htables : ([] : List MembershipTable) = tables at h
  cases h with
  | @single keys parts nodes sorted uncut shown fit =>
    have hsp : (d.spelling id).KeepsPlain := d.keepsPlain_spelling fun _ _ ↦ rfl
    have horder : ∀ order : List SortColumn,
        order.map (SortColumn.respell (d.spelling id)) = order := List.map_id
    rw [Query.written, hsp.select ht fit htables.symm (by simp [Run.whole, Path.all]) hdeclared
      hbranches (fun _ _ ↦ ⟨rfl, rfl⟩) (horder _)]
  | @split keys js segments tables sorted cut joints derived =>
    subst htables
    have hsp : (d.spelling indentBreaks).KeepsPlain :=
      d.keepsPlain_spelling fun _ ↦ indentBreaks_of_plain
    have hneeded : ∀ x ∈ CompileM.neededColumns js keys, PlainName x.2 := by
      intro x hx
      rcases List.mem_append.mp hx with hx | hx
      · obtain ⟨j, hj, hx⟩ := List.mem_flatMap.mp hx
        obtain ⟨above, below, -, -, hcorrelation⟩ := joint_of_mem joints hj
        obtain ⟨habove, hbelow⟩ := ht.of_correlation hcorrelation
        rcases List.mem_pair.mp hx with rfl | rfl
        · exact habove
        · exact hbelow
      · obtain ⟨key, hkey, rfl⟩ := List.mem_map.mp hx
        exact ht.of_sortKeys sorted key hkey
    have hselect : ∀ s ∈ segments, s.select.respell (d.spelling indentBreaks) = s.select := by
      intro s hs
      obtain ⟨r, hr, k, parts, tables, rfl, fit, -, hinline⟩ :=
        exists_of_mem_forall₂ derived.exists_fit.flip hs
      refine hsp.select ht fit (hinline rfl) ?_ (fun id hid ↦ hdeclared id ?_) hbranches
        (fun q hq ↦ ?_) rfl
      · exact Run.ids_ne_nil_of_mem_ofSegments (Tree.ne_nil_of_mem_segments cut) r hr
      · rw [← Run.flatMap_ids_ofSegments t p]
        exact List.mem_flatMap.mpr ⟨r, hr, hid⟩
      · rw [← Slot.nameAll_append] at hq
        exact ⟨(hsp _ (Run.plain_of_mem_slots ht hneeded (Slot.mem_of_mem_nameAll hq))).2,
          (hsp _ (Slot.plain_of_mem_nameAll hq)).2⟩
    have hlinks : ∀ l ∈ (SplitSelect.ofSegments p.leaf segments js keys).links,
        l.select.respell (d.spelling indentBreaks) = l.select := by
      intro l hl
      obtain ⟨⟨s, j⟩, hsj, rfl⟩ := List.mem_map.mp hl
      exact hselect s (List.mem_of_mem_drop (List.of_mem_zip hsj).1)
    have hfirst : (SplitSelect.ofSegments p.leaf segments js keys).first.respell
        (d.spelling indentBreaks) = (SplitSelect.ofSegments p.leaf segments js keys).first := by
      obtain ⟨seg, segs, hsegs⟩ := List.exists_cons_of_ne_nil (t.segments_ne_nil p)
      rw [hsegs, Run.ofSegments] at derived
      cases derived
      exact hselect _ List.mem_cons_self
    rw [Query.written, hfirst, List.map_congr_left fun l hl ↦ by rw [hlinks l hl], List.map_id']

end PathQuery
