import PathQuery.Proofs.Relational.Select
import PathQuery.Proofs.Value.Identity

/-!
# Long lists of operands

A list of operands is written inline or, past the length that a dialect sets, loaded into a
membership table. The two ways of writing a filter are compared on a single joined row: what the
clauses of the filter make of it is the row once, with a row of the membership table beside it, or
nothing. A long `within` list means what a short one does. A long `without` list does not, because
the join with its table only looks for an equal operand: whether a value that is not found differs
from every operand, or cannot be compared with one, makes no difference to it.
-/

namespace PathQuery

/-- The rows of a membership table, one for each value it holds. -/
def MembershipTable.rows (m : MembershipTable) : Multiset Row :=
  (m.values : Multiset Value).map (Function.update nullRow m.column)

namespace RowStore

/-- The membership tables of a statement have been loaded. -/
def Loaded (db : RowStore) (tables : List MembershipTable) : Prop :=
  ∀ m ∈ tables, db.temporaries m.name = m.rows

/-- A value and a plain operand are equal when they have the same type and value; only nulls leave
this open. -/
def EqualsByValue (db : RowStore) : Prop :=
  ∀ v w : Value, w.IsPlain → ¬v.isNull → ¬w.isNull →
    (db.compare .eq v w = .yes ↔ v = w) ∧ (db.compare .eq v w = .no ↔ v ≠ w)

variable {db : RowStore} {v w : Value}

theorem EqualsByValue.compare_eq_yes_iff (h : db.EqualsByValue) (hw : w.IsPlain) :
    db.compare .eq v w = .yes ↔ w = v ∧ v ≠ .null := by
  by_cases hv : v = .null
  · simp [hv, db.compare_null_left]
  by_cases hnull : w = .null
  · simp [hnull, db.compare_null_right, Ne.symm hv]
  · rw [(h v w hw (by rwa [Value.isNull_iff]) (by rwa [Value.isNull_iff])).1, eq_comm]
    simp [hv]

theorem EqualsByValue.isAmong_eq_yes_iff (h : db.EqualsByValue) {vs : List Value}
    (hplain : ∀ w ∈ vs, w.IsPlain) : db.isAmong v vs = .yes ↔ v ∈ vs ∧ v ≠ .null := by
  rw [RowStore.isAmong_eq_yes_iff]
  constructor
  · rintro ⟨w, hw, hequal⟩
    obtain ⟨rfl, hv⟩ := (h.compare_eq_yes_iff (hplain w hw)).mp hequal
    exact ⟨hw, hv⟩
  · rintro ⟨hmem, hv⟩
    exact ⟨v, hmem, (h.compare_eq_yes_iff (hplain v hmem)).mpr ⟨rfl, hv⟩⟩

theorem EqualsByValue.compare_eq_no_iff (h : db.EqualsByValue) (hw : w.IsPlain) :
    db.compare .eq v w = .no ↔ w ≠ v ∧ v ≠ .null ∧ w ≠ .null := by
  by_cases hv : v = .null
  · simp [hv, db.compare_null_left]
  by_cases hnull : w = .null
  · simp [hnull, db.compare_null_right]
  · rw [(h v w hw (by rwa [Value.isNull_iff]) (by rwa [Value.isNull_iff])).2, ne_comm]
    simp [hv, hnull]

theorem EqualsByValue.isAmong_eq_no_iff (h : db.EqualsByValue) {vs : List Value}
    (hplain : ∀ w ∈ vs, w.IsPlain) (hne : vs ≠ []) :
    db.isAmong v vs = .no ↔ v ∉ vs ∧ v ≠ .null ∧ .null ∉ vs := by
  rw [RowStore.isAmong_eq_no_iff]
  constructor
  · intro hno
    have hdiffers : ∀ w ∈ vs, w ≠ v ∧ v ≠ .null ∧ w ≠ .null :=
      fun w hw ↦ (h.compare_eq_no_iff (hplain w hw)).mp (hno w hw)
    obtain ⟨w, hw⟩ := List.exists_mem_of_ne_nil vs hne
    exact ⟨fun hv ↦ (hdiffers v hv).1 rfl, (hdiffers w hw).2.1, fun hn ↦ (hdiffers _ hn).2.2 rfl⟩
  · rintro ⟨hmem, hv, hnull⟩ w hw
    exact (h.compare_eq_no_iff (hplain w hw)).mpr
      ⟨ne_of_mem_of_not_mem hw hmem, hv, ne_of_mem_of_not_mem hw hnull⟩

end RowStore

/-! ## What clauses make of a row -/

namespace FilterClauses

/-- What some clauses make of a joined row. -/
def pass (db : RowStore) (fc : FilterClauses) (e : JoinedRow) : Multiset JoinedRow :=
  (Join.extendAll db fc.joins {e}).filter (Condition.allHold db fc.conditions)

variable {db : RowStore} {tables : List MembershipTable} {m : MembershipTable} {ref : ColumnRef}

theorem pass_of_joins_eq_nil {fc : FilterClauses} {condition : Condition} (hjoins : fc.joins = [])
    (hconditions : fc.conditions = [condition]) (e : JoinedRow) :
    fc.pass db e = if condition.truth db e = .yes then {e} else 0 := by
  rw [pass, hjoins, hconditions, Join.extendAll, List.foldl_nil, Multiset.filter_singleton]
  simp only [Condition.allHold_iff, List.forall_mem_singleton]
  rfl

theorem pass_addMember (e : JoinedRow) :
    (({ tables } : FilterClauses).addMember ref m).pass db e =
      ((memberJoin ref m tables.length).extend db e).filter (Condition.allHold db
        (if m.without then [.isNull ⟨.membership tables.length, m.column⟩] else [])) := by
  have hjoin : Join.extendAll db [memberJoin ref m tables.length] {e} =
      (memberJoin ref m tables.length).extend db e := by
    rw [Join.extendAll, List.foldl_cons, List.foldl_nil, Multiset.singleton_bind]
  rw [← hjoin]
  rfl

/-- The partners of a row in a membership table are the rows of the operands it is equal to. -/
theorem partners_memberJoin {k : ℕ} (hloaded : db.temporaries m.name = m.rows)
    (hsource : ref.source ≠ .membership k) (e : JoinedRow) :
    (memberJoin ref m k).partners db e = ((m.values : Multiset Value).filter fun w ↦
      db.compare .eq (ref.value e) w = .yes).map (Function.update nullRow m.column) := by
  rw [Join.partners, memberJoin, RowStore.relation, hloaded, MembershipTable.rows,
    Multiset.filter_map]
  congr 1
  refine Multiset.filter_congr fun w _ ↦ ?_
  simp [Condition.allHold_iff, Condition.truth, ColumnRef.value, Function.update_of_ne hsource]

/-- Joining a table of operands leaves the row once for each operand it is equal to. -/
theorem pass_addMember_within (hwithin : m.without = false)
    (hloaded : db.temporaries m.name = m.rows) (hsource : ref.source ≠ .membership tables.length)
    (e : JoinedRow) :
    (({ tables } : FilterClauses).addMember ref m).pass db e =
      ((m.values : Multiset Value).filter fun w ↦ db.compare .eq (ref.value e) w = .yes).map
        fun w ↦ Function.update e (.membership tables.length)
          (Function.update nullRow m.column w) := by
  have hkind : (memberJoin ref m tables.length).kind = .inner := by rw [memberJoin, hwithin]; rfl
  rw [pass_addMember, Join.extend, hkind, partners_memberJoin hloaded hsource, hwithin,
    Multiset.map_map, Multiset.filter_eq_self.mpr fun _ _ ↦ by simp [Condition.allHold_iff]]
  rfl

/-- Asking for no partner in a table of operands leaves the row once when it is equal to none of
them, and drops it otherwise. -/
theorem pass_addMember_without (hwithout : m.without = true)
    (hloaded : db.temporaries m.name = m.rows) (hsource : ref.source ≠ .membership tables.length)
    (e : JoinedRow) :
    (({ tables } : FilterClauses).addMember ref m).pass db e =
      if db.isAmong (ref.value e) m.values = .yes then 0
      else {Function.update e (.membership tables.length) nullRow} := by
  have hkind : (memberJoin ref m tables.length).kind = .left := by rw [memberJoin, hwithout]; rfl
  rw [pass_addMember, Join.extend, hkind, partners_memberJoin hloaded hsource, hwithout, if_pos rfl,
    orNull, Multiset.card_map]
  by_cases hfound : db.isAmong (ref.value e) m.values = .yes
  · -- a partner is the row of an operand that something is equal to, so not of a null
    obtain ⟨w, hw, hequal⟩ := RowStore.isAmong_eq_yes_iff.mp hfound
    have hsome : ((m.values : Multiset Value).filter fun w ↦
        db.compare .eq (ref.value e) w = .yes).card ≠ 0 := by
      rw [Ne, Multiset.card_eq_zero, Multiset.filter_eq_nil]
      exact fun hnone ↦ hnone w hw hequal
    rw [if_neg hsome, if_pos hfound, Multiset.filter_eq_nil]
    intro e' he' habsent
    obtain ⟨r, hr, rfl⟩ := Multiset.mem_map.mp he'
    obtain ⟨u, hu, rfl⟩ := Multiset.mem_map.mp hr
    have hisNull := Condition.allHold_iff.mp habsent _ (List.mem_singleton_self _)
    rw [Condition.truth, Truth.ofBool_eq_yes_iff, ColumnRef.value, memberJoin,
      Function.update_self, Function.update_self, Value.isNull_iff] at hisNull
    have hequal := (Multiset.mem_filter.mp hu).2
    rw [hisNull, db.compare_null_right] at hequal
    cases hequal
  · have hnone : ((m.values : Multiset Value).filter fun w ↦
        db.compare .eq (ref.value e) w = .yes).card = 0 := by
      rw [Multiset.card_eq_zero, Multiset.filter_eq_nil]
      exact fun w hw hequal ↦ hfound (RowStore.isAmong_eq_yes_iff.mpr ⟨w, hw, hequal⟩)
    rw [if_pos hnone, if_neg hfound, Multiset.map_singleton, Multiset.filter_singleton, if_pos]
    · rfl
    · simp [Condition.allHold_iff, Condition.truth, ColumnRef.value, memberJoin, nullRow,
        Value.isNull]

end FilterClauses

/-! ## The two ways of writing a list -/

/-- What a filter asks of a list of operands: to be none of them, or one of them. -/
def Predicate.ofList (without : Bool) : Predicate := if without then .without else .within

namespace Filter

variable {d : Dialect} {catalog : Except QueryError Topology} {bulk without : Bool} {table : Table}
  {source : Source} {f : Filter} {ref : ColumnRef} {type : PropertyType} {column : String}

theorem form_of_column (hkey : f.key ≠ labelKey)
    (hcolumn : f.column catalog table = .ok (column, type)) :
    f.form d catalog bulk table source = f.formOn d bulk ⟨source, column⟩ type := by
  rw [form, if_neg hkey, hcolumn]
  rfl

theorem formOn_ofList (hf : f.predicate = .ofList without) (hne : without → f.values ≠ []) :
    f.formOn d bulk ref type = .ok (if bulk && f.isBulk d then .member ref type without
      else .holds (.among ref without f.values)) := by
  cases without with
  | false =>
    rw [formOn, hf]
    exact (apply_ite Except.ok _ _ _).symm
  | true =>
    have hempty : f.values.isEmpty = false := List.isEmpty_eq_false_iff.mpr (hne rfl)
    rw [formOn, hf]
    simp only [Predicate.ofList, if_true, hempty, Bool.false_eq_true, if_false]
    exact (apply_ite Except.ok _ _ _).symm

/-- A filter that needs a membership table is one on a list, and about a column. -/
theorem exists_column_of_member (hf : f.predicate = .ofList without) {type : PropertyType}
    {without' : Bool}
    (h : f.form d catalog true table source = .ok (.member ref type without')) :
    f.key ≠ labelKey ∧ (without → f.values ≠ []) ∧
      ∃ column type, f.column catalog table = .ok (column, type) := by
  rw [form] at h
  split at h
  · have hform := Except.ok.inj h
    split at hform <;> cases hform
  · next hkey =>
    obtain ⟨⟨column, type'⟩, hcolumn, hform⟩ := bind_eq_ok_iff.mp h
    refine ⟨hkey, ?_, column, type', hcolumn⟩
    rintro rfl hnil
    simp [formOn, hf, Predicate.ofList, hnil] at hform

end Filter

namespace CompileM

variable {c : Compiler} {t : Tree} {table : Table} {source : Source} {f : Filter} {without : Bool}
  {tables : List MembershipTable} {s s₁ : CompileState}

/-- A filter on a list, once with a membership table and once without. -/
theorem yields_addFilter_ofList {c' : Compiler} {long short : FilterClauses} {s' s₁' : CompileState}
    (hf : f.predicate = .ofList without)
    (hlong : (addFilter c t table source { tables } f).Yields s long s₁)
    (hloads : long.tables ≠ tables)
    (hshort : (addFilter c' t table source { tables } f).Yields s' short s₁')
    (hinline : short.tables = tables) :
    (without → f.values ≠ []) ∧
      ∃ ref m, ref.source = source ∧ long = ({ tables } : FilterClauses).addMember ref m ∧
        m.values = distinctOperands f.values ∧ m.without = without ∧
        short.joins = [] ∧ short.conditions = [.among ref without f.values] := by
  -- only a filter that needs a table adds one
  obtain ⟨-, rfl⟩ | ⟨condition, -, rfl⟩ |
    ⟨ref, type, without', m, hform, hmember, hvalues, hwithout⟩ := addFilter_cases hlong
  · exact absurd rfl hloads
  · exact absurd rfl hloads
  obtain ⟨hkey, hne, column, type', hcolumn⟩ := Filter.exists_column_of_member hf hform
  have hon := hform
  rw [Filter.form_of_column hkey hcolumn, Filter.formOn_ofList hf hne] at hon
  obtain ⟨rfl, rfl⟩ : ref = ⟨source, column⟩ ∧ without' = without := by
    have hif := Except.ok.inj hon
    split at hif
    · obtain ⟨rfl, -, rfl⟩ := FilterForm.member.inj hif
      exact ⟨rfl, rfl⟩
    · cases hif
  refine ⟨hne, _, m, rfl, hmember, hvalues, hwithout, ?_⟩
  obtain ⟨hform', -⟩ | ⟨condition, hform', rfl⟩ | ⟨_, _, _, _, _, rfl, -⟩ := addFilter_cases hshort
  · rw [Filter.form_of_column hkey hcolumn, Filter.formOn_ofList hf hne] at hform'
    have hif := Except.ok.inj hform'
    split at hif <;> cases hif
  · rw [Filter.form_of_column hkey hcolumn, Filter.formOn_ofList hf hne] at hform'
    have hif := Except.ok.inj hform'
    split at hif
    · cases hif
    · obtain rfl := FilterForm.holds.inj hif
      exact ⟨rfl, rfl⟩
  · simp [FilterClauses.addMember] at hinline

end CompileM

/-! ## Lists of which one operand is to be met -/

/-- Of operands without repeats, a value is equal to at most one. -/
theorem filter_compare_of_equalsByValue {db : RowStore} (hdb : db.EqualsByValue) {ws : List Value}
    (hplain : ∀ w ∈ ws, w.IsPlain) (hnodup : ws.Nodup) (v : Value) :
    (ws : Multiset Value).filter (fun w ↦ db.compare .eq v w = .yes) =
      if db.isAmong v ws = .yes then {v} else 0 := by
  let _ : DecidableEq Value := Classical.decEq Value
  split
  · next hamong =>
    obtain ⟨w, hw, hequal⟩ := RowStore.isAmong_eq_yes_iff.mp hamong
    obtain ⟨rfl, hv⟩ := (hdb.compare_eq_yes_iff (hplain w hw)).mp hequal
    have hself : ∀ u ∈ (ws : Multiset Value), (db.compare .eq w u = .yes ↔ u = w) := by
      intro u hu
      rw [hdb.compare_eq_yes_iff (hplain u hu)]
      simp [hv]
    rw [Multiset.filter_congr hself, Multiset.filter_eq', Multiset.coe_count,
      List.count_eq_one_of_mem hnodup hw, Multiset.replicate_one]
  · next hamong =>
    rw [Multiset.filter_eq_nil]
    exact fun w hw hequal ↦ hamong (RowStore.isAmong_eq_yes_iff.mpr ⟨w, hw, hequal⟩)

/-- Dropping repeats of plain operands does not change whether a value is among them. -/
theorem isAmong_distinctOperands {db : RowStore} {vs : List Value} (hplain : ∀ w ∈ vs, w.IsPlain)
    (v : Value) : db.isAmong v (distinctOperands vs) = .yes ↔ db.isAmong v vs = .yes := by
  simp only [RowStore.isAmong_eq_yes_iff, mem_distinctOperands_iff hplain]

/-- A value that differs from all operands differs from those that are left without repeats. -/
theorem isAmong_ne_no_of_distinctOperands {db : RowStore} {vs : List Value} {v : Value}
    (h : db.isAmong v (distinctOperands vs) = .yes) : db.isAmong v vs ≠ .no := by
  obtain ⟨w, hw, hequal⟩ := RowStore.isAmong_eq_yes_iff.mp h
  intro hno
  rw [RowStore.isAmong_eq_no_iff.mp hno w (mem_of_mem_distinctOperands hw)] at hequal
  cases hequal

section Lists

variable {c c' : Compiler} {t : Tree} {table : Table} {p : Path} {id : NodeId} {f : Filter}
  {tables : List MembershipTable} {s s' s₁ s₁' : CompileState} {long short : FilterClauses}
  {db : RowStore}

/-- **A long list of operands to be met means what a short one does.** Where a database compares
operands by type and value, a row passes the join with the table of the operands exactly once if
it meets the condition with the operands written inline, and not at all otherwise. -/
theorem pass_long_within (hf : f.predicate = .within) (hplain : ∀ w ∈ f.values, w.IsPlain)
    (hlong : (CompileM.addFilter c t table (p.source id) { tables } f).Yields s long s₁)
    (hloads : long.tables ≠ tables)
    (hshort : (CompileM.addFilter c' t table (p.source id) { tables } f).Yields s' short s₁')
    (hinline : short.tables = tables) (hloaded : db.Loaded long.tables) (hdb : db.EqualsByValue)
    (e : JoinedRow) :
    ∃ ref r, ref.source = p.source id ∧ short.joins = [] ∧
      short.conditions = [.among ref false f.values] ∧
      long.pass db e = if (Condition.among ref false f.values).truth db e = .yes
        then {Function.update e (.membership tables.length) r} else 0 := by
  have hlist : f.predicate = .ofList false := hf
  obtain ⟨-, ref, m, hsource, rfl, hvalues, hwithin, hjoins, hconditions⟩ :=
    CompileM.yields_addFilter_ofList hlist hlong hloads hshort hinline
  have hstep : ref.source ≠ .membership tables.length := by simp [hsource, Path.source]
  have hrows : db.temporaries m.name = m.rows := hloaded m (by simp [FilterClauses.addMember])
  have hdistinct : ∀ w ∈ distinctOperands f.values, w.IsPlain :=
    fun w hw ↦ hplain w (mem_of_mem_distinctOperands hw)
  have htruth : (Condition.among ref false f.values).truth db e = .yes ↔
      db.isAmong (ref.value e) (distinctOperands f.values) = .yes := by
    rw [isAmong_distinctOperands hplain, ← db.isAmong_orNull]
    rfl
  refine ⟨ref, Function.update nullRow m.column (ref.value e), hsource, hjoins, hconditions, ?_⟩
  rw [FilterClauses.pass_addMember_within hwithin hrows hstep, hvalues,
    filter_compare_of_equalsByValue hdb hdistinct (nodup_distinctOperands _)]
  simp only [htruth]
  split
  · rw [Multiset.map_singleton]
  · rw [Multiset.map_zero]

/-! ### A list with repeats and a null

Vertices that may have a name. The list is too long for one compiler and short enough for another.
-/

/-- Vertices with a name. -/
def namedVertices : Declarations :=
  [("s", some { vertices := [("a", some { properties := [⟨"name", .string⟩] })] })]

/-- A traversal of the vertices with a name. -/
def namedTree : Tree :=
  Tree.ofRoot (some {
    publicSchema := "s"
    declarations := namedVertices
    tables := match namedVertices.index with
      | .ok tables => tables
      | .error _ => [] }) { table := ⟨"s", "V_a"⟩ }

/-- The compiler that writes inline at most `n` operands. -/
def thresholdCompiler (n : ℕ) : Compiler := { dialect := ⟨.sqlite, "s", n, true⟩ }

/-- Whether two values are the same string, integer or truth value. -/
def Value.sameScalar : Value → Value → Bool
  | .bool a, .bool b => a = b
  | .int a m, .int b n => a = b && m = n
  | .str a, .str b => a = b
  | .raw a, .raw b => a = b
  | _, _ => false

/-- A database without elements that has loaded some tables. -/
def loadedStore (tables : List MembershipTable) : RowStore where
  rows _ := 0
  temporaries name := ((tables.find? (·.name = name)).map (·.rows)).getD 0
  compare op v w :=
    if v.isNull || w.isNull then .unknown else .ofBool (op = .eq && v.sameScalar w)
  like _ _ := .unknown
  compare_null_left _ _ := rfl
  compare_null_right _ v := by simp [Value.isNull]
  like_null _ := rfl

theorem equalsByValue_loadedStore (tables : List MembershipTable) :
    (loadedStore tables).EqualsByValue := by
  intro v w hw hv hnull
  have hsame : v.sameScalar w ↔ v = w := by
    cases hw <;> cases v <;> simp_all [Value.sameScalar, Value.isNull]
  have hcompare : (loadedStore tables).compare .eq v w = .ofBool (v.sameScalar w) := by
    simp [loadedStore, hv, hnull]
  rw [hcompare, Ne, ← hsame]
  cases v.sameScalar w <;> simp [Truth.ofBool]

/-- A table that is the only one has been loaded. -/
theorem loaded_loadedStore {tables : List MembershipTable} (h : tables.length = 1) :
    (loadedStore tables).Loaded tables := by
  obtain ⟨m, rfl⟩ := List.length_eq_one_iff.mp h
  intro m' hm'
  obtain rfl := List.mem_singleton.mp hm'
  simp [loadedStore]

/-- The joined row that has one value everywhere. -/
def constantRow (v : Value) : JoinedRow := fun _ _ ↦ v

/-- A filter on five operands, two of which are the same and one of which is null. -/
def ofFive (without : Bool) : Filter where
  key := "name"
  predicate := .ofList without
  values := [.str "x", .null, .str "x", .int .int64 7, .bool true]

/-- The clauses of a filter on five operands, where at most `n` of them are written inline. -/
def clausesOfFive (without : Bool) (n : ℕ) : CompileM FilterClauses :=
  CompileM.addFilter (thresholdCompiler n) namedTree ⟨"s", "V_a"⟩ (Path.source ⟨[]⟩ 0) {}
    (ofFive without)

theorem exists_clausesOfFive (without : Bool) : ∃ long s₁ short s₁',
    (clausesOfFive without 4).Yields {} long s₁ ∧ long.tables.length = 1 ∧
      (clausesOfFive without 5).Yields {} short s₁' ∧ short.tables = [] := by
  obtain ⟨long, s₁, hlong, hloads⟩ := CompileM.exists_yields (s := {})
    (m := clausesOfFive without 4) (P := fun fc _ ↦ fc.tables.length = 1)
    (by cases without <;> decide +kernel)
  obtain ⟨short, s₁', hshort, hinline⟩ := CompileM.exists_yields (s := {})
    (m := clausesOfFive without 5) (P := fun fc _ ↦ fc.tables.isEmpty)
    (by cases without <;> decide +kernel)
  exact ⟨long, s₁, short, s₁', hlong, of_decide_eq_true hloads, hshort, List.isEmpty_iff.mp hinline⟩

/-- An operand that is repeated is met once. -/
theorem pass_long_within_ofFive : ∃ long short s₁ s₁',
    (clausesOfFive false 4).Yields {} long s₁ ∧ long.tables ≠ [] ∧
      (clausesOfFive false 5).Yields {} short s₁' ∧ short.tables = [] ∧
      ∃ ref r, ref.source = .step 0 ∧ short.joins = [] ∧
        short.conditions = [.among ref false (ofFive false).values] ∧
        long.pass (loadedStore long.tables) (constantRow (.str "x")) =
          {Function.update (constantRow (.str "x")) (.membership 0) r} := by
  obtain ⟨long, s₁, short, s₁', hlong, hone, hshort, hnone⟩ := exists_clausesOfFive false
  have hsome : long.tables ≠ [] := List.ne_nil_of_length_eq_add_one hone
  have hplain : ∀ w ∈ (ofFive false).values, w.IsPlain := by
    intro w hw
    simp only [ofFive, List.mem_cons, List.not_mem_nil, or_false] at hw
    rcases hw with rfl | rfl | rfl | rfl | rfl <;> constructor
  obtain ⟨ref, r, hsource, hjoins, hconditions, hpass⟩ := pass_long_within rfl hplain hlong hsome
    hshort hnone (loaded_loadedStore hone) (equalsByValue_loadedStore _) (constantRow (.str "x"))
  exact ⟨long, short, s₁, s₁', hlong, hsome, hshort, hnone, ref, r, hsource, hjoins, hconditions,
    hpass.trans (if_pos rfl)⟩

/-! ## Lists of which no operand is to be met -/

/-- **What a long list of operands to be avoided means.** A row passes once unless its value is
equal to an operand that the table holds. With the operands written inline it passes when its
value differs from every operand. So the length of the list makes no difference to a row exactly
when its value is equal to an operand of the table, or differs from all operands; for plain
operands this is when the value is not null and, unless it is one of the operands, none of them is
null. -/
theorem pass_long_without (hf : f.predicate = .without)
    (hlong : (CompileM.addFilter c t table (p.source id) { tables } f).Yields s long s₁)
    (hloads : long.tables ≠ tables)
    (hshort : (CompileM.addFilter c' t table (p.source id) { tables } f).Yields s' short s₁')
    (hinline : short.tables = tables) (hloaded : db.Loaded long.tables) (e : JoinedRow) :
    ∃ ref, ref.source = p.source id ∧ short.joins = [] ∧
      short.conditions = [.among ref true f.values] ∧
      (long.pass db e = if db.isAmong (ref.value e) (distinctOperands f.values) = .yes then 0
        else {Function.update e (.membership tables.length) nullRow}) ∧
      ((long.pass db e).card = (short.pass db e).card ↔
        db.isAmong (ref.value e) (distinctOperands f.values) = .yes ∨
          db.isAmong (ref.value e) f.values = .no) ∧
      (db.EqualsByValue → (∀ w ∈ f.values, w.IsPlain) →
        ((long.pass db e).card = (short.pass db e).card ↔
          ¬(ref.value e).isNull ∧ (ref.value e ∈ f.values ∨ .null ∉ f.values))) := by
  have hlist : f.predicate = .ofList true := hf
  obtain ⟨hne, ref, m, hsource, rfl, hvalues, hwithout, hjoins, hconditions⟩ :=
    CompileM.yields_addFilter_ofList hlist hlong hloads hshort hinline
  have hstep : ref.source ≠ .membership tables.length := by simp [hsource, Path.source]
  have hrows : db.temporaries m.name = m.rows := hloaded m (by simp [FilterClauses.addMember])
  have htruth : (Condition.among ref true f.values).truth db e = .yes ↔
      db.isAmong (ref.value e) f.values = .no := by
    rw [Condition.truth, List.isEmpty_eq_false_iff.mpr (hne rfl), ← Truth.not_eq_yes_iff]
    rfl
  have hpass : (({ tables } : FilterClauses).addMember ref m).pass db e =
      if db.isAmong (ref.value e) (distinctOperands f.values) = .yes then 0
      else {Function.update e (.membership tables.length) nullRow} := by
    rw [FilterClauses.pass_addMember_without hwithout hrows hstep, hvalues]
  have hshort : short.pass db e =
      if db.isAmong (ref.value e) f.values = .no then {e} else 0 := by
    rw [FilterClauses.pass_of_joins_eq_nil hjoins hconditions]
    simp only [htruth]
  have hcards : ((({ tables } : FilterClauses).addMember ref m).pass db e).card =
      (short.pass db e).card ↔ db.isAmong (ref.value e) (distinctOperands f.values) = .yes ∨
        db.isAmong (ref.value e) f.values = .no := by
    rw [hpass, hshort]
    split
    · next hamong =>
      rw [if_neg (isAmong_ne_no_of_distinctOperands hamong)]
      exact iff_of_true rfl (.inl hamong)
    · next hamong =>
      split
      · next hno => exact iff_of_true rfl (.inr hno)
      · next hno => exact iff_of_false (by simp) (by simpa [hno] using hamong)
  refine ⟨ref, hsource, hjoins, hconditions, hpass, hcards, fun hdb hplain ↦ ?_⟩
  rw [hcards, isAmong_distinctOperands hplain, hdb.isAmong_eq_yes_iff hplain,
    hdb.isAmong_eq_no_iff hplain (hne rfl), Value.isNull_iff]
  by_cases hmem : ref.value e ∈ f.values <;> simp [hmem]

end Lists

/-- A vertex without a name passes the long list and not the short one. -/
theorem pass_long_without_ofFive : ∃ long short s₁ s₁',
    (clausesOfFive true 4).Yields {} long s₁ ∧ long.tables ≠ [] ∧
      (clausesOfFive true 5).Yields {} short s₁' ∧ short.tables = [] ∧
      (∃ ref, ref.source = .step 0 ∧ short.joins = [] ∧
        short.conditions = [.among ref true (ofFive true).values]) ∧
      long.pass (loadedStore long.tables) (constantRow .null) =
        {Function.update (constantRow .null) (.membership 0) nullRow} ∧
      (long.pass (loadedStore long.tables) (constantRow .null)).card ≠
        (short.pass (loadedStore long.tables) (constantRow .null)).card := by
  obtain ⟨long, s₁, short, s₁', hlong, hone, hshort, hnone⟩ := exists_clausesOfFive true
  have hsome : long.tables ≠ [] := List.ne_nil_of_length_eq_add_one hone
  obtain ⟨ref, hsource, hjoins, hconditions, hpass, hcards, -⟩ := pass_long_without rfl hlong hsome
    hshort hnone (loaded_loadedStore hone) (constantRow .null)
  have hnull : ∀ vs, (loadedStore long.tables).isAmong .null vs ≠ .yes := by
    intro vs hyes
    obtain ⟨w, -, hequal⟩ := RowStore.isAmong_eq_yes_iff.mp hyes
    cases hequal
  refine ⟨long, short, s₁, s₁', hlong, hsome, hshort, hnone, ⟨ref, hsource, hjoins, hconditions⟩,
    hpass.trans (if_neg (hnull _)), fun heq ↦ ?_⟩
  rcases hcards.mp heq with hyes | hno
  · exact hnull _ hyes
  · cases hno

end PathQuery
