import Mathlib.Data.List.Induction
import Mathlib.Data.List.Pairwise
import PathQuery.Graph.TopologyFile
import PathQuery.Proofs.Graph.Creation

/-!
# What columns resolve to

A column of a table is declared by a property, as its base column or as a further one, by a foreign
key, or by no one but the table itself. A declaration is refused if a base column or a foreign key
has the name of a column declared before it, but nothing is asked about a further column, which
takes over a name that is there. So the names of properties may run into the further columns of
other properties, in one order of declaration and not in the other. That is the only way for two
columns of a table to have one name, since the postfix can be read off the name of a further column;
and a column of such a name resolves to the later declaration.
-/

namespace PathQuery

/-! ## Declared columns -/

namespace Property

/-- Whether a name is that of a further column of a property. -/
def Occupies (p : Property) (name : String) : Prop :=
  ∃ pf ∈ p.type.postfixes, name = p.name ++ pf

/-- The columns of a property with what they stand for. -/
def meanings (p : Property) : List (String × ColumnMeaning) :=
  (p.name, ⟨some p, ""⟩) :: p.type.postfixes.map fun pf ↦ (p.name ++ pf, ⟨some p, pf⟩)

theorem map_fst_meanings (p : Property) : p.meanings.map Prod.fst = p.columns := by
  rw [meanings, List.map_cons, List.map_map, columns]
  rfl

theorem mem_columns_iff {p : Property} {c : String} :
    c ∈ p.columns ↔ c = p.name ∨ p.Occupies c := by
  simp [columns, Occupies, eq_comm]

end Property

namespace PropertyType

/-- The postfixes of all types. -/
def allPostfixes : List String := [zonePostfix, nanosPostfix, monthsPostfix, daysPostfix]

theorem mem_allPostfixes {type : PropertyType} {pf : String} (h : pf ∈ type.postfixes) :
    pf ∈ allPostfixes := by
  cases type <;> simp_all [postfixes, allPostfixes]

theorem nodup_postfixes (type : PropertyType) : type.postfixes.Nodup := by
  cases type <;> simp only [postfixes] <;> decide

/-- A postfix does not end in another one. -/
theorem eq_of_suffix : ∀ pf ∈ allPostfixes, ∀ pf' ∈ allPostfixes,
    pf.toList <:+ pf'.toList → pf = pf' := by
  decide

/-- A name and a postfix can be read off a column. -/
theorem append_inj {type type' : PropertyType} {pf pf' name name' : String}
    (h : pf ∈ type.postfixes) (h' : pf' ∈ type'.postfixes) (heq : name ++ pf = name' ++ pf') :
    name = name' ∧ pf = pf' := by
  have hchars : name.toList ++ pf.toList = name'.toList ++ pf'.toList := by
    rw [← String.toList_append, ← String.toList_append, heq]
  have hpostfix : pf = pf' := by
    rcases List.suffix_or_suffix_of_suffix (List.suffix_append name.toList pf.toList)
      (hchars ▸ List.suffix_append name'.toList pf'.toList) with hsuffix | hsuffix
    · exact eq_of_suffix _ (mem_allPostfixes h) _ (mem_allPostfixes h') hsuffix
    · exact (eq_of_suffix _ (mem_allPostfixes h') _ (mem_allPostfixes h) hsuffix).symm
  subst hpostfix
  exact ⟨String.toList_inj.mp (List.append_cancel_right hchars), rfl⟩

/-- A postfix is longer than the name of the identity. -/
theorem two_lt_length {type : PropertyType} {pf : String} (h : pf ∈ type.postfixes) :
    2 < pf.toList.length := by
  have hall : ∀ pf ∈ allPostfixes, 2 < pf.toList.length := by decide
  exact hall pf (mem_allPostfixes h)

theorem ne_empty {type : PropertyType} {pf : String} (h : pf ∈ type.postfixes) : pf ≠ "" := by
  rintro rfl
  exact absurd (two_lt_length h) (by decide)

end PropertyType

namespace Property

variable {p q : Property} {name : String}

/-- A further column has the name of its own property only. -/
theorem Occupies.eq_of_append {pf : String} (hpf : pf ∈ p.type.postfixes)
    (h : q.Occupies (p.name ++ pf)) : q.name = p.name ∧ pf ∈ q.type.postfixes := by
  obtain ⟨pf', hpf', heq⟩ := h
  obtain ⟨hname, rfl⟩ := PropertyType.append_inj hpf hpf' heq
  exact ⟨hname.symm, hpf'⟩

theorem Occupies.ne_name (h : p.Occupies name) : name ≠ p.name := by
  obtain ⟨pf, hpf, rfl⟩ := h
  intro heq
  have hlength := congrArg (fun s ↦ s.toList.length) heq
  have hlong := PropertyType.two_lt_length hpf
  simp only [String.toList_append, List.length_append] at hlength
  omega

theorem not_occupies_idColumn (p : Property) : ¬p.Occupies idColumn := by
  rintro ⟨pf, hpf, heq⟩
  have hlength := congrArg (fun s ↦ s.toList.length) heq
  have hlong := PropertyType.two_lt_length hpf
  have hid : idColumn.toList.length = 2 := by decide
  simp only [String.toList_append, List.length_append] at hlength
  omega

theorem nodup_columns (p : Property) : p.columns.Nodup := by
  refine List.nodup_cons.mpr ⟨fun hmem ↦ ?_, ?_⟩
  · obtain ⟨pf, hpf, heq⟩ := List.mem_map.mp hmem
    exact Occupies.ne_name ⟨pf, hpf, heq.symm⟩ rfl
  · exact (PropertyType.nodup_postfixes p.type).map_on fun pf hpf pf' hpf' heq ↦
      (PropertyType.append_inj hpf hpf' heq).2

end Property

/-! ## Indexed columns -/

section Keys

variable {α β γ : Type} [BEq α] [LawfulBEq α] {key : γ → α} {value : γ → β} {xs : List γ}
  {entries : List (α × β)}

theorem lookupKey_foldl_putKey_of_ne {k : α} (h : ∀ x ∈ xs, key x ≠ k) :
    lookupKey k (xs.foldl (fun es x ↦ putKey (key x) (value x) es) entries) =
      lookupKey k entries := by
  induction xs generalizing entries with
  | nil => rfl
  | cons x xs ih =>
    obtain ⟨hx, hxs⟩ := List.forall_mem_cons.mp h
    rw [List.foldl_cons, ih hxs, lookupKey_putKey, if_neg (by simpa using hx)]

variable (key value) in
theorem lookupKey_foldl_putKey_of_mem (hkey : ∀ x ∈ xs, ∀ y ∈ xs, key x = key y → x = y) {x : γ}
    (hx : x ∈ xs) :
    lookupKey (key x) (xs.foldl (fun es x ↦ putKey (key x) (value x) es) entries) =
      some (value x) := by
  -- the last entry decides
  induction xs using List.reverseRecOn with
  | nil => cases hx
  | append_singleton xs y ih =>
    rw [List.foldl_append, List.foldl_cons, List.foldl_nil, lookupKey_putKey]
    split
    · next heq => rw [hkey y (by simp) x hx (beq_iff_eq.mp heq)]
    · next hne =>
      rcases List.mem_append.mp hx with hmem | hmem
      · refine ih (fun x hx y hy ↦ ?_) hmem
        exact hkey x (List.mem_append_left _ hx) y (List.mem_append_left _ hy)
      · rw [List.mem_singleton.mp hmem] at hne
        exact absurd (beq_self_eq_true _) hne

end Keys

/-- A property that is added has a new name, and then its columns stand for it. Other columns are
left alone. -/
theorem TableInfo.addProperty_eq_ok {table : Table} {p : Property}
    {columns columns' : List (String × ColumnMeaning)}
    (h : TableInfo.addProperty table columns p = .ok columns') :
    p.name ≠ idColumn ∧ lookupKey p.name columns = none ∧
      lookupKey p.name columns' = some ⟨some p, ""⟩ ∧
      (∀ pf ∈ p.type.postfixes, lookupKey (p.name ++ pf) columns' = some ⟨some p, pf⟩) ∧
      ∀ c, c ≠ p.name → ¬p.Occupies c → lookupKey c columns' = lookupKey c columns := by
  rw [TableInfo.addProperty] at h
  split at h
  · cases h
  split at h
  · cases h
  split at h
  · cases h
  · next hname =>
    split at h
    · cases h
    · next hnew =>
      obtain rfl := Except.ok.inj h
      refine ⟨hname, by simpa using hnew, ?_, fun pf hpf ↦ ?_, fun c hc hfurther ↦ ?_⟩
      · rw [lookupKey_foldl_putKey_of_ne, lookupKey_putKey, if_pos (beq_self_eq_true _)]
        exact fun pf hpf heq ↦ Property.Occupies.ne_name ⟨pf, hpf, heq.symm⟩ rfl
      · refine lookupKey_foldl_putKey_of_mem (p.name ++ ·)
          (fun pf ↦ (⟨some p, pf⟩ : ColumnMeaning)) (fun pf hpf pf' hpf' heq ↦ ?_) hpf
        exact (PropertyType.append_inj hpf hpf' heq).2
      · rw [lookupKey_foldl_putKey_of_ne, lookupKey_putKey, if_neg (by simpa using hc.symm)]
        exact fun pf hpf heq ↦ hfurther ⟨pf, hpf, heq.symm⟩

/-- The columns of some properties have been indexed. -/
structure IndexedColumns (properties : List Property) (columns : List (String × ColumnMeaning)) :
    Prop where
  /-- The name of a column is found. -/
  found : ∀ c ∈ idColumn :: properties.flatMap Property.columns, (lookupKey c columns).isSome
  /-- The identity stands for nothing else. -/
  identity : lookupKey idColumn columns = some {}
  /-- A further column stands for its property and postfix. -/
  further : ∀ p ∈ properties, ∀ pf ∈ p.type.postfixes,
    lookupKey (p.name ++ pf) columns = some ⟨some p, pf⟩
  /-- A base column stands for its property, unless its name is that of a further one. -/
  base : ∀ p ∈ properties, (∀ q ∈ properties, ¬q.Occupies p.name) →
    lookupKey p.name columns = some ⟨some p, ""⟩
  /-- No property has the name of a column before it. -/
  fresh : properties.Pairwise fun q p ↦ p.name ∉ q.columns
  /-- No property has the name of the identity. -/
  named : ∀ p ∈ properties, p.name ≠ idColumn

namespace IndexedColumns

variable {properties : List Property} {columns columns' : List (String × ColumnMeaning)}

theorem nil : IndexedColumns [] [(idColumn, {})] where
  found := by simp [lookupKey]
  identity := rfl
  further := nofun
  base := nofun
  fresh := .nil
  named := nofun

theorem notMem_of_lookupKey (h : IndexedColumns properties columns) {c : String}
    (hc : lookupKey c columns = none) : c ∉ idColumn :: properties.flatMap Property.columns := by
  intro hmem
  have hfound := h.found c hmem
  rw [hc] at hfound
  cases hfound

theorem addProperty (h : IndexedColumns properties columns) {table : Table} {p : Property}
    (hadd : TableInfo.addProperty table columns p = .ok columns') :
    IndexedColumns (properties ++ [p]) columns' := by
  obtain ⟨hname, hnew, hbase, hfurther, hother⟩ := TableInfo.addProperty_eq_ok hadd
  have hfresh : ∀ q ∈ properties, p.name ∉ q.columns := fun q hq hmem ↦
    h.notMem_of_lookupKey hnew (List.mem_cons_of_mem _ (List.mem_flatMap.mpr ⟨q, hq, hmem⟩))
  have hdifferent : ∀ q ∈ properties, q.name ≠ p.name := fun q hq heq ↦
    hfresh q hq (Property.mem_columns_iff.mpr (.inl heq.symm))
  refine ⟨fun c hc ↦ ?_, ?_, fun q hq pf hpf ↦ ?_, fun q hq hapart ↦ ?_, ?_, fun q hq ↦ ?_⟩
  · by_cases hp : c ∈ p.columns
    · rcases Property.mem_columns_iff.mp hp with rfl | ⟨pf, hpf, rfl⟩
      · simp [hbase]
      · simp [hfurther pf hpf]
    · rw [Property.mem_columns_iff, not_or] at hp
      rw [hother c hp.1 hp.2]
      refine h.found c ?_
      rw [List.flatMap_append, List.flatMap_singleton, ← List.cons_append] at hc
      exact (List.mem_append.mp hc).resolve_right (mt Property.mem_columns_iff.mp (by simp [hp]))
  · rw [hother idColumn hname.symm p.not_occupies_idColumn, h.identity]
  · rcases List.mem_append.mp hq with hq | hq
    · rw [hother, h.further q hq pf hpf]
      · intro heq
        exact hfresh q hq (Property.mem_columns_iff.mpr (.inr ⟨pf, hpf, heq.symm⟩))
      · intro hoccupies
        exact hdifferent q hq (hoccupies.eq_of_append hpf).1.symm
    · rw [List.mem_singleton.mp hq] at hpf ⊢
      exact hfurther pf hpf
  · rcases List.mem_append.mp hq with hq | hq
    · rw [hother _ (hdifferent q hq) (hapart p (by simp))]
      exact h.base q hq fun q' hq' ↦ hapart q' (List.mem_append_left _ hq')
    · rw [List.mem_singleton.mp hq]
      exact hbase
  · refine List.pairwise_append.mpr ⟨h.fresh, List.pairwise_singleton _ _, fun q hq p' hp' ↦ ?_⟩
    rw [List.mem_singleton.mp hp']
    exact hfresh q hq
  · rcases List.mem_append.mp hq with hq | hq
    · exact h.named q hq
    · rwa [List.mem_singleton.mp hq]

theorem foldlM_addProperty {table : Table} {more : List Property}
    (hadd : more.foldlM (TableInfo.addProperty table) columns = .ok columns')
    (h : IndexedColumns properties columns) : IndexedColumns (properties ++ more) columns' := by
  induction more generalizing properties columns with
  | nil =>
    obtain rfl : columns = columns' := by simpa [pure, Except.pure] using hadd
    rwa [List.append_nil]
  | cons p more ih =>
    rw [List.foldlM_cons] at hadd
    obtain ⟨columns₁, hp, hmore⟩ := bind_eq_ok_iff.mp hadd
    simpa using ih hmore (h.addProperty hp)

/-- A new name changes nothing about the columns that are there. -/
theorem putKey (h : IndexedColumns properties columns) {c : String}
    (hc : lookupKey c columns = none) (meaning : ColumnMeaning) :
    IndexedColumns properties (putKey c meaning columns) := by
  have hother : ∀ c' ∈ idColumn :: properties.flatMap Property.columns,
      lookupKey c' (PathQuery.putKey c meaning columns) = lookupKey c' columns := by
    intro c' hc'
    rw [lookupKey_putKey, if_neg]
    intro heq
    exact h.notMem_of_lookupKey hc (by rwa [beq_iff_eq.mp heq])
  have hmem : ∀ p ∈ properties, ∀ c' ∈ p.columns,
      c' ∈ idColumn :: properties.flatMap Property.columns := fun p hp c' hc' ↦
    List.mem_cons_of_mem _ (List.mem_flatMap.mpr ⟨p, hp, hc'⟩)
  refine ⟨fun c' hc' ↦ ?_, ?_, fun p hp pf hpf ↦ ?_, fun p hp hapart ↦ ?_, h.fresh, h.named⟩
  · rw [hother c' hc']
    exact h.found c' hc'
  · rw [hother _ List.mem_cons_self, h.identity]
  · rw [hother _ (hmem p hp _ (Property.mem_columns_iff.mpr (.inr ⟨pf, hpf, rfl⟩))),
      h.further p hp pf hpf]
  · rw [hother _ (hmem p hp _ (Property.mem_columns_iff.mpr (.inl rfl))), h.base p hp hapart]

end IndexedColumns

/-! ## Indexed tables -/

namespace TableInfo

/-- The columns of a table with what they stand for. -/
def meanings (info : TableInfo) : List (String × ColumnMeaning) :=
  (idColumn, {}) :: info.properties.flatMap Property.meanings ++
    info.foreignKeys.map fun k ↦ (k.column, ⟨none, ""⟩)

theorem map_fst_meanings (info : TableInfo) : info.meanings.map Prod.fst = info.columnNames := by
  rw [meanings, columnNames, List.map_append, List.map_cons, List.map_flatMap, List.map_map,
    funext Property.map_fst_meanings]
  rfl

/-- No further column of a property has the name of a property. -/
def Unoccupied (info : TableInfo) : Prop :=
  ∀ p ∈ info.properties, ∀ q ∈ info.properties, ¬q.Occupies p.name

/-- The columns of a table have been indexed, the foreign keys last. -/
structure Charted (info : TableInfo) : Prop where
  /-- The columns of the properties have been indexed. -/
  indexed : IndexedColumns info.properties info.columns
  /-- A foreign key stands for no property. -/
  keys : ∀ k ∈ info.foreignKeys, lookupKey k.column info.columns = some {}
  /-- No foreign key has the name of another column. -/
  apart : ∀ k ∈ info.foreignKeys, k.column ∉ idColumn :: info.properties.flatMap Property.columns
  /-- No two foreign keys have one name. -/
  nodup : (info.foreignKeys.map (·.column)).Nodup

theorem charted_ofProperties {table : Table} {properties : List Property} {info : TableInfo}
    (h : ofProperties table properties = .ok info) : info.Charted := by
  obtain ⟨columns, hcolumns, heq⟩ := bind_eq_ok_iff.mp h
  obtain rfl := Except.ok.inj heq
  exact ⟨IndexedColumns.nil.foldlM_addProperty hcolumns, nofun, nofun, List.nodup_nil⟩

theorem Charted.addForeignKey {edge vertex : Table} {d : Direction} {info info' : TableInfo}
    (hinfo : info.Charted) (h : info.addForeignKey edge vertex d = .ok info') :
    info'.Charted := by
  rw [TableInfo.addForeignKey] at h
  dsimp only at h
  split at h
  · cases h
  · next hnew =>
    obtain rfl := Except.ok.inj h
    rw [Option.not_isSome_iff_eq_none] at hnew
    have hdifferent : ∀ k ∈ info.foreignKeys, k.column ≠ vertex.foreignKeyColumn d := by
      intro k hk heq
      rw [← heq, hinfo.keys k hk] at hnew
      cases hnew
    refine ⟨hinfo.indexed.putKey hnew _, fun k hk ↦ ?_, fun k hk ↦ ?_, ?_⟩
    · rw [lookupKey_putKey]
      rcases List.mem_append.mp hk with hk | hk
      · rw [if_neg (by simpa using (hdifferent k hk).symm), hinfo.keys k hk]
      · rw [List.mem_singleton.mp hk, if_pos (beq_self_eq_true _)]
    · rcases List.mem_append.mp hk with hk | hk
      · exact hinfo.apart k hk
      · rw [List.mem_singleton.mp hk]
        exact hinfo.indexed.notMem_of_lookupKey hnew
    · rw [List.map_append, List.map_singleton]
      refine List.nodup_append.mpr ⟨hinfo.nodup, List.nodup_singleton _, fun c hc c' hc' ↦ ?_⟩
      obtain ⟨k, hk, rfl⟩ := List.mem_map.mp hc
      rw [List.mem_singleton.mp hc']
      exact hdifferent k hk

namespace Charted

variable {info : TableInfo}

/-- Columns have one name only where a further column has the name of a property. -/
theorem nodup_columnNames_iff (h : info.Charted) : info.columnNames.Nodup ↔ info.Unoccupied := by
  constructor
  · intro hnodup p hp q hq hoccupies
    have hproperties := (List.nodup_cons.mp (List.nodup_append.mp hnodup).1).2
    obtain ⟨-, hdisjoint⟩ := List.nodup_flatMap.mp hproperties
    have hne : q ≠ p := by
      rintro rfl
      exact hoccupies.ne_name rfl
    have : Std.Symm (Function.onFun List.Disjoint Property.columns) :=
      ⟨fun _ _ hdisjoint _ hc hc' ↦ hdisjoint hc' hc⟩
    exact hdisjoint.forall hq hp hne (Property.mem_columns_iff.mpr (.inr hoccupies))
      (Property.mem_columns_iff.mpr (.inl rfl))
  · intro hfree
    have hproperties : (info.properties.flatMap Property.columns).Nodup := by
      refine List.nodup_flatMap.mpr ⟨fun p _ ↦ p.nodup_columns, ?_⟩
      refine h.indexed.fresh.imp_of_mem fun {q p} hq hp hfresh c hcq hcp ↦ ?_
      rcases Property.mem_columns_iff.mp hcp with rfl | ⟨pf, hpf, rfl⟩
      · exact hfresh hcq
      · rcases Property.mem_columns_iff.mp hcq with heq | hoccupies
        · exact hfree q hq p hp ⟨pf, hpf, heq.symm⟩
        · exact hfresh (Property.mem_columns_iff.mpr (.inl (hoccupies.eq_of_append hpf).1.symm))
    have hidentity : idColumn ∉ info.properties.flatMap Property.columns := by
      intro hmem
      obtain ⟨p, hp, hmem⟩ := List.mem_flatMap.mp hmem
      rcases Property.mem_columns_iff.mp hmem with heq | hoccupies
      · exact h.indexed.named p hp heq.symm
      · exact p.not_occupies_idColumn hoccupies
    refine List.nodup_append.mpr ⟨List.nodup_cons.mpr ⟨hidentity, hproperties⟩, h.nodup, ?_⟩
    rintro c hc c' hc' rfl
    obtain ⟨k, hk, rfl⟩ := List.mem_map.mp hc'
    exact h.apart k hk hc

/-- A further column of another property is what a base column of its name resolves to. -/
theorem lookupKey_of_occupies (h : info.Charted) {p q : Property} (hq : q ∈ info.properties)
    (hoccupies : q.Occupies p.name) :
    ∃ pf ≠ "", lookupKey p.name info.columns = some ⟨some q, pf⟩ := by
  obtain ⟨pf, hpf, heq⟩ := hoccupies
  exact ⟨pf, PropertyType.ne_empty hpf, by rw [heq, h.indexed.further q hq pf hpf]⟩

/-- A column resolves to what declares it unless it is a base column and a further one of its name
has taken its place. -/
theorem lookupKey_eq_iff (h : info.Charted) {x : String × ColumnMeaning} (hx : x ∈ info.meanings) :
    lookupKey x.1 info.columns = some x.2 ↔
      x.2.ending ≠ "" ∨ ∀ q ∈ info.properties, ¬q.Occupies x.1 := by
  rcases List.mem_append.mp hx with hx | hx
  · rcases List.mem_cons.mp hx with rfl | hx
    · refine iff_of_true h.indexed.identity (.inr fun q _ ↦ q.not_occupies_idColumn)
    · obtain ⟨p, hp, hx⟩ := List.mem_flatMap.mp hx
      rcases List.mem_cons.mp hx with rfl | hx
      · constructor
        · refine fun hlookup ↦ .inr fun q hq hoccupies ↦ ?_
          obtain ⟨pf, hpf, hfurther⟩ := h.lookupKey_of_occupies hq hoccupies
          rw [hfurther] at hlookup
          exact hpf (ColumnMeaning.mk.inj (Option.some.inj hlookup)).2
        · rintro (hending | hfree)
          · exact absurd rfl hending
          · exact h.indexed.base p hp hfree
      · obtain ⟨pf, hpf, rfl⟩ := List.mem_map.mp hx
        exact iff_of_true (h.indexed.further p hp pf hpf) (.inl (PropertyType.ne_empty hpf))
  · obtain ⟨k, hk, rfl⟩ := List.mem_map.mp hx
    refine iff_of_true (h.keys k hk) (.inr fun q hq hoccupies ↦ h.apart k hk ?_)
    exact List.mem_cons_of_mem _
      (List.mem_flatMap.mpr ⟨q, hq, Property.mem_columns_iff.mpr (.inr hoccupies)⟩)

end Charted

end TableInfo

namespace Topology

theorem charted_index {d : Declarations} {index : TableIndex} (h : d.index = .ok index) :
    Throughout (fun _ info ↦ info.Charted) index :=
  throughout_index TableInfo.charted_ofProperties (fun _ ↦ TableInfo.Charted.addForeignKey) h

/-! ## Accepted topologies -/

/-- The topologies that reading a document comes to, or a declaration that is not refused. -/
inductive Accepted : Topology → Prop
  | parse {text : String} {t : Topology} (h : Topology.parse text = .ok t) : Accepted t
  | addVertex {t t' : Topology} {schema label : String} {properties : List Property}
      (h : t.addVertex schema label properties = .declared t') : Accepted t'
  | addEdge {t t' : Topology} {schema label : String} {outs ins : List Table}
      {properties : List Property}
      (h : t.addEdge schema label outs ins properties = .declared t') : Accepted t'

theorem reindex_eq_declared {t t' : Topology} (h : t.reindex = .declared t') :
    t'.publicSchema = t.publicSchema ∧ t'.declarations = t.declarations ∧
      t.declarations.index = .ok t'.tables := by
  rw [reindex] at h
  split at h
  · next tables htables =>
    obtain rfl := DeclareOutcome.declared.inj h
    exact ⟨rfl, rfl, htables⟩
  · cases h

theorem indexed_of_declare {t t' : Topology} {schema : String}
    {change : SchemaLabels → SchemaLabels} (h : t.declare schema change = .declared t') :
    t'.Indexed := by
  rw [declare] at h
  split at h
  · cases h
  · exact ⟨_, (reindex_eq_declared h).2.2⟩
  · exact ⟨_, (reindex_eq_declared h).2.2⟩

theorem Accepted.indexed {t : Topology} (h : t.Accepted) : t.Indexed := by
  cases h with
  | parse h =>
    obtain ⟨c, -, h⟩ := bind_eq_ok_iff.mp h
    obtain ⟨tables, htables, heq⟩ := bind_eq_ok_iff.mp (mapError_eq_ok_iff.mp h)
    obtain rfl := Except.ok.inj heq
    exact ⟨_, htables⟩
  | addVertex h => exact indexed_of_declare h
  | addEdge h => exact indexed_of_declare h

/-- **Columns resolve to what declares them, unless a further column takes their place.** The
columns of a table of an accepted topology are pairwise distinct exactly when no further column of a
property has the name of a property. Every column resolves to exactly what declares it but for the
base columns whose names are those of further columns, and just these are not found as properties;
each of them is declared before the property that takes its place. -/
theorem nodup_physicalColumns_iff {t : Topology} (ht : t.Accepted) {table : Table}
    {info : TableInfo} (hinfo : t.info? table = some info) :
    Command.physicalColumns t table = info.meanings.map Prod.fst ∧
    ((Command.physicalColumns t table).Nodup ↔ info.Unoccupied) ∧
    (∀ x ∈ info.meanings, t.resolveColumn? table x.1 = some x.2 ↔
      x.2.ending ≠ "" ∨ ∀ q ∈ info.properties, ¬q.Occupies x.1) ∧
    (∀ p ∈ info.properties, t.hasProperty table p.name ↔
      ∀ q ∈ info.properties, ¬q.Occupies p.name) ∧
    info.properties.Pairwise fun q p ↦ ¬q.Occupies p.name := by
  obtain ⟨d, hindex⟩ := ht.indexed
  have hcharted : info.Charted := charted_index hindex table info hinfo
  have hcolumns : Command.physicalColumns t table = info.columnNames := by
    rw [Command.physicalColumns, properties?, foreignKeys, hinfo]
    rfl
  have hresolve : ∀ c, t.resolveColumn? table c = lookupKey c info.columns := by
    intro c
    rw [resolveColumn?, hinfo, Option.bind_some]
  refine ⟨by rw [hcolumns, info.map_fst_meanings], by rw [hcolumns, hcharted.nodup_columnNames_iff],
    fun x hx ↦ by rw [hresolve, hcharted.lookupKey_eq_iff hx], fun p hp ↦ ?_, ?_⟩
  · rw [hasProperty, hinfo, Option.bind_some]
    constructor
    · intro hfound q hq hoccupies
      obtain ⟨pf, hpf, hfurther⟩ := hcharted.lookupKey_of_occupies hq hoccupies
      rw [hfurther] at hfound
      exact hpf (of_decide_eq_true hfound)
    · intro hfree
      rw [hcharted.indexed.base p hp hfree]
      rfl
  · exact hcharted.indexed.fresh.imp fun hfresh hoccupies ↦
      hfresh (Property.mem_columns_iff.mpr (.inr hoccupies))

/-! ### A property in the place of a further column

A span needs a second column for its nanoseconds. A property of the name of that column is refused
after the span, and taken before it.
-/

/-- A span and a property of the name of its second column. -/
def spanProperties : List Property := [⟨"a~~~nanos", .string⟩, ⟨"a", .duration⟩]

/-- The topology of a vertex label with some properties. -/
def ofVertex (properties : List Property) : Topology :=
  match (Topology.empty "s").addVertex "s" "v" properties with
  | .declared t => t
  | _ => default

theorem accepted_ofVertex (properties : List Property) {t : Topology}
    (h : (Topology.empty "s").addVertex "s" "v" properties = .declared t) :
    (ofVertex properties).Accepted := by
  rw [ofVertex, h]
  exact .addVertex h

/-- A span alone has two columns that resolve to it; with the property before it, the property is
not found; and after it, the property is refused. -/
theorem nodup_physicalColumns_ofVertex :
    ((Command.physicalColumns (ofVertex [⟨"a", .duration⟩]) ⟨"s", "V_v"⟩).Nodup ∧
      (ofVertex [⟨"a", .duration⟩]).hasProperty ⟨"s", "V_v"⟩ "a") ∧
    (¬(Command.physicalColumns (ofVertex spanProperties) ⟨"s", "V_v"⟩).Nodup ∧
      ¬(ofVertex spanProperties).hasProperty ⟨"s", "V_v"⟩ "a~~~nanos") ∧
    ∃ t, (Topology.empty "s").addVertex "s" "v" spanProperties.reverse =
      .refused t (.duplicateProperty ⟨"s", "V_v"⟩ "a~~~nanos") := by
  refine ⟨?_, ?_, _, rfl⟩
  · obtain ⟨-, hnodup, -, hproperty, -⟩ := nodup_physicalColumns_iff
      (accepted_ofVertex [⟨"a", .duration⟩] rfl)
      (show (ofVertex [⟨"a", .duration⟩]).info? ⟨"s", "V_v"⟩ = some _ from rfl)
    have hfree : ∀ q : Property, q ∈ [(⟨"a", .duration⟩ : Property)] → ¬q.Occupies "a" := by
      rintro q hq hoccupies
      rw [List.mem_singleton.mp hq] at hoccupies
      exact hoccupies.ne_name rfl
    refine ⟨hnodup.mpr fun p hp ↦ ?_, (hproperty ⟨"a", .duration⟩ (by simp)).mpr hfree⟩
    rw [List.mem_singleton.mp hp]
    exact hfree
  · obtain ⟨-, hnodup, -, hproperty, -⟩ := nodup_physicalColumns_iff
      (accepted_ofVertex spanProperties rfl)
      (show (ofVertex spanProperties).info? ⟨"s", "V_v"⟩ = some _ from rfl)
    have htaken : (⟨"a", .duration⟩ : Property).Occupies "a~~~nanos" :=
      ⟨PropertyType.nanosPostfix, by decide, by decide⟩
    refine ⟨fun h ↦ ?_, fun h ↦ ?_⟩
    · exact hnodup.mp h ⟨"a~~~nanos", .string⟩ (by simp [spanProperties]) _
        (by simp [spanProperties]) htaken
    · exact (hproperty ⟨"a~~~nanos", .string⟩ (by simp [spanProperties])).mp h _
        (by simp [spanProperties]) htaken

end Topology

end PathQuery
