import PathQuery.Element.Basic
import PathQuery.Proofs.Compile.Slots
import PathQuery.Proofs.Graph.Columns
import PathQuery.Proofs.Text.Cut

/-!
# The groups of a row

A row is a series of *occurrences*: all columns of one table, projected for one step under one set
of labels. The reader is not told where an occurrence ends. It counts how often it has met each
column, and as columns with different identities have different keys, that count is the number of
occurrences of the same kind before; so all columns of an occurrence go under one key. Whether two
occurrences share a group is then a question about these keys alone: they join the labels, the
table and the count by NULs, so that occurrences of different kinds are told apart exactly when
their labels and tables do not run into each other.
-/

namespace PathQuery

/-- All columns of a table, projected for one step. -/
structure Occurrence where
  /-- The labels of the step. -/
  labels : String
  /-- The table. -/
  table : Table
  /-- The columns, in order. -/
  columns : List String

namespace Occurrence

/-- The logical columns of an occurrence. -/
def logical (o : Occurrence) : List Column := o.columns.map (Column.mk o.labels o.table)

/-- What occurrences have in common whose columns have the same identities. -/
def kind (o : Occurrence) : String × Table := (o.labels, o.table)

/-- How many of the occurrences before are of the same kind. -/
def rank (done : List Occurrence) (o : Occurrence) : ℕ := (done.map kind).count o.kind

/-- The key under which the `n`-th occurrence of a kind is collected. -/
def groupKey (o : Occurrence) (n : ℕ) : String := RowReader.groupKey ⟨o.labels, o.table, ""⟩ n

/-- The labels and the table of an occurrence, as its key joins them. -/
def stem (o : Occurrence) : String := o.labels ++ "\x00" ++ o.table.render

end Occurrence

/-! ## Keys -/

/-- A key tells the count, and the stem. -/
theorem Occurrence.groupKey_inj {o o' : Occurrence} {n n' : ℕ}
    (h : o.groupKey n = o'.groupKey n') : o.stem = o'.stem ∧ n = n' := by
  have hdigits : ∀ m : ℕ, Char.ofNat 0 ∉ (Nat.repr m).toList := notMem_repr (by decide)
  have hchars : o.stem.toList ++ Char.ofNat 0 :: (Nat.repr n).toList =
      o'.stem.toList ++ Char.ofNat 0 :: (Nat.repr n').toList := by
    have hlist := congrArg String.toList h
    simpa [groupKey, RowReader.groupKey, stem, String.toList_append] using hlist
  obtain ⟨hstem, hcount⟩ := append_cons_inj_of_notMem_right (hdigits n) (hdigits n') hchars
  exact ⟨String.toList_inj.mp hstem, repr_injective (String.toList_inj.mp hcount)⟩

theorem Occurrence.stem_of_kind {o o' : Occurrence} (h : o.kind = o'.kind) : o.stem = o'.stem := by
  rw [stem, stem, (Prod.mk.inj h).1, (Prod.mk.inj h).2]

theorem Occurrence.groupKey_of_stem {o o' : Occurrence} (h : o.stem = o'.stem) (n : ℕ) :
    o.groupKey n = o'.groupKey n := by
  have hkey : ∀ o : Occurrence, o.groupKey n = o.stem ++ "\x00" ++ toString n := fun _ ↦ rfl
  rw [hkey, hkey, h]

/-! ## Putting cells into groups -/

/-- A group without its cells. -/
def RowGroup.header (g : RowGroup) : String × String × Table := (g.key, g.labels, g.table)

/-- A group without its key. -/
def RowGroup.content (g : RowGroup) : String × Table × List (String × Value) :=
  (g.labels, g.table, g.cells)

namespace RowReader

variable {key : String} {c : Column} {v : Value} {groups : List RowGroup}

/-- A cell opens a group or goes into the one that is there. -/
theorem map_header_putCell (key : String) (c : Column) (v : Value) (groups : List RowGroup) :
    (putCell key c v groups).map RowGroup.header =
      if key ∈ groups.map (·.key) then groups.map RowGroup.header
      else groups.map RowGroup.header ++ [(key, c.labels, c.table)] := by
  induction groups with
  | nil => rfl
  | cons g rest ih =>
    rw [putCell]
    by_cases hkey : g.key = key
    · simp [hkey, RowGroup.header]
    · rw [if_neg (by simpa using hkey), List.map_cons, ih]
      simp only [List.map_cons, List.mem_cons, Ne.symm hkey, false_or]
      split <;> simp

theorem mem_keys_iff : key ∈ groups.map (·.key) ↔ key ∈ (groups.map RowGroup.header).map (·.1) := by
  rw [List.map_map]
  rfl

/-- The group of a cell is there once the cell has been put in. -/
theorem key_mem_putCell (key : String) (c : Column) (v : Value) (groups : List RowGroup) :
    key ∈ (putCell key c v groups).map (·.key) := by
  rw [mem_keys_iff, map_header_putCell]
  split
  · next hkey => exact mem_keys_iff.mp hkey
  · simp

/-- Cells of a group that is there open no other. -/
theorem map_header_foldl_putCell (labels : String) (table : Table) (cells : List (String × Value))
    (hkey : key ∈ groups.map (·.key)) :
    (cells.foldl (fun gs x ↦ putCell key ⟨labels, table, x.1⟩ x.2 gs) groups).map
      RowGroup.header = groups.map RowGroup.header := by
  induction cells generalizing groups with
  | nil => rfl
  | cons x cells ih =>
    rw [List.foldl_cons, ih (key_mem_putCell ..), map_header_putCell, if_pos hkey]

theorem putCell_append_of_fresh {opened : List RowGroup} (h : key ∉ opened.map (·.key))
    (groups : List RowGroup) :
    putCell key c v (opened ++ groups) = opened ++ putCell key c v groups := by
  induction opened with
  | nil => rfl
  | cons g rest ih =>
    rw [List.map_cons, List.mem_cons, not_or] at h
    rw [List.cons_append, putCell, if_neg (by simpa using Ne.symm h.1), ih h.2, List.cons_append]

/-- What holds of a cell put into a group holds of all cells afterwards. -/
theorem forall_cells_putCell {P : String → Value → Prop} (hc : P c.name v)
    (h : ∀ g ∈ groups, ∀ column w, lookupKey column g.cells = some w → P column w) :
    ∀ g ∈ putCell key c v groups, ∀ column w, lookupKey column g.cells = some w → P column w := by
  have hput : ∀ {cells : List (String × Value)},
      (∀ column w, lookupKey column cells = some w → P column w) →
      ∀ column w, lookupKey column (putKey c.name v cells) = some w → P column w := by
    intro cells hcells column w hw
    rw [lookupKey_putKey] at hw
    split at hw
    · next heq =>
      obtain rfl := beq_iff_eq.mp heq
      rwa [← Option.some.inj hw]
    · exact hcells column w hw
  induction groups with
  | nil =>
    intro g hg
    rw [putCell, List.mem_singleton] at hg
    subst hg
    have hnone : ∀ column w, lookupKey column ([] : List (String × Value)) = some w → P column w :=
      fun _ _ hw ↦ nomatch hw
    exact hput hnone
  | cons g₀ rest ih =>
    obtain ⟨hg₀, hrest⟩ := List.forall_mem_cons.mp h
    rw [putCell]
    split
    · exact List.forall_mem_cons.mpr ⟨hput hg₀, hrest⟩
    · exact List.forall_mem_cons.mpr ⟨hg₀, ih hrest⟩

/-- Puts the cells of an occurrence into the group of a key. -/
def putOccurrence (key : String) (o : Occurrence) (vs : List Value) (groups : List RowGroup) :
    List RowGroup :=
  (o.columns.zip vs).foldl (fun gs x ↦ putCell key ⟨o.labels, o.table, x.1⟩ x.2 gs) groups

/-- Further cells of an occurrence go into the group that has just been opened. -/
theorem foldl_putCell_last {o : Occurrence} {opened : List RowGroup}
    (h : key ∉ opened.map (·.key)) {cells rest : List (String × Value)}
    (hnodup : ((cells ++ rest).map (·.1)).Nodup) :
    rest.foldl (fun gs x ↦ putCell key ⟨o.labels, o.table, x.1⟩ x.2 gs)
        (opened ++ [⟨key, o.labels, o.table, cells⟩]) =
      opened ++ [⟨key, o.labels, o.table, cells ++ rest⟩] := by
  induction rest generalizing cells with
  | nil => simp
  | cons x rest ih =>
    have hfresh : x.1 ∉ cells.map (·.1) := by
      intro hmem
      rw [List.map_append, List.map_cons] at hnodup
      exact List.disjoint_of_nodup_append hnodup hmem List.mem_cons_self
    rw [List.foldl_cons, putCell_append_of_fresh h, putCell, if_pos (beq_self_eq_true key),
      putKey_of_notMem hfresh, ih (by simpa using hnodup), List.append_assoc]
    rfl

theorem exists_zip_eq_cons {columns : List String} {vs : List Value} (hne : columns ≠ [])
    (hvs : vs.length = columns.length) : ∃ x rest, columns.zip vs = x :: rest := by
  refine List.exists_cons_of_ne_nil fun hnil ↦ hne ?_
  have hlength := congrArg List.length hnil
  rwa [List.length_zip, hvs, Nat.min_self, List.length_nil, List.length_eq_zero_iff] at hlength

/-- An occurrence under a new key has a group of its own. -/
theorem putOccurrence_of_fresh {o : Occurrence} {vs : List Value} (h : key ∉ groups.map (·.key))
    (hnodup : o.columns.Nodup) (hne : o.columns ≠ []) (hvs : vs.length = o.columns.length) :
    putOccurrence key o vs groups =
      groups ++ [⟨key, o.labels, o.table, o.columns.zip vs⟩] := by
  rw [putOccurrence]
  have hnames : ((o.columns.zip vs).map (·.1)).Nodup := by
    rwa [List.map_fst_zip (Nat.le_of_eq hvs.symm)]
  obtain ⟨x, rest, hcells⟩ := exists_zip_eq_cons hne hvs
  rw [hcells] at hnames ⊢
  have hopen : putCell key ⟨o.labels, o.table, x.1⟩ x.2 groups =
      groups ++ [⟨key, o.labels, o.table, [x]⟩] := by
    have happend := putCell_append_of_fresh (c := ⟨o.labels, o.table, x.1⟩) (v := x.2) h []
    rwa [List.append_nil] at happend
  rw [List.foldl_cons, hopen, foldl_putCell_last h hnames]
  rfl

/-- An occurrence opens at most one group. -/
theorem map_header_putOccurrence {o : Occurrence} {vs : List Value} (hne : o.columns ≠ [])
    (hvs : vs.length = o.columns.length) (key : String) (groups : List RowGroup) :
    (putOccurrence key o vs groups).map RowGroup.header =
      if key ∈ groups.map (·.key) then groups.map RowGroup.header
      else groups.map RowGroup.header ++ [(key, o.labels, o.table)] := by
  split
  · next hkey => exact map_header_foldl_putCell _ _ _ hkey
  · next hkey =>
    obtain ⟨x, rest, hcells⟩ := exists_zip_eq_cons hne hvs
    rw [putOccurrence, hcells, List.foldl_cons, map_header_foldl_putCell _ _ _ (key_mem_putCell ..),
      map_header_putCell, if_neg hkey]

/-! ## Collecting a row -/

/-- The occurrences of a row can be told apart by the keys of their columns. -/
structure Separable (os : List Occurrence) : Prop where
  /-- None of them is for the statement's own use. -/
  visible : ∀ o ∈ os, o.labels ≠ hiddenLabels
  /-- No column comes twice in an occurrence. -/
  nodup : ∀ o ∈ os, o.columns.Nodup
  /-- Each begins with its identity. -/
  identified : ∀ o ∈ os, o.columns.head? = some idColumn
  /-- Occurrences of one kind have the same columns. -/
  alike : ∀ o ∈ os, ∀ o' ∈ os, o.kind = o'.kind → o.columns = o'.columns
  /-- Columns with the same key have the same identity. -/
  keyed : ∀ o ∈ os, ∀ o' ∈ os, ∀ c ∈ o.logical, ∀ c' ∈ o'.logical, c.key = c'.key → c = c'

/-- The groups of a row, occurrence by occurrence. -/
def groupAll : List Occurrence → List RowGroup → List (Occurrence × List Value) → List RowGroup
  | _, groups, [] => groups
  | done, groups, (o, vs) :: rest =>
    groupAll (done ++ [o]) (putOccurrence (o.groupKey (o.rank done)) o vs groups) rest

/-- An occurrence is collected under one key. -/
theorem collect_columns {labels : String} {table : Table} (hlabels : labels ≠ hiddenLabels)
    {columns : List String} {vs : List Value} (hvs : vs.length = columns.length) {n : ℕ}
    {seen : List String} (hseen : ∀ c ∈ columns, seen.count (Column.mk labels table c).key = n)
    (hkeys : (columns.map fun c ↦ (Column.mk labels table c).key).Nodup) (groups : List RowGroup)
    (rest : List Column) (vs' : List Value) :
    collect seen groups (columns.map (Column.mk labels table) ++ rest) (vs ++ vs') =
      collect ((columns.map fun c ↦ (Column.mk labels table c).key).reverse ++ seen)
        ((columns.zip (vs.map Value.asCell)).foldl (fun gs x ↦
          putCell (groupKey ⟨labels, table, ""⟩ n) ⟨labels, table, x.1⟩ x.2 gs) groups) rest vs' := by
  induction columns generalizing vs seen groups with
  | nil =>
    obtain rfl := List.length_eq_zero_iff.mp hvs
    rfl
  | cons c columns ih =>
    obtain ⟨v, vs, rfl⟩ := List.exists_cons_of_length_eq_add_one hvs
    obtain ⟨hc, hseen⟩ := List.forall_mem_cons.mp hseen
    rw [List.map_cons, List.nodup_cons] at hkeys
    have hhidden : (Column.mk labels table c).isHidden = false := by
      simpa [Column.isHidden] using hlabels
    -- the key of this column is not the key of a later one, so their counts stay
    have hseen' : ∀ c' ∈ columns, ((Column.mk labels table c).key :: seen).count
        (Column.mk labels table c').key = n := by
      intro c' hc'
      rw [List.count_cons_of_ne, hseen c' hc']
      exact fun heq ↦ hkeys.1 (heq ▸ List.mem_map_of_mem hc')
    have hcons : (c :: columns).map (Column.mk labels table) ++ rest =
        ⟨labels, table, c⟩ :: (columns.map (Column.mk labels table) ++ rest) := rfl
    rw [hcons, List.cons_append, collect, if_neg (by simp [hhidden]),
      ih (by simpa using hvs) hseen' hkeys.2, hc]
    simp [groupKey]

theorem Separable.columns_ne_nil {os : List Occurrence} (h : Separable os) {o : Occurrence}
    (ho : o ∈ os) : o.columns ≠ [] := by
  intro hnil
  have hhead := h.identified o ho
  rw [hnil] at hhead
  cases hhead

theorem Separable.nodup_keys {os : List Occurrence} (h : Separable os) {o : Occurrence}
    (ho : o ∈ os) : (o.columns.map fun c ↦ (Column.mk o.labels o.table c).key).Nodup := by
  refine List.Nodup.map_on (fun c hc c' hc' heq ↦ ?_) (h.nodup o ho)
  exact (Column.mk.inj (h.keyed o ho o ho _ (List.mem_map_of_mem hc) _ (List.mem_map_of_mem hc')
    heq)).2.2

/-- The keys of an occurrence count the occurrences of its kind. -/
theorem Separable.count_keys {os : List Occurrence} (h : Separable os) {o o' : Occurrence}
    (ho : o ∈ os) (ho' : o' ∈ os) {c : String} (hc : c ∈ o'.columns) :
    (o.columns.map fun c ↦ (Column.mk o.labels o.table c).key).count
      (Column.mk o'.labels o'.table c).key = if o.kind = o'.kind then 1 else 0 := by
  split
  · next hkind =>
    obtain ⟨hlabels, htable⟩ := Prod.mk.inj hkind
    rw [← hlabels, ← htable]
    refine List.count_eq_one_of_mem (h.nodup_keys ho) (List.mem_map.mpr ⟨c, ?_, rfl⟩)
    rwa [h.alike o ho o' ho' hkind]
  · next hkind =>
    rw [List.count_eq_zero]
    intro hmem
    obtain ⟨c', hc', heq⟩ := List.mem_map.mp hmem
    obtain ⟨hlabels, htable, -⟩ := Column.mk.inj (h.keyed o ho o' ho' _ (List.mem_map_of_mem hc') _
      (List.mem_map_of_mem hc) heq)
    exact hkind (Prod.ext hlabels htable)

/-- A row is collected occurrence by occurrence; the keys met so far count those of each kind. -/
theorem Separable.collect_from {os : List Occurrence} (h : Separable os) {done todo : List Occurrence}
    (hos : os = done ++ todo) {vss : List (List Value)}
    (hvss : List.Forall₂ (fun o vs ↦ vs.length = o.columns.length) todo vss) {seen : List String}
    (hseen : ∀ o ∈ os, ∀ c ∈ o.columns,
      seen.count (Column.mk o.labels o.table c).key = o.rank done) (groups : List RowGroup) :
    collect seen groups (todo.flatMap Occurrence.logical) vss.flatten =
      .ok (groupAll done groups (todo.zip (vss.map (List.map Value.asCell)))) := by
  induction hvss generalizing done seen groups with
  | nil => rfl
  | @cons o vs todo vss hvs _ ih =>
    have ho : o ∈ os := by simp [hos]
    have hos' : os = (done ++ [o]) ++ todo := by rw [hos, List.append_assoc]; rfl
    rw [List.flatMap_cons, List.flatten_cons, Occurrence.logical,
      collect_columns (h.visible o ho) hvs (hseen o ho) (h.nodup_keys ho), ih hos']
    · rfl
    · intro o' ho' c hc
      rw [List.count_append, List.count_reverse, h.count_keys ho ho' hc, hseen o' ho' c hc,
        Occurrence.rank, Occurrence.rank, List.map_append, List.count_append, List.map_singleton,
        List.count_singleton, Nat.add_comm]
      simp

theorem Separable.collect_eq {os : List Occurrence} (h : Separable os) {vss : List (List Value)}
    (hvss : List.Forall₂ (fun o vs ↦ vs.length = o.columns.length) os vss) :
    collect [] [] (os.flatMap Occurrence.logical) vss.flatten =
      .ok (groupAll [] [] (os.zip (vss.map (List.map Value.asCell)))) :=
  h.collect_from rfl hvss (by simp [Occurrence.rank]) []

/-! ## One group for each occurrence -/

/-- Occurrences of different kinds have different stems. -/
def Apart (os : List Occurrence) : Prop :=
  ∀ o ∈ os, ∀ o' ∈ os, o.stem = o'.stem → o.kind = o'.kind

theorem Separable.groupAll_from {os : List Occurrence} (h : Separable os) (hapart : Apart os)
    {done todo : List Occurrence} (hos : os = done ++ todo) {vss : List (List Value)}
    (hvss : List.Forall₂ (fun o vs ↦ vs.length = o.columns.length) todo vss)
    {groups : List RowGroup}
    (hkeys : ∀ key ∈ groups.map (·.key), ∃ o ∈ os, ∃ n < o.rank done, key = o.groupKey n) :
    (groupAll done groups (todo.zip vss)).map RowGroup.content =
      groups.map RowGroup.content ++
        (todo.zip vss).map fun x ↦ (x.1.labels, x.1.table, x.1.columns.zip x.2) := by
  induction hvss generalizing done groups with
  | nil => simp [groupAll]
  | @cons o vs todo vss hvs _ ih =>
    have ho : o ∈ os := by simp [hos]
    have hos' : os = (done ++ [o]) ++ todo := by rw [hos, List.append_assoc]; rfl
    have hrank : ∀ o' : Occurrence, o'.rank (done ++ [o]) =
        o'.rank done + if o.kind = o'.kind then 1 else 0 := by
      intro o'
      rw [Occurrence.rank, Occurrence.rank, List.map_append, List.count_append, List.map_singleton,
        List.count_singleton]
      simp
    -- a group under the same key would be of an earlier occurrence of this kind, which counts less
    have hfresh : o.groupKey (o.rank done) ∉ groups.map (·.key) := by
      intro hmem
      obtain ⟨o', ho', n, hn, heq⟩ := hkeys _ hmem
      obtain ⟨hstem, rfl⟩ := Occurrence.groupKey_inj heq
      have hkind := hapart o ho o' ho' hstem
      rw [Occurrence.rank, Occurrence.rank, hkind] at hn
      exact absurd hn (Nat.lt_irrefl _)
    rw [List.zip_cons_cons, groupAll,
      putOccurrence_of_fresh hfresh (h.nodup o ho) (h.columns_ne_nil ho) hvs,
      ih hos', List.map_append, List.append_assoc]
    · rfl
    · intro key hkey
      rw [List.map_append, List.mem_append] at hkey
      rcases hkey with hkey | hkey
      · obtain ⟨o', ho', n, hn, heq⟩ := hkeys key hkey
        exact ⟨o', ho', n, by rw [hrank]; omega, heq⟩
      · refine ⟨o, ho, o.rank done, by rw [hrank]; simp, ?_⟩
        simpa using hkey

/-- **Occurrences that are apart have a group each.** -/
theorem Separable.groupAll_eq {os : List Occurrence} (h : Separable os) (hapart : Apart os)
    {vss : List (List Value)}
    (hvss : List.Forall₂ (fun o vs ↦ vs.length = o.columns.length) os vss) :
    (groupAll [] [] (os.zip vss)).map RowGroup.content =
      (os.zip vss).map fun x ↦ (x.1.labels, x.1.table, x.1.columns.zip x.2) := by
  have hall := @Separable.groupAll_from os h hapart [] os rfl vss hvss [] (by simp)
  simpa using hall

/-! ## Occurrences that share a group -/

theorem groupAll_append (done : List Occurrence) (groups : List RowGroup)
    (xs ys : List (Occurrence × List Value)) :
    groupAll done groups (xs ++ ys) =
      groupAll (done ++ xs.map (·.1)) (groupAll done groups xs) ys := by
  induction xs generalizing done groups with
  | nil => simp [groupAll]
  | cons x xs ih =>
    rw [List.cons_append, groupAll, ih, groupAll, List.append_assoc]
    rfl

section Shared

variable {xs : List (Occurrence × List Value)}

/-- Every occurrence has columns and a cell for each. -/
def Filled (xs : List (Occurrence × List Value)) : Prop :=
  ∀ x ∈ xs, x.1.columns ≠ [] ∧ x.2.length = x.1.columns.length

theorem prefix_header_groupAll (hxs : Filled xs) (done : List Occurrence)
    (groups : List RowGroup) :
    groups.map RowGroup.header <+: (groupAll done groups xs).map RowGroup.header := by
  induction xs generalizing done groups with
  | nil => exact List.prefix_rfl
  | cons x xs ih =>
    obtain ⟨⟨hne, hvs⟩, hrest⟩ := List.forall_mem_cons.mp hxs
    refine List.IsPrefix.trans ?_ (ih hrest _ _)
    rw [map_header_putOccurrence hne hvs]
    split
    · exact List.prefix_rfl
    · exact List.prefix_append _ _

/-- The key of an occurrence stays once it has been met. -/
theorem key_mem_groupAll (hxs : Filled xs) {done : List Occurrence} {groups : List RowGroup}
    {o : Occurrence} {vs : List Value} {before after : List (Occurrence × List Value)}
    (hsplit : xs = before ++ (o, vs) :: after) :
    o.groupKey (o.rank (done ++ before.map (·.1))) ∈ (groupAll done groups xs).map (·.key) := by
  subst hsplit
  obtain ⟨hne, hvs⟩ := hxs (o, vs) (by simp)
  have hafter : Filled after := fun x hx ↦ hxs x (by simp [hx])
  rw [groupAll_append, groupAll, mem_keys_iff]
  refine List.map_subset _ (prefix_header_groupAll hafter _ _).subset ?_
  rw [map_header_putOccurrence hne hvs]
  split
  · next hmem => rwa [← mem_keys_iff]
  · simp

/-- Groups are opened by occurrences. -/
theorem countP_groupAll_le (hxs : Filled xs) (P : String → Bool) (done : List Occurrence)
    (groups : List RowGroup) :
    (groupAll done groups xs).countP (fun g ↦ P g.labels) ≤
      groups.countP (fun g ↦ P g.labels) + xs.countP fun x ↦ P x.1.labels := by
  have hheader : ∀ gs : List RowGroup, gs.countP (fun g ↦ P g.labels) =
      (gs.map RowGroup.header).countP fun h ↦ P h.2.1 := by
    intro gs
    rw [List.countP_map]
    rfl
  induction xs generalizing done groups with
  | nil => exact Nat.le_refl _
  | cons x xs ih =>
    obtain ⟨⟨hne, hvs⟩, hrest⟩ := List.forall_mem_cons.mp hxs
    have hstep : (putOccurrence (x.1.groupKey (x.1.rank done)) x.1 x.2 groups).countP
        (fun g ↦ P g.labels) ≤ groups.countP (fun g ↦ P g.labels) +
          if P x.1.labels then 1 else 0 := by
      rw [hheader, map_header_putOccurrence hne hvs]
      split
      · rw [← hheader]
        exact Nat.le_add_right _ _
      · exact Nat.le_of_eq (by rw [List.countP_append, ← hheader, List.countP_singleton])
    rw [groupAll, List.countP_cons]
    exact Nat.le_trans (ih hrest _ _) (by omega)

/-- An occurrence that finds its key taken adds no group. -/
theorem countP_groupAll_lt (hxs : Filled xs) {P : String → Bool} {o : Occurrence}
    {vs : List Value} {before after : List (Occurrence × List Value)}
    (hsplit : xs = before ++ (o, vs) :: after) (hP : P o.labels)
    (htaken : o.groupKey (o.rank (before.map (·.1))) ∈ (groupAll [] [] before).map (·.key)) :
    (groupAll [] [] xs).countP (fun g ↦ P g.labels) < xs.countP fun x ↦ P x.1.labels := by
  subst hsplit
  obtain ⟨hne, hvs⟩ := hxs (o, vs) (by simp)
  have hfilled : Filled before ∧ Filled after :=
    ⟨fun x hx ↦ hxs x (by simp [hx]), fun x hx ↦ hxs x (by simp [hx])⟩
  have hbefore := countP_groupAll_le hfilled.1 P [] []
  have hafter := countP_groupAll_le hfilled.2 P (before.map (·.1) ++ [o])
    (putOccurrence (o.groupKey (o.rank (before.map (·.1)))) o vs (groupAll [] [] before))
  have hsame : (putOccurrence (o.groupKey (o.rank (before.map (·.1)))) o vs
      (groupAll [] [] before)).countP (fun g ↦ P g.labels) =
      (groupAll [] [] before).countP fun g ↦ P g.labels := by
    have hheaders := map_header_putOccurrence hne hvs (o.groupKey (o.rank (before.map (·.1))))
      (groupAll [] [] before)
    rw [if_pos htaken] at hheaders
    have hcount := congrArg (List.countP fun h : String × String × Table ↦ P h.2.1) hheaders
    rwa [List.countP_map, List.countP_map] at hcount
  rw [groupAll_append, groupAll, List.nil_append, List.countP_append, List.countP_cons, if_pos hP]
  simp only [List.countP_nil, Nat.zero_add] at hbefore
  omega

end Shared

/-- The first occurrence of a kind has rank zero. -/
theorem exists_first_of_kind {os : List Occurrence} {o : Occurrence} (ho : o ∈ os) :
    ∃ (before : List Occurrence) (first : Occurrence) (after : List Occurrence),
      os = before ++ first :: after ∧ first.kind = o.kind ∧ first.rank before = 0 := by
  have hkind : o.kind ∈ os.map Occurrence.kind := List.mem_map_of_mem ho
  obtain ⟨ks, ks', hmap, hfresh⟩ := List.eq_append_cons_of_mem hkind
  obtain ⟨before, rest, rfl, rfl, hrest⟩ := List.map_eq_append_iff.mp hmap
  obtain ⟨first, after, rfl, hfirst, -⟩ := List.map_eq_cons_iff.mp hrest
  refine ⟨before, first, after, rfl, hfirst, ?_⟩
  rw [Occurrence.rank, hfirst, List.count_eq_zero]
  exact hfresh

/-- The first occurrence of a kind finds its key taken by an earlier one of the same stem. -/
theorem countP_groupAll_lt_of_stem {xs : List (Occurrence × List Value)} (hxs : Filled xs)
    {before between after : List Occurrence} {o o' : Occurrence}
    (hos : xs.map (·.1) = before ++ o :: between ++ o' :: after) (hrank : o.rank before = 0)
    (hrank' : o'.rank (before ++ o :: between) = 0) (hstem : o.stem = o'.stem)
    {P : String → Bool} (hP : P o'.labels) :
    (groupAll [] [] xs).countP (fun g ↦ P g.labels) <
      (xs.map (·.1)).countP fun o ↦ P o.labels := by
  obtain ⟨ys, zs, rfl, hys, hzs⟩ := List.map_eq_append_iff.mp hos
  obtain ⟨⟨a', vs'⟩, post, rfl, ha', -⟩ := List.map_eq_cons_iff.mp hzs
  obtain ⟨pre, rest, rfl, hpre, hrest⟩ := List.map_eq_append_iff.mp hys
  obtain ⟨⟨a, vs⟩, mid, rfl, ha, -⟩ := List.map_eq_cons_iff.mp hrest
  obtain rfl : a = o := ha
  obtain rfl : a' = o' := ha'
  have hfilled : Filled (pre ++ (a, vs) :: mid) := fun x hx ↦ hxs x (List.mem_append_left _ hx)
  have hmet := @key_mem_groupAll _ hfilled [] [] _ _ _ _ rfl
  rw [List.nil_append, hpre, hrank, Occurrence.groupKey_of_stem hstem] at hmet
  have hlt := countP_groupAll_lt hxs rfl hP (by rwa [hys, hrank'])
  rwa [List.countP_map]

/-- **Occurrences of different kinds with one stem share a group**: one of them has no group of
its own. -/
theorem exists_countP_groupAll_lt {xs : List (Occurrence × List Value)} (hxs : Filled xs)
    (hapart : ¬Apart (xs.map (·.1))) :
    ∃ o ∈ xs.map (·.1), ∀ P : String → Bool, P o.labels →
      (groupAll [] [] xs).countP (fun g ↦ P g.labels) <
        (xs.map (·.1)).countP fun o ↦ P o.labels := by
  simp only [Apart, not_forall] at hapart
  obtain ⟨o, ho, o', ho', hstem, hkind⟩ := hapart
  obtain ⟨pre, a, post, hos, ha, hrank⟩ := exists_first_of_kind ho
  obtain ⟨pre', a', post', hos', ha', hrank'⟩ := exists_first_of_kind ho'
  have hstems : a.stem = a'.stem := by
    rw [Occurrence.stem_of_kind ha, Occurrence.stem_of_kind ha', hstem]
  -- whichever of the two kinds comes first takes the key of the other
  rcases List.append_eq_append_iff.mp (hos.symm.trans hos') with
    ⟨zs, rfl, hpost⟩ | ⟨zs, rfl, hpost⟩
  · rcases List.cons_eq_append_iff.mp hpost with ⟨rfl, hcons⟩ | ⟨zs, rfl, rfl⟩
    · exact absurd (by rw [← ha, ← ha', (List.cons.inj hcons).1]) hkind
    · exact ⟨a', by simp [hos'], fun P ↦ countP_groupAll_lt_of_stem hxs hos' hrank hrank' hstems⟩
  · rcases List.cons_eq_append_iff.mp hpost with ⟨rfl, hcons⟩ | ⟨zs, rfl, rfl⟩
    · exact absurd (by rw [← ha, ← ha', (List.cons.inj hcons).1]) hkind
    · exact ⟨a, by simp [hos],
        fun P ↦ countP_groupAll_lt_of_stem hxs hos hrank' hrank hstems.symm⟩

/-! ## Cells that depend on the column only -/

/-- What holds of every cell of a row holds of every cell of its groups. -/
theorem forall_cells_groupAll (P : String → Value → Prop) {xs : List (Occurrence × List Value)}
    (hxs : ∀ x ∈ xs, ∀ y ∈ x.1.columns.zip x.2, P y.1 y.2) (done : List Occurrence)
    {groups : List RowGroup}
    (hgroups : ∀ g ∈ groups, ∀ column w, lookupKey column g.cells = some w → P column w) :
    ∀ g ∈ groupAll done groups xs, ∀ column w, lookupKey column g.cells = some w → P column w := by
  have hput : ∀ (key labels : String) (table : Table) (cells : List (String × Value))
      (gs : List RowGroup), (∀ y ∈ cells, P y.1 y.2) →
      (∀ g ∈ gs, ∀ column w, lookupKey column g.cells = some w → P column w) →
      ∀ g ∈ cells.foldl (fun gs x ↦ putCell key ⟨labels, table, x.1⟩ x.2 gs) gs,
        ∀ column w, lookupKey column g.cells = some w → P column w := by
    intro key labels table cells
    induction cells with
    | nil => exact fun _ _ hgs ↦ hgs
    | cons y cells ih =>
      intro gs hcells hgs
      obtain ⟨hy, hcells⟩ := List.forall_mem_cons.mp hcells
      exact ih _ hcells (forall_cells_putCell hy hgs)
  induction xs generalizing done groups with
  | nil => exact hgroups
  | cons x xs ih =>
    obtain ⟨hx, hxs⟩ := List.forall_mem_cons.mp hxs
    exact ih hxs _ (hput _ _ _ _ _ hx hgroups)

/-- An identity leaves no group without one, and so does a cell of a group that is there. -/
theorem identity_putCell {key : String} {c : Column} (v : Value) {groups : List RowGroup}
    (hopen : c.name = idColumn ∨ key ∈ groups.map (·.key))
    (hgroups : ∀ g ∈ groups, (lookupKey idColumn g.cells).isSome) :
    ∀ g ∈ putCell key c v groups, (lookupKey idColumn g.cells).isSome := by
  induction groups with
  | nil =>
    have hname : c.name = idColumn := hopen.resolve_right (by simp)
    simp [putCell, lookupKey_cons, hname]
  | cons g groups ih =>
    obtain ⟨hg, hgroups⟩ := List.forall_mem_cons.mp hgroups
    rw [putCell]
    split
    · refine List.forall_mem_cons.mpr ⟨?_, hgroups⟩
      rw [lookupKey_putKey]
      split
      · rfl
      · exact hg
    · next hkey =>
      refine List.forall_mem_cons.mpr ⟨hg, ih (hopen.imp_right fun hmem ↦ ?_) hgroups⟩
      rcases List.mem_cons.mp hmem with rfl | hmem
      · exact absurd (beq_self_eq_true _) hkey
      · exact hmem

/-- Cells of a group that is there leave no group without an identity. -/
theorem identity_foldl_putCell {key labels : String} {table : Table}
    (cells : List (String × Value)) {groups : List RowGroup} (hkey : key ∈ groups.map (·.key))
    (hgroups : ∀ g ∈ groups, (lookupKey idColumn g.cells).isSome) :
    ∀ g ∈ cells.foldl (fun gs x ↦ putCell key ⟨labels, table, x.1⟩ x.2 gs) groups,
      (lookupKey idColumn g.cells).isSome := by
  induction cells generalizing groups with
  | nil => exact hgroups
  | cons y cells ih =>
    exact ih (key_mem_putCell ..) (identity_putCell y.2 (.inr hkey) hgroups)

/-- Every group has an identity once its occurrence has been put in. -/
theorem identity_groupAll {xs : List (Occurrence × List Value)} (hxs : Filled xs)
    (hhead : ∀ x ∈ xs, x.1.columns.head? = some idColumn) (done : List Occurrence)
    {groups : List RowGroup} (hgroups : ∀ g ∈ groups, (lookupKey idColumn g.cells).isSome) :
    ∀ g ∈ groupAll done groups xs, (lookupKey idColumn g.cells).isSome := by
  induction xs generalizing done groups with
  | nil => exact hgroups
  | cons x xs ih =>
    obtain ⟨⟨hne, hvs⟩, hrest⟩ := List.forall_mem_cons.mp hxs
    obtain ⟨hx, hhead⟩ := List.forall_mem_cons.mp hhead
    refine ih hrest hhead _ ?_
    obtain ⟨y, cells, hcells⟩ := exists_zip_eq_cons hne hvs
    have hy : y.1 = idColumn := by
      have hnames := congrArg (fun zs ↦ (zs.map Prod.fst).head?) hcells
      rw [List.map_fst_zip (Nat.le_of_eq hvs.symm), hx] at hnames
      exact (Option.some.inj hnames).symm
    -- the identity comes first, so that the group is there when the other cells come
    rw [putOccurrence, hcells, List.foldl_cons]
    exact identity_foldl_putCell cells (key_mem_putCell ..) (identity_putCell y.2 (.inl hy) hgroups)

end RowReader

end PathQuery
