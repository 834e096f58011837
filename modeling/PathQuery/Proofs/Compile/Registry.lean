import PathQuery.Proofs.Compile.Slots
import PathQuery.Proofs.Graph.Meaning

/-!
# What a registry remembers

A registry is used through five questions: how many aliases there are, which, whose an alias is,
which aliases a column has, and which of them is the last. All of them are about the *assignments*
since the registry was last reset, that is the aliases it has handed out with the columns it has
handed them out for, in order.

The registry is defined as the list of its columns and finds every answer in that list. It can as
well keep a counter and two maps, one from keys to aliases and one from aliases to columns, and look
the answers up. `AliasMaps` is this registry, and it answers in the same way, since the three
records are three readings of the assignments (`AliasMaps.Mirrors`).
-/

namespace PathQuery

/-! ## Calls and questions -/

/-- A call that changes a registry. -/
inductive RegistryCall where
  /-- Gives a column a fresh alias. -/
  | register (c : Column)
  /-- Forgets every alias. -/
  | reset

namespace RegistryCall

variable {σ : Type} (register : σ → Column → String × σ) (empty : σ)

/-- Serves a call, with the assignments since the last reset on the side. -/
def serve : σ × List (String × Column) → RegistryCall → σ × List (String × Column)
  | (s, given), .register c => ((register s c).2, given ++ [((register s c).1, c)])
  | _, .reset => (empty, [])

/-- Serves calls from the start. -/
def serveAll (calls : List RegistryCall) : σ × List (String × Column) :=
  calls.foldl (serve register empty) (empty, [])

end RegistryCall

/-- The answers of a registry. -/
structure Lookups where
  /-- How many aliases are in use. -/
  size : ℕ
  /-- Every alias. -/
  names : List String
  /-- The column of an alias. -/
  column? : String → Option Column
  /-- The aliases of a column. -/
  aliases : Column → List String
  /-- The most recent alias of a column. -/
  last? : Column → Option String

/-- The answers are those that the assignments call for. -/
structure Lookups.Recall (q : Lookups) (given : List (String × Column)) : Prop where
  /-- The aliases are numbered from one on. -/
  numbered : given.map (·.1) = (List.range given.length).map fun i ↦ "alias" ++ toString (i + 1)
  /-- None of them is handed out twice. -/
  nodup : (given.map (·.1)).Nodup
  /-- They are counted. -/
  size : q.size = given.length
  /-- They are listed in order. -/
  names : q.names = given.map (·.1)
  /-- An alias has the column it was handed out for; any other string has none. -/
  column? : ∀ name c, q.column? name = some c ↔ (name, c) ∈ given
  /-- The aliases of a column are those of the columns with its key, in order. -/
  aliases : ∀ c, q.aliases c = (given.filter (·.2.key = c.key)).map (·.1)
  /-- The last of them is the one that was handed out last. -/
  last? : ∀ c, q.last? c = (q.aliases c).getLast?
  /-- From the columns of the aliases to the aliases of the columns and back. -/
  inverse : ∀ name c, name ∈ q.aliases c ↔ ∃ c', q.column? name = some c' ∧ c'.key = c.key
  /-- Columns with different keys, as many as there are, divide the aliases among them. -/
  partition : ∀ cs : List Column, (cs.map Column.key).Nodup →
    (∀ x ∈ given, x.2.key ∈ cs.map Column.key) → (cs.flatMap q.aliases).Perm q.names

/-! ## The list of columns -/

namespace Registry

variable {r : Registry} {c : Column}

/-- The answers that are found in the list. -/
def lookups (r : Registry) : Lookups := ⟨r.size, r.names, r.column?, r.aliases, r.last?⟩

/-- The aliases with their columns. -/
def assignments (r : Registry) : List (String × Column) :=
  r.columns.toList.zipIdx.map fun x ↦ (aliasName x.2, x.1)

theorem length_assignments (r : Registry) : r.assignments.length = r.size := by
  simp [assignments, size]

theorem names_eq (r : Registry) : r.names = r.assignments.map (·.1) := by
  have hindices : r.columns.toList.zipIdx.map (·.2) = List.range r.size := by
    simp [size, List.range_eq_range']
  rw [names, ← hindices, assignments, List.map_map, List.map_map]
  rfl

theorem nodup_names (r : Registry) : r.names.Nodup :=
  List.nodup_range.map aliasName_injective

/-- Aliases from the next one on have not been handed out. -/
theorem aliasName_notMem_names (r : Registry) (i : ℕ) : aliasName (r.size + i) ∉ r.names := by
  intro hmem
  obtain ⟨j, hj, heq⟩ := List.mem_map.mp hmem
  have hlt := List.mem_range.mp hj
  have hsame := aliasName_injective heq
  omega

theorem column?_eq (r : Registry) (name : String) :
    r.column? name = lookupKey name r.assignments := by
  rw [column?, lookupKey, assignments, List.find?_map, Option.map_map]
  rfl

theorem aliases_eq (r : Registry) (c : Column) :
    r.aliases c = (r.assignments.filter (·.2.key = c.key)).map (·.1) := by
  rw [aliases, assignments, List.filter_map, List.map_map]
  rfl

theorem assignments_register (r : Registry) (c : Column) :
    (r.register c).2.assignments = r.assignments ++ [((r.register c).1, c)] := by
  simp [register, assignments, List.zipIdx_append, size]

theorem column?_eq_some_iff {name : String} :
    r.column? name = some c ↔ (name, c) ∈ r.assignments := by
  rw [column?_eq, lookupKey_eq_some_iff]
  exact r.names_eq ▸ r.nodup_names

/-- The column of an alias is the one at its position. -/
theorem column?_aliasName {i : ℕ} (h : r.columns.toList[i]? = some c) :
    r.column? (aliasName i) = some c :=
  column?_eq_some_iff.mpr
    (List.mem_map.mpr ⟨(c, i), List.mk_mem_zipIdx_iff_getElem?.mpr h, rfl⟩)

end Registry

/-- Picking out the entries with one value after the other leaves none behind. -/
theorem perm_flatMap_filter {α β : Type} [DecidableEq β] {f : α → β} {ks : List β} {xs : List α}
    (hks : ks.Nodup) (hxs : ∀ x ∈ xs, f x ∈ ks) :
    (ks.flatMap fun k ↦ xs.filter (f · = k)).Perm xs := by
  induction ks generalizing xs with
  | nil =>
    have hnil : xs = [] := List.eq_nil_iff_forall_not_mem.mpr fun x hx ↦ List.not_mem_nil (hxs x hx)
    rw [hnil]
    exact .refl _
  | cons k ks ih =>
    obtain ⟨hk, hks⟩ := List.nodup_cons.mp hks
    have hrest : ∀ x ∈ xs.filter (¬ f · = k), f x ∈ ks := by
      intro x hx
      obtain ⟨hx, hne⟩ := List.mem_filter.mp hx
      exact (List.mem_cons.mp (hxs x hx)).resolve_left (by simpa using hne)
    -- what goes with `k` goes with no later value
    have hlater : ∀ k' ∈ ks, (xs.filter (¬ f · = k)).filter (f · = k') = xs.filter (f · = k') := by
      intro k' hk'
      rw [List.filter_filter]
      refine List.filter_congr fun x _ ↦ ?_
      have hne : k' ≠ k := ne_of_mem_of_not_mem hk' hk
      by_cases hx : f x = k' <;> simp [hx, hne]
    have hflat : (ks.flatMap fun k' ↦ xs.filter (f · = k')) =
        ks.flatMap fun k' ↦ (xs.filter (¬ f · = k)).filter (f · = k') :=
      List.flatMap_congr fun k' hk' ↦ (hlater k' hk').symm
    rw [List.flatMap_cons, hflat]
    refine ((ih hks hrest).append_left _).trans ?_
    simpa using List.filter_append_perm (fun x ↦ decide (f x = k)) xs

theorem Registry.recall_assignments (r : Registry) : r.lookups.Recall r.assignments where
  numbered := by
    rw [← r.names_eq, r.length_assignments]
    rfl
  nodup := r.names_eq ▸ r.nodup_names
  size := r.length_assignments.symm
  names := r.names_eq
  column? := fun _ _ ↦ column?_eq_some_iff
  aliases := r.aliases_eq
  last? := fun _ ↦ rfl
  inverse := by
    intro name c
    change name ∈ r.aliases c ↔ ∃ c', r.column? name = some c' ∧ c'.key = c.key
    simp [aliases_eq, column?_eq_some_iff, and_comm]
  partition := by
    intro cs hcs hcover
    have hperm := (perm_flatMap_filter (f := fun x : String × Column ↦ x.2.key) hcs hcover).map
      Prod.fst
    rw [List.flatMap_map, List.map_flatMap] at hperm
    change (cs.flatMap r.aliases).Perm r.names
    rw [r.names_eq, funext r.aliases_eq]
    exact hperm

/-! ## A counter and two maps -/

/-- A registry that keeps a counter, the aliases of each key and the column of each alias. -/
structure AliasMaps where
  /-- How many aliases have been handed out. -/
  counter : ℕ := 0
  /-- The aliases, by key. -/
  byKey : List (String × List String) := []
  /-- The columns, by alias. -/
  byAlias : List (String × Column) := []

namespace AliasMaps

/-- Counts up, and puts the alias of the new number into both maps. -/
def register (m : AliasMaps) (c : Column) : String × AliasMaps :=
  let name := "alias" ++ toString (m.counter + 1)
  (name, {
    counter := m.counter + 1
    byKey := putKey c.key ((lookupKey c.key m.byKey).getD [] ++ [name]) m.byKey
    byAlias := putKey name c m.byAlias })

/-- The answers that are looked up. -/
def lookups (m : AliasMaps) : Lookups where
  size := m.byAlias.length
  names := (List.range m.counter).map aliasName
  column? name := lookupKey name m.byAlias
  aliases c := (lookupKey c.key m.byKey).getD []
  last? c := ((lookupKey c.key m.byKey).getD []).getLast?

/-- Each record is a reading of the assignments. -/
structure Mirrors (m : AliasMaps) (r : Registry) : Prop where
  /-- The counter is their number. -/
  counter : m.counter = r.size
  /-- The columns by alias are the assignments themselves. -/
  byAlias : m.byAlias = r.assignments
  /-- The aliases by key are told apart by the keys of their columns. -/
  byKey : ∀ key, (lookupKey key m.byKey).getD [] =
    (r.assignments.filter (·.2.key = key)).map (·.1)

variable {m : AliasMaps} {r : Registry}

theorem mirrors_empty : ({} : AliasMaps).Mirrors {} := ⟨rfl, rfl, fun _ ↦ rfl⟩

theorem Mirrors.lookups_eq (h : m.Mirrors r) : m.lookups = r.lookups := by
  rw [lookups, Registry.lookups, Lookups.mk.injEq]
  have haliases : (fun c : Column ↦ (lookupKey c.key m.byKey).getD []) = r.aliases := by
    funext c
    rw [h.byKey, r.aliases_eq]
  refine ⟨?_, ?_, ?_, haliases, ?_⟩
  · rw [h.byAlias, r.length_assignments]
  · rw [h.counter, Registry.names]
  · funext name
    rw [h.byAlias, r.column?_eq]
  · funext c
    exact congrArg List.getLast? (congrFun haliases c)

theorem Mirrors.register_fst (h : m.Mirrors r) (c : Column) :
    (m.register c).1 = (r.register c).1 := by
  rw [register, h.counter]
  rfl

/-- Registering a column adds the same assignment to all three records. -/
theorem Mirrors.register (h : m.Mirrors r) (c : Column) :
    (m.register c).2.Mirrors (r.register c).2 where
  counter := by
    have hsize : (r.register c).2.size = r.size + 1 := Array.size_push c
    rw [hsize, ← h.counter]
    rfl
  byAlias := by
    -- an alias that has not been handed out is not in the map
    have hfresh : aliasName r.size ∉ r.assignments.map (·.1) := by
      rw [← r.names_eq]
      exact r.aliasName_notMem_names 0
    change putKey (m.register c).1 c m.byAlias = _
    rw [h.register_fst, h.byAlias, r.assignments_register]
    exact putKey_of_notMem hfresh
  byKey := by
    intro key
    change (lookupKey key (putKey c.key ((lookupKey c.key m.byKey).getD [] ++ [(m.register c).1])
      m.byKey)).getD [] = _
    rw [lookupKey_putKey, h.register_fst, r.assignments_register, List.filter_append,
      List.map_append, ← h.byKey key]
    by_cases hkey : c.key = key
    · simp [hkey]
    · simp [hkey]

/-- Two registries have been served the same calls, and both remember what they have handed out. -/
structure Abreast (x : AliasMaps × List (String × Column)) (y : Registry × List (String × Column)) :
    Prop where
  /-- The maps mirror the list. -/
  mirrors : x.1.Mirrors y.1
  /-- They have handed out the same. -/
  same : x.2 = y.2
  /-- What has been handed out is what the list says. -/
  given : y.2 = y.1.assignments

theorem Abreast.serve {x : AliasMaps × List (String × Column)}
    {y : Registry × List (String × Column)} (h : Abreast x y) (call : RegistryCall) :
    Abreast (RegistryCall.serve register {} x call)
      (RegistryCall.serve Registry.register {} y call) := by
  obtain ⟨m, given⟩ := x
  obtain ⟨r, given'⟩ := y
  obtain ⟨hmirrors, rfl, hgiven⟩ := h
  cases call with
  | register c =>
    refine ⟨hmirrors.register c, ?_, ?_⟩
    · exact congrArg (fun name ↦ given ++ [(name, c)]) (hmirrors.register_fst c)
    · exact (congrArg (· ++ [((r.register c).1, c)]) hgiven).trans (r.assignments_register c).symm
  | reset => exact ⟨mirrors_empty, rfl, rfl⟩

theorem abreast_serveAll (calls : List RegistryCall) :
    Abreast (RegistryCall.serveAll register {} calls)
      (RegistryCall.serveAll Registry.register {} calls) :=
  List.foldl_rel ⟨mirrors_empty, rfl, rfl⟩ fun call _ _ _ h ↦ h.serve call

end AliasMaps

/-- **A registry remembers its assignments.** After any calls, the aliases handed out since the last
reset are numbered from one on without gaps or repeats and are all that is counted and listed; an
alias has the column it was handed out for and no other string has one; the aliases of a column are
in order those of the columns with its key, and the last of them is the latest; so each alias
belongs to one key. A registry that keeps a counter and two maps hands out the same aliases and
gives the same answers. -/
theorem Registry.recall_serveAll (calls : List RegistryCall) :
    let served := RegistryCall.serveAll Registry.register {} calls
    let mapped := RegistryCall.serveAll AliasMaps.register {} calls
    served.1.lookups.Recall served.2 ∧ mapped.2 = served.2 ∧
      mapped.1.lookups = served.1.lookups := by
  intro served mapped
  obtain ⟨hmirrors, hsame, hgiven⟩ := AliasMaps.abreast_serveAll calls
  refine ⟨?_, hsame, hmirrors.lookups_eq⟩
  rw [show served.2 = served.1.assignments from hgiven]
  exact served.1.recall_assignments

end PathQuery
