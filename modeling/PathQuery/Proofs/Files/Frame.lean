import Mathlib.Data.List.Basic
import PathQuery.Files.Basic

/-!
# What calls leave as it is

A call on a file system puts, changes or removes the entries of a few ways and keeps all others.
Where a name leads depends on the directories on its way only: a name of a file leads to the same
place as long as no entry but that of the file itself is touched.
-/

namespace PathQuery.FileSystem

/-! ## Entries -/

theorem entry?_nil (fs : FileSystem) : fs.entry? [] = some (.directory directoryMode) := rfl

theorem entry?_of_ne_nil (fs : FileSystem) {way : List String} (h : way ≠ []) :
    fs.entry? way = (fs.entries.find? (·.1 == way)).map (·.2) := by
  rw [FileSystem.entry?, if_neg (by simpa using h)]

theorem ne_nil_of_entry?_none {fs : FileSystem} {way : List String} (h : fs.entry? way = none) :
    way ≠ [] := by
  rintro rfl
  cases h

theorem ne_nil_of_entry?_file {fs : FileSystem} {way : List String} {content : Text} {mode : Nat}
    (h : fs.entry? way = some (.file content mode)) : way ≠ [] := by
  rintro rfl
  cases h

theorem find?_putEntry_self (way : List String) (e : Entry) (entries : List (List String × Entry)) :
    (putEntry way e entries).find? (·.1 == way) = some (way, e) := by
  induction entries with
  | nil => simp [putEntry]
  | cons entry entries ih =>
    obtain ⟨k, old⟩ := entry
    rw [putEntry]
    split_ifs with hk
    · simp
    · simp [hk, ih]

theorem find?_putEntry_of_ne {way k : List String} (h : k ≠ way) (e : Entry)
    (entries : List (List String × Entry)) :
    (putEntry way e entries).find? (·.1 == k) = entries.find? (·.1 == k) := by
  have hway : (way == k) = false := by simpa using h.symm
  induction entries with
  | nil => simp [putEntry, hway]
  | cons entry entries ih =>
    obtain ⟨k', old⟩ := entry
    rw [putEntry]
    split_ifs with hk
    · obtain rfl : k' = way := by simpa using hk
      simp [hway]
    · simp only [List.find?_cons, ih]

theorem entry?_put_self (fs : FileSystem) {way : List String} (h : way ≠ []) (e : Entry) :
    FileSystem.entry? (fs.put way e) way = some e := by
  rw [entry?_of_ne_nil _ h, put, find?_putEntry_self, Option.map_some]

theorem entry?_put_of_ne (fs : FileSystem) {way k : List String} (h : k ≠ way) (e : Entry) :
    FileSystem.entry? (fs.put way e) k = fs.entry? k := by
  by_cases hk : k = []
  · rw [hk, entry?_nil, entry?_nil]
  · rw [entry?_of_ne_nil _ hk, entry?_of_ne_nil _ hk, put, find?_putEntry_of_ne h]

theorem entry?_erase_self (fs : FileSystem) {way : List String} (h : way ≠ []) :
    FileSystem.entry? (fs.erase way) way = none := by
  rw [entry?_of_ne_nil _ h, erase, Option.map_eq_none_iff, List.find?_eq_none]
  intro entry hentry
  simpa using (List.mem_filter.mp hentry).2

theorem entry?_erase_of_ne (fs : FileSystem) {way k : List String} (h : k ≠ way) :
    FileSystem.entry? (fs.erase way) k = fs.entry? k := by
  by_cases hk : k = []
  · rw [hk, entry?_nil, entry?_nil]
  · rw [entry?_of_ne_nil _ hk, entry?_of_ne_nil _ hk, erase, List.find?_filter]
    congr 2
    funext entry
    by_cases hentry : entry.1 = k
    · simp [hentry, h]
    · simp [hentry]

@[simp]
theorem entry?_attempt (fs : FileSystem) (call : FileCall) (way : List String) :
    FileSystem.entry? (fs.attempt call).2 way = fs.entry? way := rfl

/-! ## What is kept -/

/-- Every entry that is there stays as it is, except those of the ways given. -/
def KeepsBut (touched : List (List String)) (fs fs' : FileSystem) : Prop :=
  ∀ ⦃way e⦄, way ∉ touched → fs.entry? way = some e → fs'.entry? way = some e

namespace KeepsBut

variable {touched touched' : List (List String)} {fs fs' fs'' : FileSystem} {way : List String}

theorem refl (fs : FileSystem) : KeepsBut touched fs fs := fun _ _ _ h ↦ h

theorem trans (h : KeepsBut touched fs fs') (h' : KeepsBut touched fs' fs'') :
    KeepsBut touched fs fs'' :=
  fun _ _ hway hentry ↦ h' hway (h hway hentry)

theorem mono (h : KeepsBut touched fs fs') (hsub : touched ⊆ touched') :
    KeepsBut touched' fs fs' :=
  fun _ _ hway hentry ↦ h (fun hmem ↦ hway (hsub hmem)) hentry

/-- A way at which there was nothing before counts as kept. -/
theorem of_new (h : KeepsBut (way :: touched) fs fs') (hnew : fs.entry? way = none) :
    KeepsBut touched fs fs' := by
  intro k e hk hentry
  refine h ?_ hentry
  rw [List.mem_cons, not_or]
  refine ⟨?_, hk⟩
  rintro rfl
  simp [hnew] at hentry

theorem of_same (h : ∀ way, fs'.entry? way = fs.entry? way) : KeepsBut touched fs fs' :=
  fun way _ _ hentry ↦ (h way).trans hentry

theorem put (fs : FileSystem) (way : List String) (e : Entry) : KeepsBut [way] fs (fs.put way e) :=
  fun _ _ hk hentry ↦ (entry?_put_of_ne fs (List.ne_of_not_mem_cons hk) e).trans hentry

theorem erase (fs : FileSystem) (way : List String) : KeepsBut [way] fs (fs.erase way) :=
  fun _ _ hk hentry ↦ (entry?_erase_of_ne fs (List.ne_of_not_mem_cons hk)).trans hentry

theorem append (fs : FileSystem) (way : List String) (data : Text) :
    KeepsBut [way] fs (fs.append way data) := by
  rw [FileSystem.append]
  split
  · exact put fs way _
  · exact refl fs

end KeepsBut

theorem entry?_append_self {fs : FileSystem} {way : List String} {content : Text} {mode : Nat}
    (h : fs.entry? way = some (.file content mode)) (data : Text) :
    FileSystem.entry? (fs.append way data) way = some (.file (content ++ data) mode) := by
  rw [append, h]
  exact entry?_put_self fs (ne_nil_of_entry?_file h) _

/-! ## Where names lead -/

section
variable {fs fs' : FileSystem} {place next : Place} {component path : String}
  {components : List String} {found : Bool} {way : List String}

/-- Where a component leads is no matter of the entries. It leads back to what is there, or down to
what may be there. -/
theorem enter_eq_ok (h : fs.enter place component = .ok (next, found)) :
    (found = true ∧ ∀ fs' : FileSystem, fs'.enter place component = .ok (next, true)) ∨
      ∃ way, next = .inside way ∧ found = (fs.entry? way).isSome ∧
        ∀ fs' : FileSystem, fs'.enter place component = .ok (next, (fs'.entry? way).isSome) := by
  simp only [enter] at h ⊢
  split_ifs at h ⊢ with hdot hlong hup
  · cases h
    exact .inl ⟨rfl, fun _ ↦ rfl⟩
  · cases place <;> cases h <;> exact .inl ⟨rfl, fun _ ↦ rfl⟩
  · cases place <;> cases h
    exact .inr ⟨_, rfl, rfl, fun _ ↦ rfl⟩

theorem at?_of_enter (h : fs.enter place component = .ok (next, false)) : fs.at? next = none := by
  obtain ⟨hfound, -⟩ | ⟨way, rfl, hfound, -⟩ := enter_eq_ok h
  · cases hfound
  · exact Option.isNone_iff_eq_none.mp (Option.isSome_eq_false_iff.mp hfound.symm)

/-- Going along more than one component goes along the first to a directory. -/
theorem walk_cons_cons {d : String} {r : Place × Bool} :
    fs.walk place (component :: d :: components) = .ok r ↔
      ∃ next mode, fs.enter place component = .ok (next, true) ∧
        fs.at? next = some (.directory mode) ∧ fs.walk next (d :: components) = .ok r := by
  simp only [walk]
  rcases fs.enter place component with e | ⟨next, found⟩
  · simp [bind, Except.bind]
  · rcases found with _ | _ <;> rcases hat : fs.at? next with _ | (_ | _) <;>
      simp [bind, Except.bind, hat]

theorem at?_of_walk (h : fs.walk place components = .ok (next, false)) : fs.at? next = none := by
  induction components generalizing place with
  | nil => simp [walk] at h
  | cons component components ih =>
    cases components with
    | nil => exact at?_of_enter h
    | cons d components =>
      obtain ⟨_, _, _, _, hrest⟩ := walk_cons_cons.mp h
      exact ih hrest

theorem walk_outside (h : fs.walk .outside components = .ok (next, found)) : next = .outside := by
  have henter {component next found} (h : fs.enter .outside component = .ok (next, found)) :
      next = .outside := by
    simp only [enter] at h
    split_ifs at h <;> cases h <;> rfl
  induction components with
  | nil =>
    cases h
    rfl
  | cons component components ih =>
    cases components with
    | nil => exact henter h
    | cons d components =>
      obtain ⟨next', _, hfirst, _, hrest⟩ := walk_cons_cons.mp h
      rw [henter hfirst] at hrest
      exact ih hrest

/-- A name leads to the place that its components lead to, and to what is there. Only a name of no
file may end in a slash. -/
theorem locate_eq_ok {e : Option Entry} :
    fs.locate path = .ok (place, e) ↔
      path ≠ "" ∧ path.toList.contains (Char.ofNat 0) = false ∧
        (∃ found, fs.walk (fs.start path) (PathName.components path) = .ok (place, found)) ∧
        fs.at? place = e ∧
        ((path.toList.getLast? == some '/') = true → ∀ content mode, e ≠ some (.file content mode)) := by
  by_cases hempty : path = ""
  · simp [locate, hempty, throw, throwThe, MonadExceptOf.throw, bind, Except.bind]
  by_cases hnul : path.toList.contains (Char.ofNat 0) = true
  · simp only [locate, if_neg hempty, if_pos hnul]
    simp only [hnul, throw, throwThe, MonadExceptOf.throw, bind, Except.bind]
    simp
  simp only [locate, if_neg hempty, if_neg hnul]
  rcases hwalk : fs.walk (fs.start path) (PathName.components path) with _ | ⟨next, found⟩
  · simp [bind, Except.bind]
  have hat : (if found = true then fs.at? next else none) = fs.at? next := by
    cases found with
    | true => rfl
    | false => exact (at?_of_walk hwalk).symm
  simp only [bind, Except.bind, hat]
  constructor
  · intro h
    rcases hentry : fs.at? next with _ | (⟨content, mode⟩ | mode) <;>
      rcases hslash : path.toList.getLast? == some '/' with _ | _ <;>
      simp only [hentry, hslash] at h <;> cases h <;>
      exact ⟨hempty, by simpa using hnul, ⟨_, rfl⟩, hentry, by simp⟩
  · rintro ⟨-, -, ⟨_, hplace⟩, rfl, hfile⟩
    cases hplace
    rcases hentry : fs.at? place with _ | (⟨content, mode⟩ | mode) <;>
      rcases hslash : path.toList.getLast? == some '/' with _ | _ <;> try rfl
    exact absurd hentry (hfile hslash content mode)

/-- Names of places below the working directory start at one, whatever there is. -/
theorem start_eq_start {s s' : List String} (h : fs.start path = .inside s)
    (h' : fs'.start path = .inside s') : fs'.start path = fs.start path := by
  rw [start] at h h' ⊢
  rw [start]
  split_ifs at h h' ⊢ <;> rfl

theorem exists_start_eq_of_locate {e : Option Entry} (h : fs.locate path = .ok (.inside way, e)) :
    ∃ s, fs.start path = .inside s := by
  obtain ⟨-, -, ⟨found, hwalk⟩, -⟩ := locate_eq_ok.mp h
  rcases hstart : fs.start path with s | _
  · exact ⟨s, rfl⟩
  · rw [hstart] at hwalk
    cases walk_outside hwalk

section
variable {content : Text} {mode : Nat} (hkeeps : KeepsBut [way] fs fs')
  (hfile : fs.entry? way = some (.file content mode))
include hkeeps hfile

theorem KeepsBut.directory {mode' : Nat} (h : fs.at? place = some (.directory mode')) :
    fs'.at? place = some (.directory mode') := by
  cases place with
  | outside => exact h
  | inside k =>
    refine hkeeps ?_ h
    rw [List.mem_singleton]
    rintro rfl
    cases hfile.symm.trans h

/-- A walk leads where it did as long as all entries but one of a file are kept. -/
theorem KeepsBut.walk (h : fs.walk place components = .ok (next, found)) :
    ∃ found, fs'.walk place components = .ok (next, found) := by
  induction components generalizing place with
  | nil =>
    cases h
    exact ⟨true, rfl⟩
  | cons component components ih =>
    cases components with
    | nil =>
      obtain ⟨-, hfree⟩ | ⟨_, -, -, hfree⟩ := enter_eq_ok h
      · exact ⟨true, hfree fs'⟩
      · exact ⟨_, hfree fs'⟩
    | cons d components =>
      obtain ⟨next', mode', hfirst, hdir, hrest⟩ := walk_cons_cons.mp h
      have hdir' : fs'.at? next' = some (.directory mode') := hkeeps.directory hfile hdir
      have hfirst' : fs'.enter place component = .ok (next', true) := by
        obtain ⟨-, hfree⟩ | ⟨k, rfl, -, hfree⟩ := enter_eq_ok hfirst
        · exact hfree fs'
        · rw [hfree fs', show fs'.entry? k = _ from hdir', Option.isSome_some]
      obtain ⟨found', hrest'⟩ := ih hrest
      exact ⟨found', walk_cons_cons.mpr ⟨next', mode', hfirst', hdir', hrest'⟩⟩

end

section
variable {content content' : Text} {mode mode' : Nat}

/-- A name of a file leads nowhere else in a file system that keeps all other entries. -/
theorem KeepsBut.place_eq (hkeeps : KeepsBut [way] fs fs')
    (h : fs.locate path = .ok (.inside way, some (.file content mode)))
    {way' : List String} {e : Option Entry} (h' : fs'.locate path = .ok (.inside way', e)) :
    way' = way := by
  obtain ⟨-, -, ⟨_, hwalk⟩, hfile, -⟩ := locate_eq_ok.mp h
  obtain ⟨-, -, ⟨_, hwalk'⟩, -⟩ := locate_eq_ok.mp h'
  obtain ⟨_, hstart⟩ := exists_start_eq_of_locate h
  obtain ⟨_, hstart'⟩ := exists_start_eq_of_locate h'
  obtain ⟨_, hsame⟩ := hkeeps.walk hfile hwalk
  rw [start_eq_start hstart hstart', hsame] at hwalk'
  cases hwalk'
  rfl

/-- A name of a file leads to the file that has taken its place. -/
theorem KeepsBut.locate (hkeeps : KeepsBut [way] fs fs')
    (h : fs.locate path = .ok (.inside way, some (.file content mode)))
    (hfile' : fs'.entry? way = some (.file content' mode')) :
    fs'.locate path = .ok (.inside way, some (.file content' mode')) := by
  obtain ⟨hempty, hnul, ⟨_, hwalk⟩, hfile, hslash⟩ := locate_eq_ok.mp h
  obtain ⟨found, hwalk'⟩ := hkeeps.walk hfile hwalk
  -- the root is still there: either it is kept or it is the file itself
  have hroot : (fs.entry? [rootComponent]).isSome → (fs'.entry? [rootComponent]).isSome := by
    intro hsome
    obtain ⟨e, he⟩ := Option.isSome_iff_exists.mp hsome
    by_cases hway : [rootComponent] = way
    · rw [hway, hfile', Option.isSome_some]
    · rw [hkeeps (by simpa using hway) he, Option.isSome_some]
  have hstart : fs'.start path = fs.start path := by
    obtain ⟨s, hs⟩ := exists_start_eq_of_locate h
    rw [start] at hs ⊢
    rw [start]
    split_ifs at hs ⊢
    · rfl
    · rfl
    · exact absurd (hroot ‹_›) ‹_›
  refine locate_eq_ok.mpr ⟨hempty, hnul, ⟨found, by rwa [hstart]⟩, hfile', fun h ↦ ?_⟩
  exact absurd rfl (hslash h content mode)

/-- A name of a file leads to the same file where everything is kept. -/
theorem KeepsBut.locate_self (hkeeps : KeepsBut [] fs fs')
    (h : fs.locate path = .ok (.inside way, some (.file content mode))) :
    fs'.locate path = .ok (.inside way, some (.file content mode)) :=
  (hkeeps.mono (List.nil_subset _)).locate h
    (hkeeps List.not_mem_nil (locate_eq_ok.mp h).2.2.2.1)

end

end

end PathQuery.FileSystem
