import PathQuery.Proofs.Files.PathName
import PathQuery.Proofs.Files.Replacement

/-!
# What a reader finds

What is found at a name depends on where the name leads, and that depends on the directories that
there are: as long as they stay, a name leads to the same place. So a file may come, change or go
without moving anything else, and a renaming or removing changes what is found at one name only.

A walk along a name goes down from directory to directory, so it ends where a directory stands or
at what the last component names. A file is therefore found at names of its own last component
only.
-/

namespace PathQuery

namespace FileSystem

variable {fs fs' : FileSystem} {path : String} {way : List String} {e : Entry}

/-! ## What a name leads to -/

/-- What is known to be at a name. -/
def found? (fs : FileSystem) (path : String) : Option Entry :=
  match fs.locate path with
  | .ok (.inside _, e) => e
  | _ => none

theorem found?_eq_some : fs.found? path = some e ↔
    ∃ way, fs.locate path = .ok (.inside way, some e) := by
  rw [found?]
  split
  · next way e' heq => simp [heq]
  · next hnot =>
    refine iff_of_false (by simp) ?_
    rintro ⟨way, h⟩
    exact hnot _ _ h

theorem entry?_congr (h : fs'.entries = fs.entries) (way : List String) :
    fs'.entry? way = fs.entry? way := by
  rw [FileSystem.entry?, FileSystem.entry?, h]

/-- Where a name leads is a matter of the entries alone. -/
theorem locate_congr (h : fs'.entries = fs.entries) (path : String) :
    fs'.locate path = fs.locate path := by
  have hentry : fs'.entry? = fs.entry? := funext (entry?_congr h)
  have hat (place : Place) : fs'.at? place = fs.at? place := by
    cases place <;> simp [at?, hentry]
  have hwalk (components : List String) (place : Place) :
      fs'.walk place components = fs.walk place components := by
    induction components generalizing place with
    | nil => rfl
    | cons component components ih =>
      cases components with
      | nil => simp only [walk, enter, hentry]
      | cons d components => simp only [walk, enter, hentry, hat, ih]
  simp only [locate, start, hentry, hwalk, hat]

theorem found?_congr (h : fs'.entries = fs.entries) (path : String) :
    fs'.found? path = fs.found? path := by
  rw [found?, found?, locate_congr h]

/-- Every directory is kept, and so is the root if it is known. -/
structure KeepsDirectories (fs fs' : FileSystem) : Prop where
  /-- A directory stays one. -/
  directory : ∀ way mode, fs.entry? way = some (.directory mode) →
    fs'.entry? way = some (.directory mode)
  /-- The root stays known. -/
  root : (fs.entry? [rootComponent]).isSome → (fs'.entry? [rootComponent]).isSome

namespace KeepsDirectories

variable {place next : Place} {components : List String} {found : Bool}

theorem at? (h : KeepsDirectories fs fs') {mode : ℕ} (hat : fs.at? place = some (.directory mode)) :
    fs'.at? place = some (.directory mode) := by
  cases place with
  | outside => exact hat
  | inside way => exact h.directory way mode hat

theorem walk (h : KeepsDirectories fs fs') (hwalk : fs.walk place components = .ok (next, found)) :
    ∃ found, fs'.walk place components = .ok (next, found) := by
  induction components generalizing place with
  | nil =>
    cases hwalk
    exact ⟨true, rfl⟩
  | cons component components ih =>
    cases components with
    | nil =>
      obtain ⟨-, hfree⟩ | ⟨_, -, -, hfree⟩ := enter_eq_ok hwalk
      · exact ⟨true, hfree fs'⟩
      · exact ⟨_, hfree fs'⟩
    | cons d components =>
      obtain ⟨next', mode, hfirst, hdir, hrest⟩ := walk_cons_cons.mp hwalk
      have hdir' := h.at? hdir
      have hfirst' : fs'.enter place component = .ok (next', true) := by
        obtain ⟨-, hfree⟩ | ⟨k, rfl, -, hfree⟩ := enter_eq_ok hfirst
        · exact hfree fs'
        · rw [hfree fs', show fs'.entry? k = _ from hdir', Option.isSome_some]
      obtain ⟨found', hrest'⟩ := ih hrest
      exact ⟨found', walk_cons_cons.mpr ⟨next', mode, hfirst', hdir', hrest'⟩⟩

theorem start {s : List String} (h : KeepsDirectories fs fs') (hstart : fs.start path = .inside s) :
    fs'.start path = .inside s := by
  rw [FileSystem.start] at hstart ⊢
  split_ifs at hstart ⊢
  · exact hstart
  · exact hstart
  · exact absurd (h.root ‹_›) ‹_›

/-- A name leads where it did, to what is there now. Only a name of no file may end in a slash. -/
theorem locate {e : Option Entry} (h : KeepsDirectories fs fs')
    (hloc : fs.locate path = .ok (.inside way, e))
    (hslash : (path.toList.getLast? == some '/') = true →
      ∀ content mode, fs'.entry? way ≠ some (.file content mode)) :
    fs'.locate path = .ok (.inside way, fs'.entry? way) := by
  obtain ⟨_, hstart⟩ := exists_start_eq_of_locate hloc
  obtain ⟨hempty, hnul, ⟨_, hwalk⟩, -⟩ := locate_eq_ok.mp hloc
  obtain ⟨found, hwalk'⟩ := h.walk hwalk
  rw [hstart, ← h.start hstart] at hwalk'
  exact locate_eq_ok.mpr ⟨hempty, hnul, ⟨found, hwalk'⟩, rfl, hslash⟩

/-- Where both names lead, they lead to the same place. -/
theorem place_eq {e e' : Option Entry} {way' : List String} (h : KeepsDirectories fs fs')
    (hloc : fs.locate path = .ok (.inside way, e))
    (hloc' : fs'.locate path = .ok (.inside way', e')) : way' = way := by
  obtain ⟨_, hstart⟩ := exists_start_eq_of_locate hloc
  obtain ⟨-, -, ⟨_, hwalk⟩, -⟩ := locate_eq_ok.mp hloc
  obtain ⟨-, -, ⟨_, hwalk'⟩, -⟩ := locate_eq_ok.mp hloc'
  obtain ⟨_, hsame⟩ := h.walk hwalk
  rw [h.start hstart, ← hstart, hsame] at hwalk'
  cases hwalk'
  rfl

end KeepsDirectories

/-! ## Where walks end -/

/-- A directory stands at the end of a way, or the way is that of the root. -/
def Stands (fs : FileSystem) (way : List String) : Prop :=
  (way = [rootComponent] ∧ (fs.entry? way).isSome) ∨ ∃ mode, fs.entry? way = some (.directory mode)

section
variable {place : Place} {component : String} {components : List String} {found : Bool}
  (hplace : ∀ k, place = .inside k → ∀ front, front <+: k → fs.Stands front)
include hplace

/-- A component leads to where there are directories all the way, or down from there. -/
theorem enter_inside (h : fs.enter place component = .ok (.inside way, found)) :
    (∀ front, front <+: way → fs.Stands front) ∨
      ∃ front, way = front ++ [component] ∧ ∀ k, k <+: front → fs.Stands k := by
  simp only [enter] at h
  split_ifs at h with hdot hlong hup
  · cases h
    exact .inl (hplace way rfl)
  · cases place with
    | outside => cases h
    | inside k =>
      left
      simp only [above] at h
      split_ifs at h <;> cases h
      · exact hplace _ rfl
      · exact fun front hfront ↦ hplace k rfl front (hfront.trans (List.dropLast_prefix k))
  · cases place with
    | outside => cases h
    | inside k =>
      cases h
      exact .inr ⟨k, rfl, hplace k rfl⟩

/-- A walk ends where a directory stands, or at what the last component names. -/
theorem walk_inside (h : fs.walk place components = .ok (.inside way, found)) :
    fs.Stands way ∨ ∃ front component, components.getLast? = some component ∧
      way = front ++ [component] := by
  induction components generalizing place with
  | nil =>
    cases h
    exact .inl (hplace way rfl way List.prefix_rfl)
  | cons component components ih =>
    cases components with
    | nil =>
      obtain hstands | ⟨front, hway, -⟩ := enter_inside hplace h
      · exact .inl (hstands way List.prefix_rfl)
      · exact .inr ⟨front, component, rfl, hway⟩
    | cons d components =>
      obtain ⟨next, mode, hfirst, hdir, hrest⟩ := walk_cons_cons.mp h
      refine ih (fun k hk front hfront ↦ ?_) hrest
      subst hk
      obtain hstands | ⟨k', rfl, hstands⟩ := enter_inside hplace hfirst
      · exact hstands front hfront
      · obtain rfl | hfront := List.prefix_concat_iff.mp hfront
        · exact .inr ⟨mode, hdir⟩
        · exact hstands front hfront

end

/-- A name leads to where a directory stands, or to what its base names. -/
theorem locate_inside {e : Option Entry} (h : fs.locate path = .ok (.inside way, e)) :
    fs.Stands way ∨ ∃ front, way = front ++ [PathName.base path] := by
  obtain ⟨-, -, ⟨_, hwalk⟩, -⟩ := locate_eq_ok.mp h
  have hstart : ∀ k, fs.start path = .inside k → ∀ front, front <+: k → fs.Stands front := by
    intro k hk front hfront
    have hnil : fs.Stands [] := .inr ⟨_, entry?_nil fs⟩
    rw [start] at hk
    split_ifs at hk with habsolute hroot <;> cases hk
    · rwa [List.prefix_nil.mp hfront]
    · rw [← List.nil_append [rootComponent], List.prefix_concat_iff] at hfront
      obtain rfl | hfront := hfront
      · exact .inl ⟨rfl, hroot⟩
      · rwa [List.prefix_nil.mp hfront]
  obtain hstands | ⟨front, component, hlast, rfl⟩ := walk_inside hstart hwalk
  · exact .inl hstands
  · refine .inr ⟨front, ?_⟩
    have hne : PathName.components path ≠ [] := by
      intro hnil
      rw [hnil] at hlast
      cases hlast
    rw [PathName.getLast?_components hne] at hlast
    rw [Option.some.inj hlast]

/-! ## What more entries and fewer entries change -/

theorem KeepsBut.keepsDirectories (h : KeepsBut [] fs fs') : KeepsDirectories fs fs' where
  directory _ _ hentry := h List.not_mem_nil hentry
  root hsome := by
    obtain ⟨e, he⟩ := Option.isSome_iff_exists.mp hsome
    rw [h List.not_mem_nil he, Option.isSome_some]

/-- What is at a name is there among more entries as well. -/
theorem KeepsBut.locate_some (h : KeepsBut [] fs fs')
    (hloc : fs.locate path = .ok (.inside way, some e)) :
    fs'.locate path = .ok (.inside way, some e) := by
  obtain ⟨-, -, -, hentry, hslash⟩ := locate_eq_ok.mp hloc
  have hentry' : fs'.entry? way = some e := h List.not_mem_nil hentry
  rw [← hentry']
  refine h.keepsDirectories.locate hloc fun hends content mode hfile ↦ ?_
  exact hslash hends content mode (hentry'.symm.trans hfile)

theorem KeepsBut.found?_eq_some (h : KeepsBut [] fs fs') (hfound : fs.found? path = some e) :
    fs'.found? path = some e := by
  obtain ⟨way, hloc⟩ := FileSystem.found?_eq_some.mp hfound
  exact FileSystem.found?_eq_some.mpr ⟨way, h.locate_some hloc⟩

/-- What is left when an entry is gone was there before. -/
theorem keepsBut_of_erase (fs : FileSystem) (way : List String) :
    KeepsBut [] (fs.erase way) fs := by
  intro k e _ hentry
  by_cases hk : k = way
  · subst hk
    by_cases hnil : k = []
    · rw [hnil] at hentry ⊢
      exact hentry
    · rw [entry?_erase_self fs hnil] at hentry
      cases hentry
  · rwa [entry?_erase_of_ne fs hk] at hentry

/-- A file that a name does not lead to may go without changing what is at the name. -/
theorem found?_erase (hfile : ∀ mode, fs.entry? way ≠ some (.directory mode))
    (hroot : way ≠ [rootComponent]) (hapart : ∀ e, fs.locate path ≠ .ok (.inside way, e)) :
    (fs.erase way).found? path = fs.found? path := by
  have hkeeps : KeepsDirectories fs (fs.erase way) := {
    directory := fun k mode hentry ↦ by
      have hk : k ≠ way := by
        rintro rfl
        exact hfile mode hentry
      rwa [entry?_erase_of_ne fs hk]
    root := fun hsome ↦ by rwa [entry?_erase_of_ne fs hroot.symm] }
  cases hfound : fs.found? path with
  | none =>
    rw [← Option.not_isSome_iff_eq_none, Option.isSome_iff_exists]
    rintro ⟨e, he⟩
    cases hfound.symm.trans ((keepsBut_of_erase fs way).found?_eq_some he)
  | some e =>
    obtain ⟨k, hloc⟩ := found?_eq_some.mp hfound
    obtain ⟨-, -, -, hentry, hslash⟩ := locate_eq_ok.mp hloc
    have hk : k ≠ way := by
      rintro rfl
      exact hapart _ hloc
    have hentry' : FileSystem.entry? (fs.erase way) k = some e := (entry?_erase_of_ne fs hk).trans hentry
    refine found?_eq_some.mpr ⟨k, ?_⟩
    rw [← hentry']
    refine hkeeps.locate hloc fun hends content mode hfile' ↦ ?_
    exact hslash hends content mode (hentry'.symm.trans hfile')

/-! ## Renaming and removing -/

/-- What is removed is there before and not after. -/
theorem found?_of_remove (h : fs.remove path = (none, fs')) :
    (∃ e, fs.found? path = some e) ∧ fs'.found? path = none := by
  have hgone {k : List String} {e : Entry} {fs₁ : FileSystem} (hk : k ≠ [])
      (hloc : fs₁.locate path = .ok (.inside k, some e)) : (fs₁.erase k).found? path = none := by
    rw [← Option.not_isSome_iff_eq_none, Option.isSome_iff_exists]
    rintro ⟨e', he'⟩
    obtain ⟨k', hloc'⟩ := found?_eq_some.mp he'
    have hsame := (keepsBut_of_erase fs₁ k).locate_some hloc'
    rw [hloc] at hsame
    cases hsame
    cases (entry?_erase_self fs₁ hk).symm.trans (entry?_of_locate hloc')
  have hsame : (fs.attempt .remove).2.entries = fs.entries := rfl
  rw [remove] at h
  split at h
  · cases h
  next fs₁ hpassed =>
  rw [hpassed] at hsame
  have hbefore {k : List String} {e : Entry} (hloc : fs₁.locate path = .ok (.inside k, some e)) :
      ∃ e, fs.found? path = some e :=
    ⟨e, found?_congr hsame path ▸ found?_eq_some.mpr ⟨k, hloc⟩⟩
  split at h
  · cases h
  · next k content mode hloc =>
    cases h
    exact ⟨hbefore hloc, hgone (ne_nil_of_entry?_file (entry?_of_locate hloc)) hloc⟩
  · next k mode hloc =>
    split_ifs at h with hnil hempty <;> cases h
    exact ⟨hbefore hloc, hgone (by simpa using hnil) hloc⟩
  · cases h

/-- A renamed file is found at its new name, unless the name ends in a slash; then nothing is found
there before or after. -/
theorem found?_of_rename {source : List String} {content : Text} {mode : ℕ}
    (hsource : fs.entry? source = some (.file content mode)) (hroot : source ≠ [rootComponent])
    (h : fs.rename source path = (none, fs')) :
    fs'.found? path = some (.file content mode) ∨ fs'.found? path = fs.found? path := by
  rw [rename] at h
  split at h
  · cases h
  next fs₁ hpassed =>
  have hentry₁ (k : List String) : fs₁.entry? k = fs.entry? k := by
    rw [← entry?_attempt fs .rename, hpassed]
  have hfound₁ : fs₁.found? path = fs.found? path := by
    have hsame : (fs.attempt .rename).2.entries = fs.entries := rfl
    rw [hpassed] at hsame
    exact found?_congr hsame path
  split at h <;> cases h
  next way old e hnot hloc hentry =>
  obtain rfl : e = Entry.file content mode :=
    Option.some.inj (hentry.symm.trans ((hentry₁ source).trans hsource))
  have hold : fs₁.entry? way = old := entry?_of_locate hloc
  have hdirectory (k : List String) (m : ℕ) (hk : fs₁.entry? k = some (.directory m)) :
      k ≠ source ∧ k ≠ way := by
    constructor
    · rintro rfl
      cases hk.symm.trans hentry
    · rintro rfl
      exact hnot m (hold.symm.trans hk)
  have hplaced : FileSystem.entry? ((fs₁.erase source).put way (.file content mode)) way =
      some (.file content mode) := by
    refine entry?_put_self _ ?_ _
    rintro rfl
    exact (hdirectory [] _ rfl).2 rfl
  have hkeeps : KeepsDirectories fs₁ ((fs₁.erase source).put way (.file content mode)) := {
    directory := fun k m hk ↦ by
      obtain ⟨hne, hne'⟩ := hdirectory k m hk
      rwa [entry?_put_of_ne _ hne', entry?_erase_of_ne _ hne]
    root := fun hsome ↦ by
      by_cases hway : [rootComponent] = way
      · rw [hway, hplaced, Option.isSome_some]
      · rwa [entry?_put_of_ne _ hway, entry?_erase_of_ne _ hroot.symm] }
  by_cases hslash : (path.toList.getLast? == some '/') = true
  · -- what is there now is a file, so a name that ends in a slash is refused
    right
    have hnone : old = none := by
      obtain ⟨-, -, -, -, hfile⟩ := locate_eq_ok.mp hloc
      rcases old with _ | ⟨c, m⟩ | m
      · rfl
      · exact absurd rfl (hfile hslash c m)
      · exact absurd rfl (hnot m)
    have hbefore : fs.found? path = none := by
      rw [← hfound₁, found?, hloc, hnone]
    rw [hbefore, ← Option.not_isSome_iff_eq_none, Option.isSome_iff_exists]
    rintro ⟨e, he⟩
    obtain ⟨k, hloc'⟩ := found?_eq_some.mp he
    obtain ⟨-, -, -, hentry', hfile⟩ := locate_eq_ok.mp hloc'
    rw [hkeeps.place_eq hloc hloc'] at hentry'
    exact hfile hslash content mode (hentry'.symm.trans hplaced)
  · left
    refine found?_eq_some.mpr ⟨way, ?_⟩
    rw [← hplaced]
    exact hkeeps.locate hloc fun hends ↦ absurd hends hslash

theorem entries_of_rename {source : List String} {fault : FileError}
    (h : fs.rename source path = (some fault, fs')) : fs'.entries = fs.entries := by
  have hsame : (fs.attempt .rename).2.entries = fs.entries := rfl
  rw [rename] at h
  split at h
  · next hrefused =>
    cases h
    rwa [hrefused] at hsame
  · next hpassed =>
    rw [hpassed] at hsame
    split at h <;> cases h <;> exact hsame

theorem entries_of_remove {fault : FileError} (h : fs.remove path = (some fault, fs')) :
    fs'.entries = fs.entries := by
  have hsame : (fs.attempt .remove).2.entries = fs.entries := rfl
  rw [remove] at h
  split at h
  · next hrefused =>
    cases h
    rwa [hrefused] at hsame
  · next hpassed =>
    rw [hpassed] at hsame
    split at h
    · cases h
      exact hsame
    · cases h
    · split_ifs at h <;> cases h <;> exact hsame
    · cases h
      exact hsame

/-- Removing touches nothing but what the name leads to. -/
theorem entry?_of_remove {k : List String} (hapart : ∀ e, fs.locate path ≠ .ok (.inside k, e)) :
    FileSystem.entry? (fs.remove path).2 k = fs.entry? k := by
  rw [remove]
  split
  · next fs₁ hrefused =>
    rw [← entry?_attempt fs .remove, hrefused]
  next fs₁ hpassed =>
  have hentry : fs₁.entry? k = fs.entry? k := by
    rw [← entry?_attempt fs .remove, hpassed]
  have hsame : (fs.attempt .remove).2.entries = fs.entries := rfl
  rw [hpassed] at hsame
  have hne {way : List String} {e : Option Entry} (hloc : fs₁.locate path = .ok (.inside way, e)) :
      k ≠ way := by
    rintro rfl
    exact hapart e ((locate_congr hsame path).symm.trans hloc)
  split
  · exact hentry
  · next hloc => rwa [entry?_erase_of_ne fs₁ (hne hloc)]
  · next hloc =>
    split_ifs
    · exact hentry
    · rwa [entry?_erase_of_ne fs₁ (hne hloc)]
    · exact hentry
  · exact hentry

/-- Whether a renaming is refused is a matter of the entries and of the refusal asked for next. -/
theorem rename_fst_congr {source : List String} (h : fs'.entries = fs.entries)
    (hattempt : (fs'.attempt .rename).1 = (fs.attempt .rename).1) :
    (fs'.rename source path).1 = (fs.rename source path).1 := by
  rw [rename, rename]
  rcases hfs : fs.attempt .rename with ⟨_ | e, fs₁⟩ <;>
    rcases hfs' : fs'.attempt .rename with ⟨_ | e', fs₁'⟩ <;>
    rw [hfs, hfs'] at hattempt <;> cases hattempt
  · have hsame : fs₁'.entries = fs₁.entries := by
      have h₁ : (fs.attempt .rename).2.entries = fs.entries := rfl
      have h₁' : (fs'.attempt .rename).2.entries = fs'.entries := rfl
      rw [hfs] at h₁
      rw [hfs'] at h₁'
      rw [h₁', h, h₁]
    simp only [locate_congr hsame, entry?_congr hsame]
    split <;> rfl
  · rfl

theorem remove_fst_congr (h : fs'.entries = fs.entries)
    (hattempt : (fs'.attempt .remove).1 = (fs.attempt .remove).1) :
    (fs'.remove path).1 = (fs.remove path).1 := by
  rw [remove, remove]
  rcases hfs : fs.attempt .remove with ⟨_ | e, fs₁⟩ <;>
    rcases hfs' : fs'.attempt .remove with ⟨_ | e', fs₁'⟩ <;>
    rw [hfs, hfs'] at hattempt <;> cases hattempt
  · have hsame : fs₁'.entries = fs₁.entries := by
      have h₁ : (fs.attempt .remove).2.entries = fs.entries := rfl
      have h₁' : (fs'.attempt .remove).2.entries = fs'.entries := rfl
      rw [hfs] at h₁
      rw [hfs'] at h₁'
      rw [h₁', h, h₁]
    have hempty (k : List String) : fs₁'.isEmptyDirectory k = fs₁.isEmptyDirectory k := by
      rw [isEmptyDirectory, isEmptyDirectory, hsame]
    simp only [locate_congr hsame, hempty]
    split
    · rfl
    · rfl
    · split_ifs <;> rfl
    · rfl
  · rfl

/-- What a call is refused for does not depend on calls of other kinds. -/
theorem attempt_fst_attempt {call call' : FileCall} (h : call ≠ call') :
    ((fs.attempt call).2.attempt call').1 = (fs.attempt call').1 := by
  simp [attempt, h]

theorem attempt_fst_rename {call : FileCall} (h : FileCall.rename ≠ call) (source : List String) :
    ((fs.rename source path).2.attempt call).1 = (fs.attempt call).1 := by
  have hattempt : ((fs.attempt .rename).2.attempt call).1 = (fs.attempt call).1 :=
    attempt_fst_attempt h
  rw [rename]
  split
  · next hrefused => rwa [hrefused] at hattempt
  · next hpassed =>
    rw [hpassed] at hattempt
    split <;> exact hattempt

end FileSystem

end PathQuery
