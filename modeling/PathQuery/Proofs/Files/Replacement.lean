import PathQuery.Files.Atomic
import PathQuery.Proofs.Files.Frame

/-!
# Replaced files

A replacement that goes through leaves in place of the file what was written to the temporary one,
and keeps every other entry that was there. Up to the renaming everything that was there is kept,
since the temporary file and the directories made above it are new.
-/

namespace PathQuery

namespace FileSystem

variable {fs fs' : FileSystem} {path : String} {way : List String}

/-! ## Making directories -/

theorem entry?_of_locate {e : Option Entry} (h : fs.locate path = .ok (.inside way, e)) :
    fs.entry? way = e :=
  (locate_eq_ok.mp h).2.2.2.1

theorem makeDirectory_keeps (h : fs.makeDirectory path = .ok fs') : KeepsBut [] fs fs' := by
  rw [makeDirectory] at h
  split at h <;> cases h
  next way hloc => exact (KeepsBut.put fs way _).of_new (entry?_of_locate hloc)

theorem ensureDirectory_keeps (h : fs.ensureDirectory path = .ok fs') : KeepsBut [] fs fs' := by
  rw [ensureDirectory] at h
  split at h
  · cases h
    exact makeDirectory_keeps ‹_›
  · split at h <;> cases h
    exact .refl fs

theorem makeDirectories_keeps {depth : ℕ} (h : fs.makeDirectories path depth = .ok fs') :
    KeepsBut [] fs fs' := by
  induction depth generalizing path fs' with
  | zero => exact ensureDirectory_keeps h
  | succ depth ih =>
    rw [makeDirectories] at h
    split at h
    · cases h
      exact .refl fs
    · cases h
    · split_ifs at h
      · exact ensureDirectory_keeps h
      · split at h
        next fs₁ habove => exact (ih habove).trans (ensureDirectory_keeps h)
        next => cases h

theorem makePath_keeps (h : fs.makePath path = .ok fs') : KeepsBut [] fs fs' :=
  makeDirectories_keeps h

/-! ## Renaming and removing -/

/-- A renaming that goes through moves the entry to where the name leads. -/
theorem rename_eq_none {source : List String} (h : fs.rename source path = (none, fs')) :
    ∃ way e old, (fs.attempt .rename).2.locate path = .ok (.inside way, old) ∧
      fs.entry? source = some e ∧ fs' = ((fs.attempt .rename).2.erase source).put way e := by
  rw [rename] at h
  split at h
  · cases h
  · next fs₁ hattempt =>
    have hsource : fs.entry? source = fs₁.entry? source := by
      rw [← entry?_attempt fs .rename, hattempt]
    rw [hattempt]
    split at h <;> cases h
    next way old e _ hloc hentry => exact ⟨way, e, old, hloc, hsource.trans hentry, rfl⟩

/-- A renaming that is refused changes nothing. -/
theorem rename_keeps {source : List String} {e : FileError}
    (h : fs.rename source path = (some e, fs')) : KeepsBut [] fs fs' := by
  have hattempt : KeepsBut [] fs (fs.attempt .rename).2 := .of_same fun _ ↦ rfl
  rw [rename] at h
  split at h
  · next hrefused =>
    cases h
    rwa [hrefused] at hattempt
  · next hpassed =>
    rw [hpassed] at hattempt
    split at h <;> cases h <;> exact hattempt

/-- Removing a file touches nothing else. -/
theorem remove_keeps {content : Text} {mode : ℕ}
    (h : fs.locate path = .ok (.inside way, some (.file content mode))) :
    KeepsBut [way] fs (fs.remove path).2 := by
  have hattempt : KeepsBut [] fs (fs.attempt .remove).2 := .of_same fun _ ↦ rfl
  have hsub : [] ⊆ [way] := List.nil_subset _
  rw [remove]
  split
  · next hrefused =>
    rw [hrefused] at hattempt
    exact hattempt.mono hsub
  · next hpassed =>
    rw [hpassed] at hattempt
    rw [hattempt.locate_self h]
    exact (hattempt.mono hsub).trans (.erase _ way)

end FileSystem

namespace AtomicFile

open FileSystem

variable {fs fs' : FileSystem} {f f' : AtomicFile} {path : String} {way : List String} {mode : ℕ}
  {content old : Text}

/-! ## Starting -/

/-- A temporary file is put where its name leads to nothing. -/
theorem createTemporary_located {directory lead : String}
    (h : createTemporary fs directory lead mode = .ok (way, fs')) :
    '/' ∉ lead.toList ∧
      fs.locate (below directory (lead ++ showNumber fs.temporaries)) = .ok (.inside way, none) ∧
      fs'.entries = (fs.put way (.file ⟨[]⟩ mode)).entries := by
  rw [createTemporary] at h
  split_ifs at h with hlead
  dsimp only at h
  split at h <;> cases h
  next hloc => exact ⟨by simpa using hlead, hloc, rfl⟩

/-- A temporary file is new and empty. -/
theorem createTemporary_eq_ok {directory lead : String}
    (h : createTemporary fs directory lead mode = .ok (way, fs')) :
    fs.entry? way = none ∧ fs'.entry? way = some (.file ⟨[]⟩ mode) ∧ KeepsBut [way] fs fs' := by
  obtain ⟨-, hloc, hput⟩ := createTemporary_located h
  have hsame (k : List String) :
      fs'.entry? k = FileSystem.entry? (fs.put way (.file ⟨[]⟩ mode)) k := by
    rw [FileSystem.entry?, FileSystem.entry?, hput]
  have hnew := entry?_of_locate hloc
  refine ⟨hnew, ?_, (KeepsBut.put fs way (.file ⟨[]⟩ mode)).trans (.of_same hsame)⟩
  rw [hsame]
  exact entry?_put_self fs (ne_nil_of_entry?_none hnew) _

/-- Starting makes the directories and then the temporary file. -/
theorem create_calls (h : create fs path mode = (.ok f, fs')) :
    f.path = path ∧ f.done = false ∧ ∃ fs₁, fs.makePath (PathName.directory path) = .ok fs₁ ∧
      createTemporary fs₁ (PathName.directory path) (temporaryLead path) (finalMode fs path mode) =
        .ok (f.temporary, fs') := by
  unfold create at h
  dsimp only at h
  split at h
  · cases h
  next fs₁ hmake =>
  split at h
  · cases h
  next temporary fs₂ htemporary =>
  cases h
  exact ⟨rfl, rfl, fs₁, hmake, htemporary⟩

/-- A replacement that has started has a new and empty temporary file, and everything that was
there is there. -/
theorem create_eq_ok (h : create fs path mode = (.ok f, fs')) :
    f.path = path ∧ f.done = false ∧ fs.entry? f.temporary = none ∧
      fs'.entry? f.temporary = some (.file ⟨[]⟩ (finalMode fs path mode)) ∧
      KeepsBut [] fs fs' := by
  obtain ⟨hpath, hdone, fs₁, hmake, htemporary⟩ := create_calls h
  obtain ⟨hnew, hempty, hkeeps⟩ := createTemporary_eq_ok htemporary
  have hmade : KeepsBut [] fs fs₁ := makePath_keeps hmake
  refine ⟨hpath, hdone, ?_, hempty, hmade.trans (hkeeps.of_new hnew)⟩
  -- an entry that was there would be there after the directories are made
  rcases hentry : fs.entry? f.temporary with _ | e
  · rfl
  · cases (hmade List.not_mem_nil hentry).symm.trans hnew

/-! ## Writing -/

/-- What is written goes to the end of the temporary file. -/
theorem write_eq_ok {data : Text} {n : ℕ}
    (hentry : fs.entry? f.temporary = some (.file content mode))
    (h : write fs f data = (.ok n, fs')) :
    fs'.entry? f.temporary = some (.file (content ++ data) mode) ∧
      KeepsBut [f.temporary] fs fs' := by
  have hattempt : KeepsBut [f.temporary] fs (fs.attempt .write).2 := .of_same fun _ ↦ rfl
  have hsame : FileSystem.entry? (fs.attempt .write).2 f.temporary = fs.entry? f.temporary := rfl
  rw [write] at h
  split_ifs at h
  · cases h
  · split at h
    · cases h
    · next fs₁ hpassed =>
      cases h
      rw [hpassed] at hattempt hsame
      exact ⟨entry?_append_self (hsame.trans hentry) data,
        hattempt.trans (.append fs₁ f.temporary data)⟩

/-- The parts that are written follow each other in the temporary file. -/
theorem writeParts_eq_ok {parts : List Text}
    (hentry : fs.entry? f.temporary = some (.file content mode))
    (h : writeParts fs f parts = (.ok (), fs')) :
    fs'.entry? f.temporary = some (.file (parts.foldl (· ++ ·) content) mode) ∧
      KeepsBut [f.temporary] fs fs' := by
  induction parts generalizing fs content with
  | nil =>
    cases h
    exact ⟨hentry, .refl _⟩
  | cons part parts ih =>
    rw [writeParts] at h
    split at h
    · cases h
    · next fs₁ hwrite =>
      obtain ⟨hentry₁, hkeeps₁⟩ := write_eq_ok hentry hwrite
      obtain ⟨hentry₂, hkeeps₂⟩ := ih hentry₁ h
      exact ⟨hentry₂, hkeeps₁.trans hkeeps₂⟩

/-! ## Committing -/

section
variable {e : Entry} (hentry : fs.entry? f.temporary = some e) (hne : f.temporary ≠ way)
include hentry hne

/-- Renaming the temporary file over a file, or to where it was, puts it there. -/
theorem rename_eq_none_of_keeps {fs₁ : FileSystem} (hkeeps : KeepsBut [way] fs fs₁)
    (hloc : fs.locate path = .ok (.inside way, some (.file old mode)))
    (h : fs₁.rename f.temporary path = (none, fs')) :
    fs'.entry? way = some e ∧ KeepsBut [f.temporary, way] fs fs' := by
  obtain ⟨way', e', _, hloc', hentry', rfl⟩ := rename_eq_none h
  have hattempt : KeepsBut [way] fs (fs₁.attempt .rename).2 := hkeeps.trans (.of_same fun _ ↦ rfl)
  obtain rfl : way' = way := hattempt.place_eq hloc hloc'
  obtain rfl : e' = e := by
    have hsame := hkeeps (by simpa using hne) hentry
    exact Option.some.inj (hentry'.symm.trans hsame)
  refine ⟨entry?_put_self _ (ne_nil_of_entry?_file (entry?_of_locate hloc)) e', ?_⟩
  have hall {k : List String} (hk : k = f.temporary ∨ k = way') : [k] ⊆ [f.temporary, way'] := by
    simpa using hk
  exact ((hattempt.mono (hall (.inr rfl))).trans ((KeepsBut.erase _ _).mono (hall (.inl rfl)))).trans
    ((KeepsBut.put _ _ _).mono (hall (.inr rfl)))

/-- A temporary file that has been moved into the place of a file is what is there. -/
theorem moveIntoPlace_eq_ok
    (hloc : fs.locate f.path = .ok (.inside way, some (.file old mode)))
    (h : moveIntoPlace fs f = (.ok (), fs')) :
    fs'.entry? way = some e ∧ KeepsBut [f.temporary, way] fs fs' := by
  rw [moveIntoPlace] at h
  split at h
  · next hrename =>
    cases h
    exact rename_eq_none_of_keeps hentry hne (.refl fs) hloc hrename
  · next fs₁ hrefused =>
    -- the file itself is what is in the way, so nothing else is removed
    have hkeeps₁ := rename_keeps hrefused
    have hkeeps₂ := (hkeeps₁.mono (List.nil_subset _)).trans (remove_keeps (hkeeps₁.locate_self hloc))
    dsimp only at h
    split at h <;> cases h
    next hrename => exact rename_eq_none_of_keeps hentry hne hkeeps₂ hloc hrename

/-- A file whose replacement is committed holds what the temporary file held. -/
theorem commit_eq_ok (hloc : fs.locate f.path = .ok (.inside way, some (.file old mode)))
    (h : commit fs f = (.ok (), f', fs')) :
    fs'.entry? way = some e ∧ KeepsBut [f.temporary, way] fs fs' := by
  rw [commit] at h
  split_ifs at h
  · cases h
  dsimp only at h
  split at h
  · cases h
  next fs₁ hsync =>
  split at h
  · cases h
  next fs₂ hclose =>
  have hflushed : KeepsBut [] fs fs₂ := by
    have h₁ : KeepsBut [] fs (fs.attempt .sync).2 := .of_same fun _ ↦ rfl
    have h₂ : KeepsBut [] fs₁ (fs₁.attempt .close).2 := .of_same fun _ ↦ rfl
    rw [hsync] at h₁
    rw [hclose] at h₂
    exact h₁.trans h₂
  have hmove : moveIntoPlace fs₂ { f with done := true } = (.ok (), fs') := by
    rcases hmoved : moveIntoPlace fs₂ { f with done := true } with ⟨outcome, fs₃⟩
    simp only [hmoved] at h
    cases h
    rfl
  obtain ⟨hplaced, hkeeps⟩ := moveIntoPlace_eq_ok (f := { f with done := true })
    (hflushed List.not_mem_nil hentry) hne (hflushed.locate_self hloc) hmove
  exact ⟨hplaced, (hflushed.mono (List.nil_subset _)).trans hkeeps⟩

end

/-- A file that is replaced by a replacement that goes through, from its start to its end, holds
the parts that were written, one after the other. All other entries that were there are kept. -/
theorem replace_parts_eq_ok {fs₁ fs₂ : FileSystem} {parts : List Text} {m : ℕ}
    (hloc : fs.locate path = .ok (.inside way, some (.file old m)))
    (hcreate : create fs path mode = (.ok f, fs₁)) (hwrite : writeParts fs₁ f parts = (.ok (), fs₂))
    (hcommit : commit fs₂ f = (.ok (), f', fs')) :
    fs'.entry? way = some (.file (parts.foldl (· ++ ·) ⟨[]⟩) (finalMode fs path mode)) ∧
      KeepsBut [way] fs fs' := by
  obtain ⟨rfl, -, hnew, hempty, hstarted⟩ := create_eq_ok hcreate
  obtain ⟨hwritten, hkeeps⟩ := writeParts_eq_ok hempty hwrite
  have hbefore : KeepsBut [] fs fs₂ :=
    ((hstarted.mono (List.nil_subset _)).trans hkeeps).of_new hnew
  have hne : f.temporary ≠ way := by
    rintro heq
    cases hnew.symm.trans (heq ▸ entry?_of_locate hloc)
  obtain ⟨hplaced, hmoved⟩ := commit_eq_ok hwritten hne (hbefore.locate_self hloc) hcommit
  exact ⟨hplaced, ((hbefore.mono (List.nil_subset _)).trans hmoved).of_new hnew⟩

end AtomicFile

end PathQuery
