import PathQuery.Proofs.Files.Target
import PathQuery.Proofs.Number.Digits

/-!
# Commits, call by call

A commit is a row of calls, each of which may be refused, and a reader may look at the target after
any of them. The target is replaced by one renaming, so a reader finds there what it held before or
what was written to the temporary file.

There is one exception. When the renaming is refused, whatever the target holds is removed before
it is tried again. From then on there is no target; if the second renaming is refused as well, there
is none left when the commit has failed. Such a target is *displaced*. Everything that a commit can
do to a target comes down to whether it is.
-/

namespace PathQuery

namespace AtomicFile

open FileSystem

variable {fs fs' : FileSystem} {f : AtomicFile} {path : String} {mode : ℕ}

/-! ## Pending replacements -/

/-- A replacement is pending: its temporary file is named after the target, and no directory has
taken its place. -/
structure Pending (fs : FileSystem) (f : AtomicFile) : Prop where
  /-- The name of the temporary file is made of the base of the target's. -/
  beside : ∃ front number, f.temporary = front ++ [temporaryLead f.path ++ number]
  /-- There is a file, or nothing. -/
  notDirectory : ∀ mode, fs.entry? f.temporary ≠ some (.directory mode)

theorem toList_showNumber (n : ℕ) : '/' ∉ (showNumber n).toList := by
  have hdigits : (toString n).toList = Nat.toDigits 10 n := Nat.toList_repr
  rw [showNumber, String.toList_ofList, hdigits, List.mem_append, not_or]
  constructor
  · intro hmem
    exact absurd (List.eq_of_mem_replicate hmem) (by decide)
  · intro hmem
    exact absurd (isDigit_of_mem_toDigits hmem) (by decide)

/-- A name below a directory leads along those of the directory and then along itself. -/
theorem components_below {directory name : String} (hname : PathName.IsComponent name) :
    PathName.components (below directory name) = PathName.components directory ++ [name] := by
  rw [below]
  split_ifs with hslash
  · obtain ⟨front, hfront⟩ := List.getLast?_eq_some_iff.mp (by simpa using hslash)
    have hdirectory : directory = String.ofList front ++ "/" ++ "" := by
      apply String.toList_injective
      simp [hfront]
    rw [hdirectory, String.append_empty, PathName.components_append, PathName.components_singleton hname,
      ← String.append_empty (s := String.ofList front ++ "/"), PathName.components_append]
    exact congrArg (· ++ [name]) (List.append_nil _).symm
  · rw [PathName.components_append, PathName.components_singleton hname]

/-- A name below a directory leads along itself last. -/
theorem base_below {directory name : String} (hname : PathName.IsComponent name) :
    PathName.base (below directory name) = name := by
  have hcomponents : PathName.components (below directory name) =
      PathName.components directory ++ [name] := components_below hname
  have hbase := PathName.getLast?_components (hcomponents ▸ List.concat_ne_nil name _)
  rw [hcomponents, List.getLast?_concat] at hbase
  exact (Option.some.inj hbase).symm

theorem length_temporaryLead (path : String) :
    (temporaryLead path).length = (PathName.base path).length + 6 := by
  rw [temporaryLead, String.length_append, String.length_append, show ".".length = 1 from rfl,
    show ".tmp-".length = 5 from rfl]
  omega

/-- The name of a temporary file is a component. -/
theorem isComponent_temporaryName {path number : String} (hlead : '/' ∉ (temporaryLead path).toList)
    (hnumber : '/' ∉ number.toList) : PathName.IsComponent (temporaryLead path ++ number) := by
  constructor
  · intro hempty
    have hlength := congrArg String.length hempty
    rw [String.length_append, length_temporaryLead, String.length_empty] at hlength
    omega
  · rw [String.toList_append, List.mem_append, not_or]
    exact ⟨hlead, hnumber⟩

/-- A replacement that has started is pending. -/
theorem pending_of_create (h : create fs path mode = (.ok f, fs')) : Pending fs' f := by
  have hentry := (create_eq_ok h).2.2.2.1
  obtain ⟨hpath, -, fs₁, -, htemporary⟩ := create_calls h
  obtain ⟨hlead, hloc, -⟩ := createTemporary_located htemporary
  refine ⟨?_, fun _ hdirectory ↦ ?_⟩
  · rw [hpath]
    obtain (⟨-, hsome⟩ | ⟨_, hdirectory⟩) | ⟨front, hfront⟩ := locate_inside hloc
    · rw [entry?_of_locate hloc] at hsome
      cases hsome
    · cases (entry?_of_locate hloc).symm.trans hdirectory
    · exact ⟨front, _, hfront.trans (congrArg (front ++ [·])
        (base_below (isComponent_temporaryName hlead (toList_showNumber _))))⟩
  · cases hentry.symm.trans hdirectory

namespace Pending

theorem of_entry? (h : Pending fs f) (hentry : fs'.entry? f.temporary = fs.entry? f.temporary) :
    Pending fs' f :=
  ⟨h.beside, fun mode ↦ hentry ▸ h.notDirectory mode⟩

/-- Writing leaves a replacement pending, whether it is refused or not. -/
theorem write (h : Pending fs f) (data : Text) : Pending (write fs f data).2 f := by
  rw [AtomicFile.write]
  split_ifs
  · exact h
  · split
    · next fs₁ hrefused =>
      refine h.of_entry? ?_
      rw [← entry?_attempt fs .write, hrefused]
    · next fs₁ hpassed =>
      have hsame : fs₁.entry? f.temporary = fs.entry? f.temporary := by
        rw [← entry?_attempt fs .write, hpassed]
      refine ⟨h.beside, fun mode hdirectory ↦ ?_⟩
      rcases hentry : fs₁.entry? f.temporary with _ | ⟨content, m⟩ | m
      · simp [FileSystem.append, hentry] at hdirectory
      · cases (entry?_append_self hentry data).symm.trans hdirectory
      · exact h.notDirectory m (hsame.symm.trans hentry)

theorem ne_root (h : Pending fs f) : f.temporary ≠ [rootComponent] := by
  obtain ⟨front, number, htemporary⟩ := h.beside
  rw [htemporary]
  intro hroot
  obtain ⟨-, hroot⟩ := List.append_eq_singleton_iff.mp hroot |>.resolve_right (by simp)
  have hlength := congrArg String.length (List.singleton_inj.mp hroot)
  rw [String.length_append, length_temporaryLead, show rootComponent.length = 1 from rfl] at hlength
  omega

theorem ne_nil (h : Pending fs f) : f.temporary ≠ [] := by
  obtain ⟨front, number, htemporary⟩ := h.beside
  simp [htemporary]

/-- The target is never where the temporary file is. -/
theorem apart (h : Pending fs f) (e : Option Entry) :
    fs.locate f.path ≠ .ok (.inside f.temporary, e) := by
  intro hloc
  obtain (⟨hroot, -⟩ | ⟨mode, hdirectory⟩) | ⟨front, hfront⟩ := locate_inside hloc
  · exact h.ne_root hroot
  · exact h.notDirectory mode hdirectory
  · obtain ⟨front', number, htemporary⟩ := h.beside
    have hlast := congrArg List.getLast? (htemporary.symm.trans hfront)
    rw [List.getLast?_concat, List.getLast?_concat] at hlast
    have hlength := congrArg String.length (Option.some.inj hlast)
    rw [String.length_append, length_temporaryLead] at hlength
    omega

end Pending

/-! ## What the calls show a reader -/

section
variable (h : Pending fs f)
include h

/-- Dropping the temporary file shows at the target what was there. -/
theorem found?_dropTemporary : (dropTemporary fs f).found? f.path = fs.found? f.path := by
  have hsame : (fs.attempt .remove).2.entries = fs.entries := rfl
  rw [dropTemporary]
  split
  · next fs₁ hrefused =>
    rw [hrefused] at hsame
    exact found?_congr hsame f.path
  · next fs₁ hpassed =>
    rw [hpassed] at hsame
    have h₁ : Pending fs₁ f := h.of_entry? (entry?_congr hsame _)
    rw [found?_erase h₁.notDirectory h₁.ne_root h₁.apart, found?_congr hsame]

omit h in
/-- A temporary file that may be removed is gone. -/
theorem entry?_dropTemporary (hne : f.temporary ≠ []) (hpassed : (fs.attempt .remove).1 = none) :
    FileSystem.entry? (dropTemporary fs f) f.temporary = none := by
  rw [dropTemporary]
  split
  · next hrefused =>
    rw [hrefused] at hpassed
    cases hpassed
  · exact entry?_erase_self _ hne

/-- Renaming the temporary file shows what is in it, or what was there. -/
theorem found?_rename (hrename : (fs.rename f.temporary f.path).1 = none) :
    ∃ e, fs.entry? f.temporary = some e ∧
      ((fs.rename f.temporary f.path).2.found? f.path = some e ∨
        (fs.rename f.temporary f.path).2.found? f.path = fs.found? f.path) := by
  have heq : fs.rename f.temporary f.path = (none, (fs.rename f.temporary f.path).2) :=
    Prod.ext hrename rfl
  obtain ⟨_, e, _, -, hentry, -⟩ := rename_eq_none heq
  refine ⟨e, hentry, ?_⟩
  cases e with
  | directory mode => exact absurd hentry (h.notDirectory mode)
  | file content mode => exact found?_of_rename hentry h.ne_root heq

omit h in
theorem entries_rename (hrename : (fs.rename f.temporary f.path).1 ≠ none) :
    (fs.rename f.temporary f.path).2.entries = fs.entries := by
  obtain ⟨fault, hfault⟩ := Option.ne_none_iff_exists'.mp hrename
  exact entries_of_rename (Prod.ext hfault rfl)

end

/-! ## Moving the temporary file into place -/

/-- The file system in which renaming is tried again. -/
def cleared (fs : FileSystem) (f : AtomicFile) : FileSystem :=
  ((fs.rename f.temporary f.path).2.remove f.path).2

/-- The file systems after the calls that move the temporary file into place. -/
def moveStages (fs : FileSystem) (f : AtomicFile) : List FileSystem :=
  let renamed := fs.rename f.temporary f.path
  let again := (cleared fs f).rename f.temporary f.path
  if renamed.1 = none then [renamed.2]
  else if again.1 = none then [renamed.2, cleared fs f, again.2]
  else [renamed.2, cleared fs f, again.2, dropTemporary again.2 f]

/-- What is in the way is removed, since the first renaming is refused. -/
structure Clears (fs : FileSystem) (f : AtomicFile) : Prop where
  /-- The first renaming is refused. -/
  refused : (fs.rename f.temporary f.path).1 ≠ none
  /-- What the target holds may be removed. -/
  removed : (fs.remove f.path).1 = none

/-- What a reader finds at the target of a replacement: what was there before, what was written to
the temporary file, or nothing if the target is displaced. -/
inductive Sight (fs : FileSystem) (f : AtomicFile) (displaced : Prop) : Option Entry → Prop
  /-- What was there before. -/
  | old : Sight fs f displaced (fs.found? f.path)
  /-- What was written. -/
  | new {e : Entry} (hentry : fs.entry? f.temporary = some e) : Sight fs f displaced (some e)
  /-- Nothing. -/
  | lost (hdisplaced : displaced) : Sight fs f displaced none

/-- What was there is found as long as the entries are the same. -/
theorem Sight.of_entries {displaced : Prop} (h : fs'.entries = fs.entries) :
    Sight fs f displaced (fs'.found? f.path) :=
  found?_congr h f.path ▸ .old

theorem Sight.mono {displaced displaced' : Prop} {found : Option Entry}
    (h : Sight fs' f displaced found) (hentries : fs'.entries = fs.entries)
    (himp : displaced → displaced') : Sight fs f displaced' found := by
  cases h with
  | old => exact .of_entries hentries
  | new hentry => exact .new ((entry?_congr hentries _).symm.trans hentry)
  | lost hdisplaced => exact .lost (himp hdisplaced)

/-- Nothing is found only if there was nothing before or the target is displaced. -/
theorem Sight.of_none {displaced : Prop} (h : Sight fs f displaced none) :
    fs.found? f.path = none ∨ displaced := by
  cases hfound : fs.found? f.path with
  | none => exact .inl rfl
  | some e =>
    right
    generalize hnone : (none : Option Entry) = found at h
    cases h with
    | old => cases hnone.trans hfound
    | new => cases hnone
    | lost hdisplaced => exact hdisplaced

/-- Moving ends with one of two renamings, or with dropping the temporary file after both are
refused. -/
theorem moveIntoPlace_cases (fs : FileSystem) (f : AtomicFile) :
    ((fs.rename f.temporary f.path).1 = none ∧
      moveIntoPlace fs f = (.ok (), (fs.rename f.temporary f.path).2)) ∨
    ((fs.rename f.temporary f.path).1 ≠ none ∧
      ((cleared fs f).rename f.temporary f.path).1 = none ∧
      moveIntoPlace fs f = (.ok (), ((cleared fs f).rename f.temporary f.path).2)) ∨
    ((fs.rename f.temporary f.path).1 ≠ none ∧
      ((cleared fs f).rename f.temporary f.path).1 ≠ none ∧ ∃ fault,
      moveIntoPlace fs f =
        (.error fault, dropTemporary ((cleared fs f).rename f.temporary f.path).2 f)) := by
  rw [moveIntoPlace, cleared]
  rcases fs.rename f.temporary f.path with ⟨_ | e, renamed⟩
  · exact .inl ⟨rfl, rfl⟩
  · rcases hagain : (renamed.remove f.path).2.rename f.temporary f.path with ⟨_ | e', again⟩ <;>
      simp [hagain]

/-- Nothing is at the target after what is in the way has been removed. -/
theorem Clears.found?_cleared (h : Clears fs f) :
    (∃ e, fs.found? f.path = some e) ∧ (cleared fs f).found? f.path = none := by
  have hentries := entries_rename h.refused
  have hremove : ((fs.rename f.temporary f.path).2.remove f.path).1 = none :=
    (remove_fst_congr hentries (attempt_fst_rename (by decide) f.temporary)).trans h.removed
  obtain ⟨⟨e, he⟩, hnone⟩ := found?_of_remove (Prod.ext hremove rfl)
  exact ⟨⟨e, (found?_congr hentries _).symm.trans he⟩, hnone⟩

section
variable (h : Pending fs f)
include h

/-- Removing what is in the way leaves the temporary file as it is, and nothing at the target or
what was there. -/
theorem cleared_spec (hrename : (fs.rename f.temporary f.path).1 ≠ none) :
    FileSystem.entry? (cleared fs f) f.temporary = fs.entry? f.temporary ∧
      ((cleared fs f).found? f.path = fs.found? f.path ∨
        Clears fs f ∧ (cleared fs f).found? f.path = none) := by
  have hentries := entries_rename hrename
  have hapart (e : Option Entry) :
      (fs.rename f.temporary f.path).2.locate f.path ≠ .ok (.inside f.temporary, e) := by
    rw [locate_congr hentries]
    exact h.apart e
  refine ⟨(entry?_of_remove hapart).trans (entry?_congr hentries _), ?_⟩
  by_cases hremove : (fs.remove f.path).1 = none
  · have hclears : Clears fs f := ⟨hrename, hremove⟩
    exact .inr ⟨hclears, hclears.found?_cleared.2⟩
  · left
    rw [← remove_fst_congr hentries (attempt_fst_rename (by decide) f.temporary)] at hremove
    obtain ⟨fault, hfault⟩ := Option.ne_none_iff_exists'.mp hremove
    have hsame := entries_of_remove (Prod.ext hfault rfl)
    exact (found?_congr hsame _).trans (found?_congr hentries _)

/-- After each call of moving a reader finds the old, the new, or nothing if the way is cleared. -/
theorem sight_moveStages :
    ∀ stage ∈ moveStages fs f, Sight fs f (Clears fs f) (stage.found? f.path) := by
  intro stage hstage
  rw [moveStages] at hstage
  by_cases hrename : (fs.rename f.temporary f.path).1 = none
  · rw [if_pos hrename, List.mem_singleton] at hstage
    obtain ⟨e, hentry, hnew | hold⟩ := found?_rename h hrename
    · rw [hstage, hnew]
      exact .new hentry
    · rw [hstage, hold]
      exact .old
  obtain ⟨hentry, hcleared⟩ := cleared_spec h hrename
  have hpending : Pending (cleared fs f) f := h.of_entry? hentry
  have hbefore : Sight fs f (Clears fs f) ((cleared fs f).found? f.path) := by
    obtain hold | ⟨hclears, hnone⟩ := hcleared
    · rw [hold]
      exact .old
    · rw [hnone]
      exact .lost hclears
  have hrenamed : Sight fs f (Clears fs f) ((fs.rename f.temporary f.path).2.found? f.path) := by
    rw [found?_congr (entries_rename hrename)]
    exact .old
  rw [if_neg hrename] at hstage
  by_cases hagain : ((cleared fs f).rename f.temporary f.path).1 = none
  · rw [if_pos hagain] at hstage
    simp only [List.mem_cons, List.not_mem_nil, or_false] at hstage
    obtain rfl | rfl | rfl := hstage
    · exact hrenamed
    · exact hbefore
    · obtain ⟨e, hentry', hnew | hold⟩ := found?_rename hpending hagain
      · rw [hnew]
        exact .new (hentry.symm.trans hentry')
      · rwa [hold]
  · have hsame := entries_rename hagain
    rw [if_neg hagain] at hstage
    simp only [List.mem_cons, List.not_mem_nil, or_false] at hstage
    obtain rfl | rfl | rfl | rfl := hstage
    · exact hrenamed
    · exact hbefore
    · rwa [found?_congr hsame]
    · rwa [found?_dropTemporary (hpending.of_entry? (entry?_congr hsame _)), found?_congr hsame]

end

/-! ## Whole commits -/

/-- The file system after the temporary file is flushed and closed. -/
def flushed (fs : FileSystem) : FileSystem := ((fs.attempt .sync).2.attempt .close).2

theorem Pending.flushed (h : Pending fs f) : Pending (flushed fs) f := h.of_entry? rfl

theorem found?_flushed (fs : FileSystem) (path : String) :
    (flushed fs).found? path = fs.found? path :=
  found?_congr (show (flushed fs).entries = fs.entries from rfl) path

/-- The file systems after the calls of a commit, one after the other. -/
def commitStages (fs : FileSystem) (f : AtomicFile) : List FileSystem :=
  if f.done then []
  else if (fs.attempt .sync).1 = none ∧ (fs.attempt .close).1 = none then
    (fs.attempt .sync).2 :: flushed fs :: moveStages (flushed fs) f
  else [(fs.attempt .sync).2, flushed fs, dropTemporary (flushed fs) f]

/-- One call of a commit. -/
inductive CommitCall (f : AtomicFile) (fs : FileSystem) : FileSystem → Prop
  /-- The temporary file is flushed. -/
  | sync : CommitCall f fs (fs.attempt .sync).2
  /-- It is closed. -/
  | close : CommitCall f fs (fs.attempt .close).2
  /-- It is renamed into place. -/
  | rename : CommitCall f fs (fs.rename f.temporary f.path).2
  /-- What is in the way is removed. -/
  | clear : CommitCall f fs (fs.remove f.path).2
  /-- The temporary file is removed. -/
  | drop : CommitCall f fs (dropTemporary fs f)

/-- What the target holds is removed in the course of a commit. -/
structure Displaced (fs : FileSystem) (f : AtomicFile) : Prop extends Clears fs f where
  /-- The replacement is pending. -/
  undone : f.done = false
  /-- The temporary file may be flushed. -/
  synced : (fs.attempt .sync).1 = none
  /-- It may be closed. -/
  closed : (fs.attempt .close).1 = none

theorem clears_flushed (fs : FileSystem) (f : AtomicFile) :
    Clears (flushed fs) f ↔ Clears fs f := by
  have hattempt {call : FileCall} (hsync : FileCall.sync ≠ call) (hclose : FileCall.close ≠ call) :
      ((flushed fs).attempt call).1 = (fs.attempt call).1 :=
    (attempt_fst_attempt hclose).trans (attempt_fst_attempt hsync)
  have hrename : ((flushed fs).rename f.temporary f.path).1 = (fs.rename f.temporary f.path).1 :=
    rename_fst_congr rfl (hattempt (by decide) (by decide))
  have hremove : ((flushed fs).remove f.path).1 = (fs.remove f.path).1 :=
    remove_fst_congr rfl (hattempt (by decide) (by decide))
  exact ⟨fun h ↦ ⟨hrename ▸ h.refused, hremove ▸ h.removed⟩,
    fun h ↦ ⟨hrename.symm ▸ h.refused, hremove.symm ▸ h.removed⟩⟩

/-- A commit does nothing if the replacement is done, drops the temporary file if it cannot be
flushed and closed, and otherwise moves it into place. -/
theorem commit_cases (fs : FileSystem) (f : AtomicFile) :
    (f.done = true ∧ commit fs f = (.error .done, f, fs)) ∨
    (f.done = false ∧ ¬((fs.attempt .sync).1 = none ∧ (fs.attempt .close).1 = none) ∧ ∃ fault,
      (commit fs f).1 = .error fault ∧ (commit fs f).2.2 = dropTemporary (flushed fs) f) ∨
    (f.done = false ∧ ((fs.attempt .sync).1 = none ∧ (fs.attempt .close).1 = none) ∧
      (commit fs f).1 = (moveIntoPlace (flushed fs) f).1 ∧
      (commit fs f).2.2 = (moveIntoPlace (flushed fs) f).2) := by
  have hclosing : ((fs.attempt .sync).2.attempt .close).1 = (fs.attempt .close).1 :=
    attempt_fst_attempt (by decide)
  rw [commit, flushed]
  by_cases hdone : f.done = true
  · exact .inl ⟨hdone, if_pos hdone⟩
  right
  rw [if_neg hdone]
  rw [Bool.not_eq_true] at hdone
  rcases hsync : fs.attempt .sync with ⟨_ | e, fs₁⟩
  · rw [hsync] at hclosing
    dsimp only
    rcases hclose : fs₁.attempt .close with ⟨_ | e, fs₂⟩
    · right
      refine ⟨hdone, ⟨rfl, ?_⟩, rfl, rfl⟩
      rw [← hclosing, hclose]
    · left
      refine ⟨hdone, ?_, _, rfl, rfl⟩
      rw [← hclosing, hclose]
      simp
  · exact .inl ⟨hdone, by simp, _, rfl, rfl⟩

/-! ### Every call is a stage -/

theorem isChain_moveStages (fs : FileSystem) (f : AtomicFile) :
    (fs :: moveStages fs f).IsChain (CommitCall f) := by
  rw [moveStages]
  split_ifs
  · exact .cons_cons .rename (.singleton _)
  · exact .cons_cons .rename (.cons_cons .clear (.cons_cons .rename (.singleton _)))
  · exact .cons_cons .rename (.cons_cons .clear (.cons_cons .rename
      (.cons_cons .drop (.singleton _))))

theorem isChain_commitStages (fs : FileSystem) (f : AtomicFile) :
    (fs :: commitStages fs f).IsChain (CommitCall f) := by
  rw [commitStages]
  split_ifs
  · exact .singleton _
  · exact .cons_cons .sync (.cons_cons .close (isChain_moveStages _ f))
  · exact .cons_cons .sync (.cons_cons .close (.cons_cons .drop (.singleton _)))

theorem getLast?_moveStages (fs : FileSystem) (f : AtomicFile) :
    (moveStages fs f).getLast? = some (moveIntoPlace fs f).2 := by
  rw [moveStages]
  obtain ⟨hrename, hmove⟩ | ⟨hrename, hagain, hmove⟩ | ⟨hrename, hagain, _, hmove⟩ :=
    moveIntoPlace_cases fs f
  · rw [if_pos hrename, hmove]
    rfl
  · rw [if_neg hrename, if_pos hagain, hmove]
    rfl
  · rw [if_neg hrename, if_neg hagain, hmove]
    rfl

/-- The last stage of a commit is the file system that it leaves. -/
theorem getLast?_commitStages (fs : FileSystem) (f : AtomicFile) :
    (fs :: commitStages fs f).getLast? = some (commit fs f).2.2 := by
  rw [commitStages]
  obtain ⟨hdone, hcommit⟩ | ⟨hdone, hnot, _, -, hcommit⟩ | ⟨hdone, hboth, -, hcommit⟩ :=
    commit_cases fs f
  · rw [if_pos hdone, hcommit]
    rfl
  · rw [if_neg (by simp [hdone]), if_neg hnot, hcommit]
    rfl
  · rw [if_neg (by simp [hdone]), if_pos hboth, hcommit]
    obtain ⟨stage, stages, hstages⟩ :
        ∃ stage stages, moveStages (flushed fs) f = stage :: stages := by
      rw [moveStages]
      split_ifs <;> exact ⟨_, _, rfl⟩
    rw [List.getLast?_cons_cons, List.getLast?_cons_cons, ← getLast?_moveStages, hstages,
      List.getLast?_cons_cons]

/-! ### What a commit does to its target -/

section
variable (h : f.done = false → Pending fs f)
include h

theorem sight_commitStages :
    ∀ stage ∈ commitStages fs f, Sight fs f (Displaced fs f) (stage.found? f.path) := by
  intro stage hstage
  rw [commitStages] at hstage
  split_ifs at hstage with hdone hboth
  · cases hstage
  · rw [Bool.not_eq_true] at hdone
    obtain rfl | hstage := List.mem_cons.mp hstage
    · exact .of_entries rfl
    obtain rfl | hstage := List.mem_cons.mp hstage
    · exact .of_entries rfl
    refine (sight_moveStages (h hdone).flushed stage hstage).mono rfl fun hclears ↦ ?_
    exact ⟨(clears_flushed fs f).mp hclears, hdone, hboth.1, hboth.2⟩
  · rw [Bool.not_eq_true] at hdone
    simp only [List.mem_cons, List.not_mem_nil, or_false] at hstage
    obtain rfl | rfl | rfl := hstage
    · exact .of_entries rfl
    · exact .of_entries rfl
    · rw [found?_dropTemporary (h hdone).flushed]
      exact .of_entries rfl

omit h in
/-- A displaced target holds something before the commit, and nothing in the middle of it. -/
theorem Displaced.exists_stage (hdisplaced : Displaced fs f) :
    (∃ e, fs.found? f.path = some e) ∧
      ∃ stage ∈ commitStages fs f, stage.found? f.path = none := by
  have hclears : Clears (flushed fs) f := (clears_flushed fs f).mpr hdisplaced.toClears
  refine ⟨hdisplaced.toClears.found?_cleared.1, cleared (flushed fs) f, ?_,
    hclears.found?_cleared.2⟩
  rw [commitStages, if_neg (by simp [hdisplaced.undone]),
    if_pos ⟨hdisplaced.synced, hdisplaced.closed⟩, moveStages, if_neg hclears.refused]
  refine List.mem_cons_of_mem _ (List.mem_cons_of_mem _ ?_)
  split_ifs <;> simp

/-- A commit that fails leaves the target as it was, unless it is displaced; then there is none. -/
theorem found?_commit_of_error {fault : AtomicError} (hfault : (commit fs f).1 = .error fault) :
    (commit fs f).2.2.found? f.path = fs.found? f.path ↔ ¬Displaced fs f := by
  obtain ⟨hdone, hcommit⟩ | ⟨hdone, hnot, _, -, hcommit⟩ | ⟨hdone, hboth, houtcome, hcommit⟩ :=
    commit_cases fs f
  · rw [hcommit]
    refine iff_of_true rfl fun hdisplaced ↦ ?_
    cases hdone.symm.trans hdisplaced.undone
  · rw [hcommit, found?_dropTemporary (h hdone).flushed, found?_flushed]
    exact iff_of_true rfl fun hdisplaced ↦ hnot ⟨hdisplaced.synced, hdisplaced.closed⟩
  · have hflushed : Pending (flushed fs) f := (h hdone).flushed
    obtain ⟨-, hmove⟩ | ⟨-, -, hmove⟩ | ⟨hrename, hagain, _, hmove⟩ :=
      moveIntoPlace_cases (flushed fs) f
    · rw [houtcome, hmove] at hfault
      cases hfault
    · rw [houtcome, hmove] at hfault
      cases hfault
    · obtain ⟨hentry, hcleared⟩ := cleared_spec hflushed hrename
      have hsame := entries_rename hagain
      have hpending : Pending ((cleared (flushed fs) f).rename f.temporary f.path).2 f :=
        hflushed.of_entry? ((entry?_congr hsame _).trans hentry)
      rw [hcommit, hmove, found?_dropTemporary hpending, found?_congr hsame]
      by_cases hclears : Clears fs f
      · refine iff_of_false ?_ fun hnot ↦ hnot ⟨hclears, hdone, hboth.1, hboth.2⟩
        obtain ⟨⟨e, he⟩, -⟩ := hclears.found?_cleared
        rw [((clears_flushed fs f).mpr hclears).found?_cleared.2, he]
        simp
      · refine iff_of_true ?_ fun hdisplaced ↦ hclears hdisplaced.toClears
        obtain hold | ⟨hflushedClears, -⟩ := hcleared
        · exact hold.trans (found?_flushed fs _)
        · exact absurd ((clears_flushed fs f).mp hflushedClears) hclears

/-- A commit that fails ends by removing the temporary file, and it is gone if it may be removed. -/
theorem exists_dropTemporary_of_error {fault : AtomicError}
    (hfault : (commit fs f).1 = .error fault) (hdone : f.done = false) :
    ∃ stage ∈ commitStages fs f, (commit fs f).2.2 = dropTemporary stage f ∧
      ((stage.attempt .remove).1 = none → FileSystem.entry? (commit fs f).2.2 f.temporary = none) := by
  have hgone {stage : FileSystem} (hstage : stage ∈ commitStages fs f)
      (hlast : (commit fs f).2.2 = dropTemporary stage f) :
      ∃ stage ∈ commitStages fs f, (commit fs f).2.2 = dropTemporary stage f ∧
        ((stage.attempt .remove).1 = none → FileSystem.entry? (commit fs f).2.2 f.temporary = none) :=
    ⟨stage, hstage, hlast, fun hpassed ↦
      hlast.symm ▸ entry?_dropTemporary (h hdone).ne_nil hpassed⟩
  obtain ⟨hdone', -⟩ | ⟨-, hnot, _, -, hcommit⟩ | ⟨-, hboth, houtcome, hcommit⟩ :=
    commit_cases fs f
  · cases hdone.symm.trans hdone'
  · refine hgone ?_ hcommit
    rw [commitStages, if_neg (by simp [hdone]), if_neg hnot]
    simp
  · obtain ⟨-, hmove⟩ | ⟨-, -, hmove⟩ | ⟨hrename, hagain, _, hmove⟩ :=
      moveIntoPlace_cases (flushed fs) f
    · rw [houtcome, hmove] at hfault
      cases hfault
    · rw [houtcome, hmove] at hfault
      cases hfault
    · rw [hmove] at hcommit
      refine hgone ?_ hcommit
      rw [commitStages, if_neg (by simp [hdone]), if_pos hboth, moveStages, if_neg hrename,
        if_neg hagain]
      simp

end

/-- A target that is not there is never displaced. -/
theorem not_displaced_of_absent (habsent : fs.found? f.path = none) : ¬Displaced fs f := by
  intro hdisplaced
  obtain ⟨⟨e, he⟩, -⟩ := hdisplaced.exists_stage
  cases habsent.symm.trans he

/-- A target that is a file is displaced when the disk refuses to rename the temporary file, or the
file is missing, while it can be flushed and closed and the target may be removed. -/
theorem displaced_iff_of_file {way : List String} {content : Text}
    (hloc : fs.locate f.path = .ok (.inside way, some (.file content mode))) :
    Displaced fs f ↔ f.done = false ∧ (fs.attempt .sync).1 = none ∧ (fs.attempt .close).1 = none ∧
      (fs.attempt .remove).1 = none ∧
        ((fs.attempt .rename).1 ≠ none ∨ fs.entry? f.temporary = none) := by
  have hlocated (call : FileCall) : (fs.attempt call).2.locate f.path =
      .ok (.inside way, some (.file content mode)) :=
    (locate_congr (show (fs.attempt call).2.entries = fs.entries from rfl) _).trans hloc
  have hremove : (fs.remove f.path).1 = none ↔ (fs.attempt .remove).1 = none := by
    have hafter := hlocated .remove
    rw [remove]
    rcases hattempt : fs.attempt .remove with ⟨_ | e, fs₁⟩
    · rw [hattempt] at hafter
      simp [hafter]
    · simp
  have hrename : (fs.rename f.temporary f.path).1 ≠ none ↔
      (fs.attempt .rename).1 ≠ none ∨ fs.entry? f.temporary = none := by
    have hafter := hlocated .rename
    have hentry := entry?_attempt fs .rename f.temporary
    rw [rename]
    rcases hattempt : fs.attempt .rename with ⟨_ | e, fs₁⟩
    · rw [hattempt] at hafter hentry
      rw [← hentry]
      rcases hfound : fs₁.entry? f.temporary with _ | e <;> simp [hafter, hfound]
    · simp
  constructor
  · intro h
    exact ⟨h.undone, h.synced, h.closed, hremove.mp h.removed, hrename.mp h.refused⟩
  · rintro ⟨hdone, hsync, hclose, hremoved, hrefused⟩
    exact ⟨⟨hrename.mpr hrefused, hremove.mpr hremoved⟩, hdone, hsync, hclose⟩

/-- **A commit, cut after any call.** Its stages are the file systems after one call each, from the
file system that it is given to the one that it leaves. At each of them a reader finds at the target
what was there, what was written to the temporary file, or nothing if the target is displaced. A
target that was there is there at every stage, and a commit that fails leaves the target as it was,
if and only if it is not displaced. A commit that fails ends by removing the temporary file. -/
theorem commit_stages (fs : FileSystem) (f : AtomicFile) (h : f.done = false → Pending fs f) :
    (fs :: commitStages fs f).IsChain (CommitCall f) ∧
      (fs :: commitStages fs f).getLast? = some (commit fs f).2.2 ∧
      (∀ stage ∈ commitStages fs f, Sight fs f (Displaced fs f) (stage.found? f.path)) ∧
      ((∀ stage ∈ commitStages fs f, stage.found? f.path = none → fs.found? f.path = none) ↔
        ¬Displaced fs f) ∧
      ∀ fault, (commit fs f).1 = .error fault →
        ((commit fs f).2.2.found? f.path = fs.found? f.path ↔ ¬Displaced fs f) ∧
          (f.done = false → ∃ stage ∈ commitStages fs f, (commit fs f).2.2 = dropTemporary stage f ∧
            ((stage.attempt .remove).1 = none →
              FileSystem.entry? (commit fs f).2.2 f.temporary = none)) := by
  refine ⟨isChain_commitStages fs f, getLast?_commitStages fs f, sight_commitStages h, ?_, ?_⟩
  · constructor
    · intro hkept hdisplaced
      obtain ⟨⟨e, he⟩, stage, hstage, hnone⟩ := hdisplaced.exists_stage
      cases (hkept stage hstage hnone).symm.trans he
    · intro hnot stage hstage hnone
      have hsight := sight_commitStages h stage hstage
      rw [hnone] at hsight
      exact hsight.of_none.resolve_right hnot
  · intro fault hfault
    exact ⟨found?_commit_of_error h hfault, exists_dropTemporary_of_error h hfault⟩

/-- A disk on which nothing can be renamed, with a file and the temporary file of its
replacement. -/
def stuckDisk : FileSystem where
  entries := [(["a"], .file (Text.ofString "old") fileMode),
    ([".a.tmp-1"], .file (Text.ofString "new") fileMode)]
  refusal? call _ := if call = .rename then some .failed else none

/-- The replacement of the file. -/
def stuckReplacement : AtomicFile where
  path := "a"
  temporary := [".a.tmp-1"]
  shownName := "./.a.tmp-*"

/-- The replacement fails, and the file is lost. -/
theorem target_lost_stuckDisk :
    stuckDisk.found? "a" = some (.file (Text.ofString "old") fileMode) ∧
      (commit stuckDisk stuckReplacement).1 =
        .error (.rename ⟨"rename", ["./.a.tmp-*", "a"], .failed⟩) ∧
      (commit stuckDisk stuckReplacement).2.2.found? "a" ≠ stuckDisk.found? "a" ∧
      ∃ stage ∈ commitStages stuckDisk stuckReplacement, stage.found? "a" = none := by
  have hwritten : stuckDisk.entry? stuckReplacement.temporary =
      some (.file (Text.ofString "new") fileMode) := by decide +kernel
  have hpending : Pending stuckDisk stuckReplacement :=
    ⟨⟨[], "1", by decide +kernel⟩, by simp [hwritten]⟩
  have hlocate : stuckDisk.locate "a" =
      .ok (.inside ["a"], some (.file (Text.ofString "old") fileMode)) := by decide +kernel
  have hdisplaced : Displaced stuckDisk stuckReplacement :=
    (displaced_iff_of_file hlocate).mpr (by decide +kernel)
  have herror : (commit stuckDisk stuckReplacement).1 =
      .error (.rename ⟨"rename", ["./.a.tmp-*", "a"], .failed⟩) := by decide +kernel
  obtain ⟨-, -, -, -, hfailed⟩ := commit_stages stuckDisk stuckReplacement fun _ ↦ hpending
  obtain ⟨hleft, -⟩ := hfailed _ herror
  exact ⟨found?_eq_some.mpr ⟨_, hlocate⟩, herror, fun hsame ↦ hleft.mp hsame hdisplaced,
    hdisplaced.exists_stage.2⟩

end AtomicFile

end PathQuery
