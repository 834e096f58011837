import PathQuery.Proofs.Files.Way

/-!
# Replacements under any requests

A replacement is asked to write, to commit and to abort, in any order and any number of times. What
comes of it is settled by the first request that is not to write: until then everything that was
written is in the temporary file, and a reader of the target sees what was there. That request
publishes all of it or drops it, and all later requests change nothing.

This is an invariant with two phases. While a replacement is *underway* its temporary file holds
what was written, and no other entry has changed. When it is *over* there is no temporary file, and
no other entry has changed but that of a target that has been published.
-/

namespace PathQuery

namespace AtomicFile

open FileSystem

variable {fs fs₀ fs' : FileSystem} {f : AtomicFile} {path : String} {mode m : ℕ}
  {way : List String} {old shown : Option Entry} {data : Text}

/-! ## Requests -/

/-- What a replacement is asked to do. -/
inductive Request where
  /-- To write bytes. -/
  | write (data : Text)
  /-- To write the bytes of a string. -/
  | writeString (data : Text)
  /-- To put what was written in place. -/
  | commit
  /-- To drop what was written. -/
  | abort
  deriving DecidableEq, Repr

/-- What is answered. -/
inductive Reply where
  /-- How many bytes have been written. -/
  | written (outcome : Except AtomicError ℕ)
  /-- Whether what was written is in place. -/
  | committed (outcome : Except AtomicError Unit)
  /-- Nothing. -/
  | aborted

/-- The answer to a request that goes through. -/
def Request.accepted : Request → Reply
  | .write data | .writeString data => .written (.ok data.bytes.length)
  | .commit => .committed (.ok ())
  | .abort => .aborted

/-- The answer to a request that comes too late. -/
def Request.refused : Request → Reply
  | .write _ | .writeString _ => .written (.error .done)
  | .commit => .committed (.error .done)
  | .abort => .aborted

/-- A replacement with the file system that it is made in. -/
structure Replacement where
  /-- The replacement. -/
  file : AtomicFile
  /-- The file system. -/
  disk : FileSystem

namespace Replacement

/-- Answers a request. -/
def respond (s : Replacement) : Request → Reply × Replacement
  | .write data | .writeString data =>
    let (outcome, disk) := write s.disk s.file data
    (.written outcome, { s with disk })
  | .commit =>
    let (outcome, file, disk) := commit s.disk s.file
    (.committed outcome, ⟨file, disk⟩)
  | .abort =>
    let (file, disk) := abort s.disk s.file
    (.aborted, ⟨file, disk⟩)

/-- The replacement after requests. -/
def after (s : Replacement) (requests : List Request) : Replacement :=
  requests.foldl (fun s r ↦ (s.respond r).2) s

end Replacement

/-- What has become of a replacement. -/
inductive Outcome where
  /-- It may be written to. -/
  | pending
  /-- It has been committed. -/
  | committed
  /-- It has been aborted. -/
  | aborted
  deriving DecidableEq, Repr

/-- What becomes of a replacement is settled by the first request that is not to write. -/
def outcome : List Request → Outcome
  | [] => .pending
  | .commit :: _ => .committed
  | .abort :: _ => .aborted
  | .write _ :: requests | .writeString _ :: requests => outcome requests

/-- What is written before a replacement is committed or aborted. -/
def written : List Request → Text
  | .write data :: requests | .writeString data :: requests => data ++ written requests
  | _ => ⟨[]⟩

/-! ## Targets -/

/-- A target that a temporary file can be renamed to: a place inside, with a file or nothing. -/
structure Replaceable (fs : FileSystem) (f : AtomicFile) (way : List String) (old : Option Entry) :
    Prop where
  /-- The replacement is pending. -/
  pending : Pending fs f
  /-- Where the target is. -/
  located : fs.locate f.path = .ok (.inside way, old)
  /-- It is no directory. -/
  notDirectory : ∀ m, old ≠ some (.directory m)
  /-- Its name is not that of a directory. -/
  notSlash : f.path.toList.getLast? ≠ some '/'

namespace Replaceable

variable (h : Replaceable fs₀ f way old)
include h

theorem ne_temporary : way ≠ f.temporary := by
  rintro rfl
  exact h.pending.apart _ h.located

theorem entry_eq : fs₀.entry? way = old := entry?_of_locate h.located

theorem ne_nil : way ≠ [] := by
  rintro rfl
  exact h.notDirectory _ h.entry_eq.symm

/-- The target stays where it is when no other entry than its own and that of the temporary file
changes. -/
theorem locate (hothers : ∀ k, k ≠ f.temporary → k ≠ way → fs'.entry? k = fs₀.entry? k)
    (htarget : fs'.entry? way = shown) (hkept : old.isSome → shown.isSome) :
    fs'.locate f.path = .ok (.inside way, shown) := by
  have hdirectories : KeepsDirectories fs₀ fs' := {
    directory := fun k m hk ↦ by
      have hne : k ≠ f.temporary := by
        rintro rfl
        exact h.pending.notDirectory m hk
      have hne' : k ≠ way := by
        rintro rfl
        exact h.notDirectory m (h.entry_eq.symm.trans hk)
      rwa [hothers k hne hne']
    root := fun hsome ↦ by
      by_cases hroot : [rootComponent] = way
      · rw [hroot, htarget]
        rw [hroot, h.entry_eq] at hsome
        exact hkept hsome
      · rwa [hothers _ h.pending.ne_root.symm hroot] }
  rw [← htarget]
  exact hdirectories.locate h.located fun hends ↦ absurd (by simpa using hends) h.notSlash

end Replaceable

/-- A target that can be renamed to when a replacement has started is replaceable. -/
theorem exists_replaceable (hcreate : create fs path mode = (.ok f, fs₀))
    (hrename : (fs₀.rename f.temporary path).1 = none) :
    ∃ way old, Replaceable fs₀ f way old := by
  obtain ⟨rfl, -⟩ := create_eq_ok hcreate
  have hsame : (fs₀.attempt .rename).2.entries = fs₀.entries := rfl
  rw [rename] at hrename
  split at hrename
  · cases hrename
  next fs₁ hpassed =>
  rw [hpassed] at hsame
  split at hrename <;> try cases hrename
  next way old e hnot hloc hentry =>
  rw [locate_congr hsame] at hloc
  have hold : ∀ m, old ≠ some (.directory m) := fun m hm ↦ hnot m hm
  exact ⟨way, old, pending_of_create hcreate, hloc, hold,
    getLast?_ne_slash_of_create hcreate hloc hold⟩

/-! ## Phases -/

/-- A replacement is underway: what was written is in the temporary file, and nothing else has
changed. -/
structure Underway (fs₀ : FileSystem) (f : AtomicFile) (data : Text) (m : ℕ) (s : Replacement) :
    Prop where
  /-- It is the replacement that was started. -/
  file : s.file = f
  /-- It takes requests. -/
  undone : f.done = false
  /-- No call is refused. -/
  willing : ∀ call n, s.disk.refusal? call n = none
  /-- What was written. -/
  temporary : s.disk.entry? f.temporary = some (.file data m)
  /-- Nothing else has changed. -/
  others : ∀ k, k ≠ f.temporary → s.disk.entry? k = fs₀.entry? k

/-- A replacement is over: there is no temporary file, and nothing else has changed but the
target. -/
structure Over (fs₀ : FileSystem) (f : AtomicFile) (way : List String) (shown : Option Entry)
    (s : Replacement) : Prop where
  /-- It takes no requests. -/
  done : s.file.done = true
  /-- There is no temporary file. -/
  temporary : s.disk.entry? f.temporary = none
  /-- What is at the target. -/
  target : s.disk.entry? way = shown
  /-- Nothing else has changed. -/
  others : ∀ k, k ≠ f.temporary → k ≠ way → s.disk.entry? k = fs₀.entry? k

/-- A file is renamed over a target that may be replaced. -/
theorem rename_eq_of_located {source : List String} {e : Entry}
    (hpassed : (fs.attempt .rename).1 = none) (hloc : fs.locate path = .ok (.inside way, old))
    (hold : ∀ m, old ≠ some (.directory m)) (hsource : fs.entry? source = some e) :
    fs.rename source path = (none, ((fs.attempt .rename).2.erase source).put way e) := by
  have hloc' : (fs.attempt .rename).2.locate path = .ok (.inside way, old) :=
    (locate_congr (show (fs.attempt .rename).2.entries = fs.entries from rfl) path).trans hloc
  have hsource' : FileSystem.entry? (fs.attempt .rename).2 source = some e := hsource
  rw [rename]
  rcases hattempt : fs.attempt .rename with ⟨_ | fault, fs₁⟩
  · rw [hattempt] at hloc' hsource'
    rcases old with _ | ⟨content, m⟩ | m
    · simp [hloc', hsource']
    · simp [hloc', hsource']
    · exact absurd rfl (hold m)
  · rw [hattempt] at hpassed
    cases hpassed

/-! ### Steps -/

theorem done_commit (fs : FileSystem) (f : AtomicFile) : (commit fs f).2.1.done = true := by
  rw [commit]
  split_ifs with hdone
  · exact hdone
  · dsimp only
    split
    · rfl
    · split <;> rfl

/-- A temporary file is discarded where nothing is refused. -/
theorem discard_eq (h : ∀ call n, fs.refusal? call n = none) (f : AtomicFile) :
    discard fs f = ((fs.attempt .close).2.attempt .remove).2.erase f.temporary := by
  have hpassed : ((fs.attempt .close).2.attempt .remove).1 = none := h .remove _
  rw [discard, dropTemporary]
  rcases hattempt : (fs.attempt .close).2.attempt .remove with ⟨_ | fault, fs₁⟩
  · rfl
  · rw [hattempt] at hpassed
    cases hpassed

section
variable {s : Replacement} (h : Underway fs₀ f data m s)
include h

/-- What is written goes to the end of what was written. -/
theorem Underway.write (more : Text) :
    (AtomicFile.write s.disk s.file more).1 = .ok more.bytes.length ∧
      Underway fs₀ f (data ++ more) m ⟨s.file, (AtomicFile.write s.disk s.file more).2⟩ := by
  obtain ⟨rfl, hundone, hwilling, htemporary, hothers⟩ := h
  have hwrite : AtomicFile.write s.disk s.file more = (.ok more.bytes.length,
      (s.disk.attempt .write).2.put s.file.temporary (.file (data ++ more) m)) := by
    have hpassed : (s.disk.attempt .write).1 = none := hwilling .write _
    have hfile : FileSystem.entry? (s.disk.attempt .write).2 s.file.temporary =
        some (.file data m) := htemporary
    rw [AtomicFile.write, if_neg (by simp [hundone])]
    rcases hattempt : s.disk.attempt .write with ⟨_ | fault, fs₁⟩
    · rw [hattempt] at hfile
      simp [FileSystem.append, hfile]
    · rw [hattempt] at hpassed
      cases hpassed
  rw [hwrite]
  refine ⟨rfl, rfl, hundone, hwilling, entry?_put_self _ (ne_nil_of_entry?_file htemporary) _,
    fun k hk ↦ ?_⟩
  exact (entry?_put_of_ne _ hk _).trans (hothers k hk)

/-- A commit puts what was written in place of the target. -/
theorem Underway.commit (htarget : Replaceable fs₀ f way old) :
    (AtomicFile.commit s.disk s.file).1 = .ok () ∧
      Over fs₀ f way (some (.file data m))
        ⟨(AtomicFile.commit s.disk s.file).2.1, (AtomicFile.commit s.disk s.file).2.2⟩ := by
  obtain ⟨rfl, hundone, hwilling, htemporary, hothers⟩ := h
  have hloc : (flushed s.disk).locate s.file.path = .ok (.inside way, old) :=
    htarget.locate (fun k hk _ ↦ hothers k hk) ((hothers way htarget.ne_temporary).trans
      htarget.entry_eq) id
  have hpassed : ((flushed s.disk).attempt .rename).1 = none := hwilling .rename _
  have hrename := rename_eq_of_located hpassed hloc htarget.notDirectory htemporary
  have hmove := (moveIntoPlace_cases (flushed s.disk) s.file).resolve_right (by simp [hrename])
  obtain ⟨hdone, -⟩ | ⟨-, hnot, -⟩ | ⟨-, -, houtcome, hdisk⟩ := commit_cases s.disk s.file
  · cases hdone.symm.trans hundone
  · exact absurd ⟨hwilling _ _, hwilling _ _⟩ hnot
  rw [houtcome, hdisk, hmove.2, hrename]
  have hne := htarget.ne_temporary
  refine ⟨rfl, done_commit _ _, ?_, entry?_put_self _ htarget.ne_nil _, fun k hk hk' ↦ ?_⟩
  · rw [entry?_put_of_ne _ hne.symm]
    exact entry?_erase_self _ htarget.pending.ne_nil
  · rw [entry?_put_of_ne _ hk', entry?_erase_of_ne _ hk]
    exact hothers k hk

/-- An abort leaves the target as it is. -/
theorem Underway.abort (htarget : Replaceable fs₀ f way old) :
    Over fs₀ f way old
      ⟨(AtomicFile.abort s.disk s.file).1, (AtomicFile.abort s.disk s.file).2⟩ := by
  obtain ⟨rfl, hundone, hwilling, htemporary, hothers⟩ := h
  have hne := htarget.ne_temporary
  rw [AtomicFile.abort, if_neg (by simp [hundone]), discard_eq hwilling]
  refine ⟨rfl, entry?_erase_self _ htarget.pending.ne_nil, ?_, fun k hk _ ↦ ?_⟩
  · exact (entry?_erase_of_ne _ hne).trans ((hothers way hne).trans htarget.entry_eq)
  · exact (entry?_erase_of_ne _ hk).trans (hothers k hk)

end

/-- A replacement that is over answers that it is done, and stays as it is. -/
theorem Replacement.respond_of_done {s : Replacement} (h : s.file.done = true) (r : Request) :
    s.respond r = (r.refused, s) := by
  cases r with
  | write data | writeString data => rw [respond, AtomicFile.write, if_pos h]; rfl
  | commit => rw [respond, AtomicFile.commit, if_pos h]; rfl
  | abort => rw [respond, AtomicFile.abort, if_pos h]; rfl

/-! ### Runs -/

theorem Replacement.after_of_done {s : Replacement} (h : s.file.done = true)
    (requests : List Request) : s.after requests = s := by
  induction requests with
  | nil => rfl
  | cons r requests ih =>
    rw [after, List.foldl_cons, respond_of_done h r]
    exact ih

/-- A run leaves a replacement underway, with all that was written, or over. -/
theorem Underway.after {s : Replacement} (h : Underway fs₀ f data m s)
    (htarget : Replaceable fs₀ f way old) (requests : List Request) :
    match outcome requests with
    | .pending => Underway fs₀ f (data ++ written requests) m (s.after requests)
    | .committed => Over fs₀ f way (some (.file (data ++ written requests) m)) (s.after requests)
    | .aborted => Over fs₀ f way old (s.after requests) := by
  induction requests generalizing data s with
  | nil =>
    have hsame : data ++ written [] = data := congrArg Text.mk (List.append_nil _)
    rw [hsame]
    exact h
  | cons r requests ih =>
    cases r with
    | write more | writeString more =>
      have hwritten : data ++ (more ++ written requests) = data ++ more ++ written requests :=
        congrArg Text.mk (List.append_assoc _ _ _).symm
      rw [outcome, written, hwritten]
      exact ih (h.write more).2
    | commit =>
      have hover := (h.commit htarget).2
      have hsame : data ++ written (.commit :: requests) = data :=
        congrArg Text.mk (List.append_nil _)
      rw [hsame]
      exact (Replacement.after_of_done hover.done requests).symm ▸ hover
    | abort =>
      have hover := h.abort htarget
      exact (Replacement.after_of_done hover.done requests).symm ▸ hover

/-! ## Publication -/

theorem Underway.respond {s : Replacement} (h : Underway fs₀ f data m s)
    (htarget : Replaceable fs₀ f way old) (r : Request) : (s.respond r).1 = r.accepted := by
  cases r with
  | write more | writeString more => exact congrArg Reply.written (h.write more).1
  | commit => exact congrArg Reply.committed (h.commit htarget).1
  | abort => rfl

theorem found?_of_locate (h : fs.locate path = .ok (.inside way, shown)) :
    fs.found? path = shown := by
  rw [found?, h]

section
variable {s : Replacement} (h : Over fs₀ f way shown s) (htarget : Replaceable fs₀ f way old)
  (hkept : old.isSome → shown.isSome)
include h htarget hkept

theorem Over.locate : s.disk.locate f.path = .ok (.inside way, shown) :=
  htarget.locate h.others h.target hkept

/-- A file that is left is the target, or it was there before the replacement was started. -/
theorem Over.file (hcreate : create fs path mode = (.ok f, fs₀)) {k : List String} {content : Text}
    (hentry : s.disk.entry? k = some (.file content m)) :
    fs.entry? k = some (.file content m) ∨
      s.disk.locate f.path = .ok (.inside k, some (.file content m)) := by
  by_cases hk : k = way
  · right
    rw [h.locate htarget hkept, ← h.target, ← hk, hentry]
  · left
    have hne : k ≠ f.temporary := by
      rintro rfl
      cases h.temporary.symm.trans hentry
    rw [h.others k hne hk] at hentry
    obtain hbefore | ⟨hdirectory, -⟩ := (place_of_create hcreate).2.2 hne hentry
    · exact hbefore
    · cases hdirectory

/-- A replacement that is over shows what is at the target, and is over for good. -/
theorem Over.final (hcreate : create fs path mode = (.ok f, fs₀)) :
    s.disk.found? f.path = shown ∧ (∀ r, (s.respond r).1 = r.refused) ∧
      (∀ r, (s.respond r).2 = s) ∧ s.disk.entry? f.temporary = none ∧
      ∀ k content m, s.disk.entry? k = some (.file content m) →
        fs.entry? k = some (.file content m) ∨
          s.disk.locate f.path = .ok (.inside k, some (.file content m)) := by
  have hanswers := Replacement.respond_of_done h.done
  exact ⟨found?_of_locate (h.locate htarget hkept), fun r ↦ congrArg Prod.fst (hanswers r),
    fun r ↦ congrArg Prod.snd (hanswers r), h.temporary, fun _ _ _ ↦ h.file htarget hkept hcreate⟩

end

/-- **A replacement publishes all of its writes or none.** Whatever is asked of a replacement, on a
file system where no call is refused and the target can be renamed to: as long as it has not been
committed a reader of the target finds what was there before the replacement was started. When it
has been committed before it is aborted, there is a file of all bytes that were written before, in
order. Requests go through until one commits or aborts it. From then on all are refused and change
nothing; the temporary file is gone, and every file that is left is the target or was there
before. -/
theorem publishes_all_or_none (hfs : fs.Grounded) (hcreate : create fs path mode = (.ok f, fs₀))
    (hwilling : ∀ call n, fs₀.refusal? call n = none)
    (hrename : (fs₀.rename f.temporary path).1 = none) (requests : List Request) :
    let s := Replacement.after ⟨f, fs₀⟩ requests
    s.disk.found? path = (if outcome requests = .committed then
        some (.file (written requests) (finalMode fs path mode)) else fs.found? path) ∧
      (∀ r, (s.respond r).1 = if outcome requests = .pending then r.accepted else r.refused) ∧
      (outcome requests ≠ .pending →
        (∀ r, (s.respond r).2 = s) ∧ s.disk.entry? f.temporary = none ∧
          ∀ way content m, s.disk.entry? way = some (.file content m) →
            fs.entry? way = some (.file content m) ∨
              s.disk.locate path = .ok (.inside way, some (.file content m))) := by
  intro s
  obtain ⟨way, old, htarget⟩ := exists_replaceable hcreate hrename
  obtain ⟨rfl, hundone, -, hempty, -⟩ := create_eq_ok hcreate
  have hfound : fs₀.found? f.path = old := found?_of_locate htarget.located
  have hold : old = fs.found? f.path := by
    rw [← found?_of_create hfs hcreate (hfound ▸ htarget.notDirectory), hfound]
  have hstart : Underway fs₀ f ⟨[]⟩ (finalMode fs f.path mode) ⟨f, fs₀⟩ :=
    ⟨rfl, hundone, hwilling, hempty, fun _ _ ↦ rfl⟩
  have hrun := hstart.after htarget requests
  cases houtcome : outcome requests with
  | pending =>
    rw [houtcome] at hrun
    have hsame := hrun.others way htarget.ne_temporary
    have hloc := htarget.locate (fun k hk _ ↦ hrun.others k hk) (hsame.trans htarget.entry_eq) id
    exact ⟨(found?_of_locate hloc).trans hold, hrun.respond htarget, fun hnot ↦ absurd rfl hnot⟩
  | committed =>
    rw [houtcome] at hrun
    obtain ⟨hshown, hrefused, hfinal⟩ := hrun.final htarget (fun _ ↦ rfl) hcreate
    exact ⟨hshown, hrefused, fun _ ↦ hfinal⟩
  | aborted =>
    rw [houtcome] at hrun
    obtain ⟨hshown, hrefused, hfinal⟩ := hrun.final htarget id hcreate
    exact ⟨hshown.trans hold, hrefused, fun _ ↦ hfinal⟩

/-- A disk with a file in a directory. -/
def oneFile : FileSystem where
  entries := [(["d"], .directory directoryMode), (["d", "a"], .file (Text.ofString "old") 0o600)]

/-- Two writes to a replacement of the file. -/
def twoWrites : List Request := [.write (Text.ofString "ne"), .writeString (Text.ofString "w")]

/-- Two writes are published together by the commit behind them, whatever is asked for after it. -/
theorem published_oneFile : ∃ f fs₀, create oneFile "d/./a" 0 = (.ok f, fs₀) ∧
    (Replacement.after ⟨f, fs₀⟩ twoWrites).disk.found? "d/./a" =
      some (.file (Text.ofString "old") 0o600) ∧
    (Replacement.after ⟨f, fs₀⟩
        (twoWrites ++ [.commit, .abort, .write ⟨[0]⟩])).disk.found? "d/./a" =
      some (.file (Text.ofString "new") 0o600) ∧
    (Replacement.after ⟨f, fs₀⟩ (twoWrites ++ [.abort, .commit])).disk.found? "d/./a" =
      some (.file (Text.ofString "old") 0o600) := by
  have hcreate : create oneFile "d/./a" 0 =
      (.ok ⟨"d/./a", ["d", ".a.tmp-1111111110"], "d/.a.tmp-*", false⟩,
        (create oneFile "d/./a" 0).2) :=
    Prod.ext (by decide +kernel) rfl
  have hold : oneFile.found? "d/./a" = some (.file (Text.ofString "old") 0o600) := by decide +kernel
  have hpublishes := publishes_all_or_none (grounded_of_entries (by decide +kernel)) hcreate
    (fun _ _ ↦ rfl) (by decide +kernel)
  refine ⟨_, _, hcreate, ?_, ?_, ?_⟩
  · exact (hpublishes twoWrites).1.trans hold
  · refine (hpublishes (twoWrites ++ [Request.commit, Request.abort, Request.write ⟨[0]⟩])).1.trans ?_
    decide +kernel
  · refine (hpublishes (twoWrites ++ [Request.abort, Request.commit])).1.trans ?_
    exact hold

end AtomicFile

end PathQuery
