import PathQuery.Config.Basic
import PathQuery.Proofs.Compile.Run
import PathQuery.Proofs.Config.Codec
import PathQuery.Proofs.Files.PathName
import PathQuery.Proofs.Files.Replacement
import PathQuery.Proofs.Text.Glyphs

/-!
# Loading what was saved

A configuration is loaded from a file that a name leads to, and saving replaces that file at once
by the document of the configuration. So what is loaded from there is the configuration that was
saved, as far as the document is read back, with one difference: the path of the topology is told
from the directory of the file.

Loading a configuration tells the path of the topology from the directory of the file. A path that
has been told so is no longer the one the file gives, and if it is written back it is told from the
directory once more. It comes back to itself, however often that is done, in three cases only: there
is no path, it is told from the root, or the directory leads up as far as down and the path starts
by going up as far. So it does for every configuration file that is told from the root, and for one
in the working directory.
-/

namespace PathQuery.Config

open PathName

variable {path schema : String} {way : List String}

/-! ## Telling a path once -/

theorem resolveSchema_of_relative (hne : schema ≠ "") (hrelative : isAbsolute schema = false) :
    resolveSchema path schema = join [directory path, schema] := by
  rw [resolveSchema, if_pos (by simp [hne, hrelative])]

/-- A path that is missing or told from the root is left as it is. -/
theorem resolveSchema_eq_self (h : schema = "" ∨ isAbsolute schema = true) :
    resolveSchema path schema = schema := by
  rw [resolveSchema, if_neg]
  obtain rfl | h := h
  · simp
  · simp [h]

/-- From a file that is told from the root every path is. -/
theorem isAbsolute_resolveSchema (hpath : isAbsolute path = true) (hne : schema ≠ "") :
    isAbsolute (resolveSchema path schema) = true := by
  cases hschema : isAbsolute schema with
  | true => rwa [resolveSchema_eq_self (.inr hschema)]
  | false =>
    rw [resolveSchema_of_relative hne hschema, join_pair (directory_ne_empty path) hne,
      isAbsolute_clean, String.append_assoc, isAbsolute_append (directory_ne_empty path),
      isAbsolute_directory, hpath]

/-- A path that is spelled out is told from a directory by climbing. -/
theorem resolveSchema_spell (hpath : isAbsolute path = false) (h : Settled way) :
    resolveSchema path (spell way) = spell (climb (wayOf (directory path)) way) := by
  rw [resolveSchema_of_relative (spell_ne_empty h) (isAbsolute_spell h),
    join_of_relative ((isAbsolute_directory path).trans hpath) (directory_ne_empty path)
      (spell_ne_empty h), foldl_follow_spell h]

/-- What telling a path from a file comes to: a path that stays as it is, or one that is spelled
out. -/
theorem resolveSchema_cases (path schema : String) :
    (resolveSchema path schema = "" ∨ isAbsolute (resolveSchema path schema) = true) ∨
      isAbsolute path = false ∧ ∃ way, Settled way ∧ resolveSchema path schema = spell way := by
  by_cases hne : schema = ""
  · rw [hne, resolveSchema_eq_self (.inl rfl)]
    exact .inl (.inl rfl)
  cases hpath : isAbsolute path with
  | true => exact .inl (.inr (isAbsolute_resolveSchema hpath hne))
  | false =>
    cases hschema : isAbsolute schema with
    | true =>
      rw [resolveSchema_eq_self (.inr hschema)]
      exact .inl (.inr hschema)
    | false =>
      refine .inr ⟨rfl, (components schema).foldl (follow false) (wayOf (directory path)), ?_, ?_⟩
      · exact (settled_wayOf _).foldl_follow fun _ hc ↦ isComponent_of_mem hc
      · rw [resolveSchema_of_relative hne hschema,
          join_of_relative ((isAbsolute_directory path).trans hpath) (directory_ne_empty path) hne]

/-- Telling a path brings in no characters but slashes and points. -/
theorem madeOf_resolveSchema {P : Char → Prop} (hslash : P '/') (hdot : P '.') (hpath : MadeOf P path)
    (h : MadeOf P schema) : MadeOf P (resolveSchema path schema) := by
  by_cases hfixed : schema = "" ∨ isAbsolute schema = true
  · rwa [resolveSchema_eq_self hfixed]
  rw [not_or, Bool.not_eq_true] at hfixed
  have hbetween : MadeOf P "/" := by simpa [MadeOf] using hslash
  rw [resolveSchema_of_relative hfixed.1 hfixed.2, join_pair (directory_ne_empty path) hfixed.1]
  exact (((hpath.directory hslash hdot).append hbetween).append h).clean hslash hdot

/-! ## Telling a path over and over -/

/-- Whether telling a path from the directory of a configuration file leaves it as it is: there is
none, it is told from the root, or the directory leads up as far as down and the path starts by
going up as far. -/
def IsSteady (path schema : String) : Prop :=
  schema = "" ∨ isAbsolute schema = true ∨
    rise (wayOf (directory path)) = 0 ∧
      (wayOf (directory path)).count ".." ≤ (wayOf schema).count ".."

instance (path schema : String) : Decidable (IsSteady path schema) :=
  inferInstanceAs (Decidable (_ ∨ _ ∨ _ ∧ _))

/-- A path that a file gives, once it is told from the directory of the file, comes back to itself
after being told so again and again exactly if it is steady. -/
theorem iterate_resolveSchema_eq_self_iff (path schema : String) (n : ℕ) :
    (resolveSchema path)^[n + 1] (resolveSchema path schema) = resolveSchema path schema ↔
      IsSteady path (resolveSchema path schema) := by
  obtain hfixed | ⟨hpath, way, hway, hspelled⟩ := resolveSchema_cases path schema
  · have hsteady : IsSteady path (resolveSchema path schema) := hfixed.imp_right .inl
    exact iff_of_true (Function.iterate_fixed (resolveSchema_eq_self hfixed) (n + 1)) hsteady
  · have hsettled := settled_wayOf (directory path)
    -- telling a path that is spelled out is climbing along its way
    have hclimb (n : ℕ) : Settled ((climb (wayOf (directory path)))^[n] way) ∧
        (resolveSchema path)^[n] (spell way) = spell ((climb (wayOf (directory path)))^[n] way) := by
      induction n with
      | zero => exact ⟨hway, rfl⟩
      | succ n ih =>
        obtain ⟨hclimbed, htold⟩ := ih
        rw [Function.iterate_succ_apply', Function.iterate_succ_apply', htold,
          resolveSchema_spell hpath hclimbed]
        exact ⟨hsettled.climb hclimbed, rfl⟩
    obtain ⟨hclimbed, htold⟩ := hclimb (n + 1)
    rw [hspelled, htold, spell_inj hclimbed hway, iterate_climb_eq_self_iff hsettled hway, IsSteady,
      wayOf_spell hway, isAbsolute_spell hway]
    simp [spell_ne_empty hway]

/-- Where the configuration file is told from the root, every path that is loaded is steady. -/
theorem isSteady_of_isAbsolute (hpath : isAbsolute path = true) (schema : String) :
    IsSteady path (resolveSchema path schema) := by
  by_cases hne : schema = ""
  · rw [hne, resolveSchema_eq_self (.inl rfl)]
    exact .inl rfl
  · exact .inr (.inl (isAbsolute_resolveSchema hpath hne))

/-- Where the configuration file is in the working directory, every path is steady. -/
theorem isSteady_of_directory_eq_dot (hpath : directory path = ".") (schema : String) :
    IsSteady path schema := by
  have hnowhere : wayOf (directory path) = [] := by
    rw [hpath, wayOf, components_dot]
    exact follow_dot []
  refine .inr (.inr ?_)
  rw [hnowhere]
  exact ⟨rfl, Nat.zero_le _⟩

end PathQuery.Config

namespace PathQuery

namespace FileSystem

variable {fs : FileSystem} {path : String}

theorem locate_of_lookup {e : Entry} (h : fs.lookup path = .ok e) :
    ∃ place, fs.locate path = .ok (place, some e) := by
  rw [lookup] at h
  rcases hlocate : fs.locate path with _ | ⟨place, _ | e'⟩ <;> rw [hlocate] at h <;> cases h
  exact ⟨place, rfl⟩

theorem lookup_of_locate {place : Place} {e : Entry} (h : fs.locate path = .ok (place, some e)) :
    fs.lookup path = .ok e := by
  rw [lookup, h]
  rfl

/-- What can be read is the content of a file below the working directory. -/
theorem read_eq_ok {text : String} :
    fs.read path = .ok text ↔
      ∃ way content mode, fs.locate path = .ok (.inside way, some (.file content mode)) ∧
        text = content.scrub := by
  rw [read]
  constructor
  · intro h
    split at h
    · cases h
    · cases h
    · next content mode hlookup =>
      cases h
      obtain ⟨place, hlocate⟩ := locate_of_lookup hlookup
      cases place with
      | inside way => exact ⟨way, content, mode, hlocate, rfl⟩
      | outside => cases (locate_eq_ok.mp hlocate).2.2.2.1
  · rintro ⟨way, content, mode, hlocate, rfl⟩
    rw [lookup_of_locate hlocate]

end FileSystem

namespace Config

variable {fs fs' : FileSystem} {path : String} {c d : Config}

/-! ## Loading -/

/-- A configuration with the path of its topology told from the directory of a file. -/
def relocate (path : String) (c : Config) : Config :=
  { c with schema := resolveSchema path c.schema }

/-- What is loaded is the configuration of the text of a file, relocated, if it can be used; the
path of the topology is no matter of that. -/
theorem load_eq_ok :
    load fs path = .ok c ↔
      ∃ text d, fs.read path = .ok text ∧ parse? text = some d ∧ d.validate = .ok () ∧
        c = d.relocate path := by
  rw [load, bind_eq_ok_iff]
  simp only [mapError_eq_ok_iff]
  constructor
  · rintro ⟨text, hread, h⟩
    split at h
    · cases h
    · next d hparse =>
      obtain ⟨_, hvalid, h⟩ := bind_eq_ok_iff.mp h
      cases h
      exact ⟨text, d, hread, hparse, mapError_eq_ok_iff.mp hvalid, rfl⟩
  · rintro ⟨text, d, hread, hparse, hvalid, rfl⟩
    refine ⟨text, hread, ?_⟩
    rw [hparse]
    exact bind_eq_ok_iff.mpr ⟨(), mapError_eq_ok_iff.mpr hvalid, rfl⟩

/-- A file that can be loaded is there. -/
theorem loadOrDefault_of_load (h : load fs path = .ok c) : loadOrDefault fs path = .ok c := by
  obtain ⟨text, d, hread, -⟩ := load_eq_ok.mp h
  obtain ⟨way, content, mode, hlocate, -⟩ := FileSystem.read_eq_ok.mp hread
  rw [loadOrDefault, FileSystem.lookup_of_locate hlocate, h]

/-! ## Saving -/

theorem save_eq_ok (h : save fs path d = (.ok (), fs')) :
    d.validate = .ok () ∧ ∃ f f' fs₁ fs₂,
      AtomicFile.create fs path fileMode = (.ok f, fs₁) ∧
      AtomicFile.writeParts fs₁ f [preamble, d.render] = (.ok (), fs₂) ∧
      AtomicFile.commit fs₂ f = (.ok (), f', fs') := by
  rw [save] at h
  split_ifs at h
  · cases h
  split at h
  · cases h
  next hvalid =>
  dsimp only at h
  split at h
  · cases h
  next f fs₁ hcreate =>
  split at h
  · cases h
  next fs₂ hwrite =>
  split at h <;> cases h
  next f' hcommit => exact ⟨hvalid, f, f', fs₁, fs₂, hcreate, hwrite, hcommit⟩

/-- A file that can be read holds the document of a configuration that is saved there. -/
theorem read_save {text : String} (hread : fs.read path = .ok text)
    (hsave : save fs path d = (.ok (), fs')) : fs'.read path = .ok d.document := by
  obtain ⟨way, content, mode, hlocate, -⟩ := FileSystem.read_eq_ok.mp hread
  obtain ⟨-, f, f', fs₁, fs₂, hcreate, hwrite, hcommit⟩ := save_eq_ok hsave
  obtain ⟨hentry, hkeeps⟩ := AtomicFile.replace_parts_eq_ok hlocate hcreate hwrite hcommit
  refine FileSystem.read_eq_ok.mpr ⟨way, _, _, hkeeps.locate hlocate hentry, ?_⟩
  rw [document, ← Text.scrub_ofString (preamble ++ d.render), Text.ofString_append]
  rfl

/-- What is loaded after a configuration is saved is that configuration, relocated, if its document
is read back. -/
theorem load_save (hload : load fs path = .ok c) (hsave : save fs path d = (.ok (), fs'))
    (hback : parse? d.document = some d) : load fs' path = .ok (d.relocate path) := by
  obtain ⟨text, _, hread, -⟩ := load_eq_ok.mp hload
  exact load_eq_ok.mpr ⟨d.document, d, read_save hread hsave, hback, (save_eq_ok hsave).1, rfl⟩

end Config

end PathQuery
