import Mathlib.Data.List.Infix
import PathQuery.Proofs.Files.Commit

/-!
# Ways that names tell

Where a name leads can be told without a look at any entry, if it leads anywhere below the working
directory or the root: its components are followed with a stack, and the stack spells out the place.
So a cleaned name leads where the name does. The directories that are made for a file are the ones
on the way to it, and nothing is found at the name of the file on account of them.
-/

namespace PathQuery

namespace PathName

/-! ## Trails -/

/-- Where a name leads, last component first. -/
def trail (path : String) : List String := (components path).foldl (follow (isAbsolute path)) []

/-- A component that leads down. -/
structure IsName (c : String) : Prop where
  /-- It stands between slashes. -/
  isComponent : IsComponent c
  /-- It does not stand still. -/
  ne_dot : c ≠ "."
  /-- It does not lead up. -/
  ne_up : c ≠ ".."

section
variable {absolute : Bool} {stack components : List String} {c : String}

theorem follow_isName (h : IsName c) : follow absolute stack c = c :: stack := by
  rw [follow.eq_def, if_neg h.ne_dot, if_neg h.ne_up]

theorem foldl_follow_isName (h : ∀ c ∈ components, IsName c) :
    components.foldl (follow absolute) stack = components.reverse ++ stack := by
  induction components generalizing stack with
  | nil => rfl
  | cons c components ih =>
    obtain ⟨hc, hcomponents⟩ := List.forall_mem_cons.mp h
    rw [List.foldl_cons, follow_isName hc, ih hcomponents, List.reverse_cons, List.append_assoc]
    rfl

/-- No step up from the root is kept. -/
theorem isName_of_mem_foldl_follow (hcomponents : ∀ c ∈ components, IsComponent c)
    (hstack : ∀ c ∈ stack, IsName c) : ∀ c ∈ components.foldl (follow true) stack, IsName c := by
  induction components generalizing stack with
  | nil => exact hstack
  | cons c components ih =>
    obtain ⟨hc, hcomponents⟩ := List.forall_mem_cons.mp hcomponents
    refine ih hcomponents ?_
    obtain rfl | rfl | ⟨hdot, hup⟩ := component_cases c
    · exact hstack
    · cases stack with
      | nil => exact hstack
      | cons last rest =>
        obtain ⟨hlast, hrest⟩ := List.forall_mem_cons.mp hstack
        simpa [follow, hlast.ne_up] using hrest
    · rw [follow_isName ⟨hc, hdot, hup⟩]
      exact List.forall_mem_cons.mpr ⟨⟨hc, hdot, hup⟩, hstack⟩

/-- Without steps up a stack only grows. -/
theorem suffix_foldl_follow (h : ".." ∉ components) :
    stack <:+ components.foldl (follow absolute) stack := by
  induction components generalizing stack with
  | nil => exact List.suffix_rfl
  | cons c components ih =>
    rw [List.mem_cons, not_or] at h
    refine List.IsSuffix.trans ?_ (ih h.2)
    rw [follow.eq_def, if_neg (Ne.symm h.1)]
    split_ifs
    · exact List.suffix_rfl
    · exact List.suffix_cons c stack

end

/-- A name that ends in no slash leads along its base last. -/
theorem components_eq_concat_base {path : String} (hne : path ≠ "")
    (hslash : path.toList.getLast? ≠ some '/') :
    components path = components (throughLastSlash path) ++ [base path] := by
  have hcomponents := components_of_not_slash hne hslash
  have hbase := getLast?_components (hcomponents ▸ List.concat_ne_nil _ _)
  rw [hcomponents, List.getLast?_concat] at hbase
  rw [hcomponents, Option.some.inj hbase]

theorem isAbsolute_dropSlashes {path : String} (h : dropSlashes path ≠ "") :
    isAbsolute (dropSlashes path) = isAbsolute path := by
  have hdropped : (dropSlashes path).toList = path.toList.rdropWhile (· = '/') := by
    rw [dropSlashes, String.toList_ofList, List.rdropWhile]
  have hcut : dropSlashes path ++ String.ofList (path.toList.rtakeWhile (· = '/')) = path := by
    apply String.toList_injective
    rw [String.toList_append, String.toList_ofList, hdropped, List.rdropWhile_append_rtakeWhile]
  conv_rhs => rw [← hcut]
  exact (isAbsolute_append h _).symm

/-! ## Cleaned names -/

theorem trail_of_relative {path : String} (h : isAbsolute path = false) :
    trail path = wayOf path := by
  rw [trail, h, wayOf]

theorem isName_of_mem_trail {path : String} (h : isAbsolute path = true) :
    ∀ c ∈ trail path, IsName c := by
  rw [trail, h]
  exact isName_of_mem_foldl_follow (fun _ ↦ isComponent_of_mem) (List.forall_mem_nil _)

/-- A cleaned name spells its trail out, with a point for one that is empty. -/
theorem components_clean (path : String) :
    components (clean path) = (trail path).reverse ∨
      isAbsolute path = false ∧ trail path = [] ∧ components (clean path) = ["."] := by
  cases h : isAbsolute path with
  | false =>
    have htrail := trail_of_relative h
    rw [clean_of_relative h, ← htrail, spell]
    split_ifs with hnil
    · exact .inr ⟨rfl, hnil, rfl⟩
    · refine .inl (components_intercalate fun c hc ↦ ?_)
      exact (settled_wayOf path).isComponent c (htrail ▸ List.mem_reverse.mp hc)
  | true =>
    left
    have hclean : clean path = "" ++ "/" ++ String.intercalate "/" (trail path).reverse := by
      simp [clean, trail, h]
    rw [hclean, components_append, components_intercalate fun c hc ↦
      (isName_of_mem_trail h c (List.mem_reverse.mp hc)).isComponent]
    rfl

/-- A cleaned name leads where the name does. -/
theorem trail_clean (path : String) : trail (clean path) = trail path := by
  cases h : isAbsolute path with
  | false =>
    rw [trail_of_relative h, trail_of_relative ((isAbsolute_clean path).trans h),
      clean_of_relative h, wayOf_spell (settled_wayOf path)]
  | true =>
    have hcomponents : components (clean path) = (trail path).reverse :=
      (components_clean path).resolve_right (by simp [h])
    rw [trail, hcomponents, foldl_follow_isName fun c hc ↦
      isName_of_mem_trail h c (List.mem_reverse.mp hc), List.reverse_reverse, List.append_nil]

/-- A cleaned name steps up only if it leads up. -/
theorem up_not_mem_components_clean {path : String} (h : ".." ∉ trail path) :
    ".." ∉ components (clean path) := by
  obtain hclean | ⟨-, -, hclean⟩ := components_clean path <;> rw [hclean]
  · rwa [List.mem_reverse]
  · decide

end PathName

namespace FileSystem

open PathName

variable {fs fs' : FileSystem} {path : String} {way : List String} {e : Option Entry}

/-! ## Where walks end -/

/-- The way that names start along. -/
def rootWay (absolute : Bool) : List String := if absolute then [rootComponent] else []

/-- Where a name leads if it leads anywhere inside. -/
def placeOf (path : String) : List String := rootWay (isAbsolute path) ++ (trail path).reverse

section
variable {absolute found : Bool} {stack components : List String} {c : String} {next : Place}
  (hstack : ∀ c ∈ stack, IsName c)
include hstack

/-- A component is followed inside, or it leads out. -/
theorem enter_follow (hc : IsComponent c)
    (h : fs.enter (.inside (rootWay absolute ++ stack.reverse)) c = .ok (next, found)) :
    next = .outside ∨ next = .inside (rootWay absolute ++ (follow absolute stack c).reverse) ∧
      ∀ d ∈ follow absolute stack c, IsName d := by
  simp only [enter] at h
  obtain rfl | rfl | ⟨hdot, hup⟩ := component_cases c
  · cases h
    exact .inr ⟨rfl, hstack⟩
  · rw [if_neg (by decide), if_neg (by decide)] at h
    cases h
    cases stack with
    | nil =>
      cases absolute with
      | true => exact .inr ⟨rfl, hstack⟩
      | false => exact .inl rfl
    | cons last rest =>
      right
      obtain ⟨hlast, hrest⟩ := List.forall_mem_cons.mp hstack
      have hfollow : follow absolute (last :: rest) ".." = rest := by
        simp [follow, hlast.ne_up]
      have hroot : rootWay absolute ++ (last :: rest).reverse ≠ [rootComponent] := by
        intro hroot
        have hend := congrArg List.getLast? hroot
        rw [List.reverse_cons, ← List.append_assoc, List.getLast?_concat] at hend
        exact hlast.isComponent.2 (Option.some.inj hend ▸ by decide)
      rw [hfollow, above, if_neg (by simp), if_neg hroot, List.reverse_cons, ← List.append_assoc,
        List.dropLast_concat]
      exact ⟨rfl, hrest⟩
  · rw [if_neg hdot] at h
    split_ifs at h
    cases h
    right
    rw [follow_isName ⟨hc, hdot, hup⟩]
    exact ⟨by simp, List.forall_mem_cons.mpr ⟨⟨hc, hdot, hup⟩, hstack⟩⟩

/-- A walk that ends inside ends where its components are followed to. -/
theorem walk_follow (hcomponents : ∀ c ∈ components, IsComponent c)
    (h : fs.walk (.inside (rootWay absolute ++ stack.reverse)) components =
      .ok (.inside way, found)) :
    way = rootWay absolute ++ (components.foldl (follow absolute) stack).reverse ∧
      ∀ d ∈ components.foldl (follow absolute) stack, IsName d := by
  induction components generalizing stack with
  | nil =>
    cases h
    exact ⟨rfl, hstack⟩
  | cons c components ih =>
    obtain ⟨hc, hcomponents⟩ := List.forall_mem_cons.mp hcomponents
    cases components with
    | nil =>
      obtain hout | ⟨hin, hnames⟩ := enter_follow hstack hc h
      · cases hout
      · exact ⟨Place.inside.inj hin, hnames⟩
    | cons d components =>
      obtain ⟨next, mode, hfirst, -, hrest⟩ := walk_cons_cons.mp h
      obtain rfl | ⟨rfl, hnames⟩ := enter_follow hstack hc hfirst
      · cases walk_outside hrest
      · exact ih hnames hcomponents hrest

end

theorem start_eq_inside (h : fs.start path = .inside way) :
    way = rootWay (isAbsolute path) ∧ (fs.entry? way).isSome := by
  rw [start] at h
  rw [rootWay]
  split_ifs at h with habsolute hroot <;> cases h
  · rw [if_neg (by simpa using habsolute)]
    exact ⟨rfl, rfl⟩
  · rw [if_pos (by simpa using habsolute)]
    exact ⟨rfl, hroot⟩

theorem placeOf_directory (path : String) :
    placeOf (PathName.directory path) = placeOf (throughLastSlash path) := by
  rw [placeOf, placeOf, PathName.directory, trail_clean, isAbsolute_clean]

/-- A name that leads inside leads to its place, by components that lead down. -/
theorem place_of_locate (h : fs.locate path = .ok (.inside way, e)) :
    way = placeOf path ∧ ∀ c ∈ trail path, IsName c := by
  obtain ⟨s, hstart⟩ := exists_start_eq_of_locate h
  obtain ⟨-, -, ⟨_, hwalk⟩, -⟩ := locate_eq_ok.mp h
  obtain ⟨rfl, -⟩ := start_eq_inside hstart
  rw [hstart, ← List.append_nil (rootWay _)] at hwalk
  exact walk_follow (List.forall_mem_nil _) (fun _ ↦ isComponent_of_mem) hwalk

/-! ## Directories on the way -/

/-- Nothing is new but directories on a way. -/
def MakesWay (way : List String) (fs fs' : FileSystem) : Prop :=
  ∀ ⦃k e⦄, fs'.entry? k = some e →
    fs.entry? k = some e ∨ e = .directory directoryMode ∧ k <+: way

namespace MakesWay

variable {fs₁ : FileSystem}

theorem refl (fs : FileSystem) : MakesWay way fs fs := fun _ _ ↦ .inl

theorem trans (h : MakesWay way fs fs₁) (h' : MakesWay way fs₁ fs') : MakesWay way fs fs' := by
  intro k e hentry
  obtain hentry | hnew := h' hentry
  · exact h hentry
  · exact .inr hnew

theorem put {k : List String} (hk : k <+: way) :
    MakesWay way fs (fs.put k (.directory directoryMode)) := by
  intro k' e hentry
  by_cases hsame : k' = k
  · subst hsame
    by_cases hnil : k' = []
    · subst hnil
      exact .inl hentry
    · rw [entry?_put_self fs hnil] at hentry
      exact .inr ⟨(Option.some.inj hentry).symm, hk⟩
  · rw [entry?_put_of_ne fs hsame] at hentry
    exact .inl hentry

end MakesWay

section
variable {directory : String} (hup : ".." ∉ components directory)
  (habsolute : isAbsolute path = isAbsolute directory)
  (hcomponents : components path <+: components directory)
include hup habsolute hcomponents

/-- A name of the first components of a name leads above it. -/
theorem placeOf_prefix_placeOf : placeOf path <+: placeOf directory := by
  obtain ⟨more, hmore⟩ := hcomponents
  have hmoreUp : ".." ∉ more := fun h ↦ hup (hmore ▸ List.mem_append_right _ h)
  rw [placeOf, placeOf, habsolute, List.prefix_append_right_inj, List.reverse_prefix, trail, trail,
    habsolute, ← hmore, List.foldl_append]
  exact suffix_foldl_follow hmoreUp

theorem makeDirectory_makesWay (h : fs.makeDirectory path = .ok fs') :
    MakesWay (placeOf directory) fs fs' := by
  rw [makeDirectory] at h
  split at h <;> cases h
  next way hloc =>
  have hne := (locate_eq_ok.mp hloc).1
  have hway := (place_of_locate hloc).1
  subst hway
  refine .put (placeOf_prefix_placeOf hup ((isAbsolute_dropSlashes hne).trans habsolute) ?_)
  rwa [components_dropSlashes]

theorem ensureDirectory_makesWay (h : fs.ensureDirectory path = .ok fs') :
    MakesWay (placeOf directory) fs fs' := by
  rw [ensureDirectory] at h
  split at h
  · cases h
    exact makeDirectory_makesWay hup habsolute hcomponents ‹_›
  · split at h <;> cases h
    exact .refl fs

theorem makeDirectories_makesWay {depth : ℕ} (h : fs.makeDirectories path depth = .ok fs') :
    MakesWay (placeOf directory) fs fs' := by
  induction depth generalizing path fs' with
  | zero => exact ensureDirectory_makesWay hup habsolute hcomponents h
  | succ depth ih =>
    rw [makeDirectories] at h
    split at h
    · cases h
      exact .refl fs
    · cases h
    · split_ifs at h with hparent
      · exact ensureDirectory_makesWay hup habsolute hcomponents h
      · split at h
        next fs₁ habove =>
          have hne : dropSlashes path ≠ "" := by
            intro hempty
            rw [parentName, hempty] at hparent
            exact hparent rfl
          have habsolute' : isAbsolute (parentName path) = isAbsolute directory :=
            (isAbsolute_throughLastSlash _).trans ((isAbsolute_dropSlashes hne).trans habsolute)
          have hcomponents' : components (parentName path) <+: components directory := by
            refine List.IsPrefix.trans ?_ hcomponents
            rw [← components_dropSlashes path, components_eq_append (dropSlashes path)]
            exact List.prefix_append _ _
          exact (ih habsolute' hcomponents' habove).trans
            (ensureDirectory_makesWay hup habsolute hcomponents h)
        next => cases h

end

/-- The directories that are made for a name are on the way to it. -/
theorem makePath_makesWay (hup : ".." ∉ components path) (h : fs.makePath path = .ok fs') :
    MakesWay (placeOf path) fs fs' :=
  makeDirectories_makesWay hup rfl List.prefix_rfl h

/-- A walk along more components goes through the directory that the first ones lead to. -/
theorem walk_concat {place next : Place} {components : List String} {c : String} {found : Bool}
    (hne : components ≠ []) (h : fs.walk place (components ++ [c]) = .ok (next, found)) :
    ∃ middle mode, fs.walk place components = .ok (middle, true) ∧
      fs.at? middle = some (.directory mode) ∧ fs.enter middle c = .ok (next, found) := by
  induction components generalizing place with
  | nil => exact absurd rfl hne
  | cons d components ih =>
    cases components with
    | nil =>
      obtain ⟨middle, mode, hfirst, hat, hrest⟩ := walk_cons_cons.mp h
      exact ⟨middle, mode, hfirst, hat, hrest⟩
    | cons d' components =>
      obtain ⟨next', mode', hfirst, hat', hrest⟩ := walk_cons_cons.mp h
      obtain ⟨middle, mode, hwalk, hat, henter⟩ := ih (List.cons_ne_nil _ _) hrest
      exact ⟨middle, mode, walk_cons_cons.mpr ⟨next', mode', hfirst, hat', hwalk⟩, hat, henter⟩

end FileSystem

namespace AtomicFile

open FileSystem PathName

variable {fs fs' : FileSystem} {f : AtomicFile} {path : String} {mode : ℕ}

/-! ## The directory of a replacement -/

theorem isAbsolute_below {directory : String} (hne : directory ≠ "") (name : String) :
    isAbsolute (below directory name) = isAbsolute directory := by
  rw [below]
  split_ifs
  · exact isAbsolute_append hne name
  · rw [String.append_assoc, isAbsolute_append hne]

/-- What is below a directory is below its place, and the directory stands there. -/
theorem locate_below {directory name : String} {way : List String} {e : Option Entry}
    (hne : directory ≠ "") (hname : IsName name)
    (h : fs.locate (below directory name) = .ok (.inside way, e)) :
    way = placeOf directory ++ [name] ∧ fs.Stands (placeOf directory) ∧
      ".." ∉ trail directory := by
  have habsolute := isAbsolute_below hne name
  have hcomponents : components (below directory name) = components directory ++ [name] :=
    components_below hname.isComponent
  have htrail : trail (below directory name) = name :: trail directory := by
    rw [trail, hcomponents, habsolute, List.foldl_concat, follow_isName hname, trail]
  obtain ⟨hway, hnames⟩ := place_of_locate h
  subst hway
  rw [htrail] at hnames
  have hplace : placeOf (below directory name) = placeOf directory ++ [name] := by
    rw [placeOf, placeOf, htrail, habsolute, List.reverse_cons, List.append_assoc]
  refine ⟨hplace, ?_, fun hup ↦ (hnames _ (List.mem_cons_of_mem _ hup)).ne_up rfl⟩
  obtain ⟨s, hstart⟩ := exists_start_eq_of_locate h
  obtain ⟨-, -, ⟨found, hwalk⟩, -⟩ := locate_eq_ok.mp h
  obtain ⟨rfl, hsome⟩ := start_eq_inside hstart
  rw [hstart, hcomponents, habsolute] at hwalk
  rw [habsolute] at hsome
  by_cases hnil : components directory = []
  · have hroot : placeOf directory = rootWay (isAbsolute directory) := by
      rw [placeOf, trail, hnil]
      exact List.append_nil _
    rw [hroot]
    cases hstarts : isAbsolute directory with
    | true => exact .inl ⟨rfl, hstarts ▸ hsome⟩
    | false => exact .inr ⟨_, entry?_nil fs⟩
  · obtain ⟨middle, mode, hmiddle, hat, henter⟩ := walk_concat hnil hwalk
    cases middle with
    | outside =>
      have hlast : fs.walk .outside [name] =
          .ok (.inside (placeOf (below directory name)), found) := henter
      cases walk_outside hlast
    | inside k =>
      rw [← List.append_nil (rootWay _)] at hmiddle
      obtain ⟨rfl, -⟩ := walk_follow (List.forall_mem_nil _) (fun _ ↦ isComponent_of_mem) hmiddle
      exact .inr ⟨mode, hat⟩

/-- A temporary file is in the directory of its target. All else that is new when a replacement has
started are directories on the way to it. -/
theorem place_of_create (h : create fs path mode = (.ok f, fs')) :
    (∃ name, f.temporary = placeOf (directory path) ++ [name]) ∧
      fs'.Stands (placeOf (directory path)) ∧
      ∀ ⦃k e⦄, k ≠ f.temporary → fs'.entry? k = some e →
        fs.entry? k = some e ∨ e = .directory directoryMode ∧ k <+: placeOf (directory path) := by
  obtain ⟨-, -, fs₁, hmake, htemporary⟩ := create_calls h
  obtain ⟨hlead, hloc, hput⟩ := createTemporary_located htemporary
  have hname : IsName (temporaryLead path ++ showNumber fs₁.temporaries) := by
    have hlong : 6 ≤ (temporaryLead path ++ showNumber fs₁.temporaries).length := by
      rw [String.length_append, length_temporaryLead]
      omega
    refine ⟨isComponent_temporaryName hlead (toList_showNumber _), ?_, ?_⟩ <;> intro hshort <;>
      rw [hshort] at hlong <;> exact absurd hlong (by decide)
  obtain ⟨hway, hstands, hup⟩ := locate_below (directory_ne_empty path) hname hloc
  have hnew : fs₁.entry? f.temporary = none := entry?_of_locate hloc
  have hentry (k : List String) : fs'.entry? k =
      FileSystem.entry? (fs₁.put f.temporary (.file ⟨[]⟩ (finalMode fs path mode))) k := by
    rw [FileSystem.entry?, FileSystem.entry?, hput]
  have hkeeps : KeepsBut [] fs₁ fs' :=
    ((KeepsBut.put fs₁ f.temporary _).trans (.of_same hentry)).of_new hnew
  refine ⟨⟨_, hway⟩, hstands.imp ?_ ?_, fun k e hk he ↦ ?_⟩
  · rintro ⟨hroot, hsome⟩
    exact ⟨hroot, by simpa only [hroot] using hkeeps.keepsDirectories.root (hroot ▸ hsome)⟩
  · rintro ⟨m, hm⟩
    exact ⟨m, hkeeps List.not_mem_nil hm⟩
  · rw [hentry, entry?_put_of_ne _ hk] at he
    have hcomponents : ".." ∉ components (directory path) := by
      rw [directory, trail_clean] at hup
      exact up_not_mem_components_clean hup
    exact makePath_makesWay hcomponents hmake he

/-- The target of a replacement that can be renamed to does not end in a slash: such a name is that
of a directory that has been made. -/
theorem getLast?_ne_slash_of_create (h : create fs path mode = (.ok f, fs')) {way : List String}
    {old : Option Entry} (hloc : fs'.locate path = .ok (.inside way, old))
    (hold : ∀ m, old ≠ some (.directory m)) : path.toList.getLast? ≠ some '/' := by
  intro hslash
  obtain ⟨-, hstands, -⟩ := place_of_create h
  have hthrough : throughLastSlash path = path := by
    obtain ⟨front, hfront⟩ := List.getLast?_eq_some_iff.mp hslash
    apply String.toList_injective
    simp [throughLastSlash, hfront]
  rw [placeOf_directory, hthrough] at hstands
  have hway := (place_of_locate hloc).1
  subst hway
  obtain ⟨-, -, -, hentry, hfile⟩ := locate_eq_ok.mp hloc
  rcases old with _ | ⟨content, m⟩ | m
  · obtain ⟨-, hsome⟩ | ⟨m, hm⟩ := hstands
    · rw [show fs'.entry? (placeOf path) = none from hentry] at hsome
      cases hsome
    · cases hentry.symm.trans hm
  · exact hfile (by simp [hslash]) content m rfl
  · exact hold m rfl

end AtomicFile

/-! ## File systems in which everything stands somewhere -/

/-- Everything stands in a directory, and the root is one. -/
structure FileSystem.Grounded (fs : FileSystem) : Prop where
  /-- There are directories all the way to an entry. -/
  above : ∀ ⦃way e⦄, fs.entry? way = some e → ∀ front, front <+: way → front ≠ way →
    ∃ mode, fs.entry? front = some (.directory mode)
  /-- The root is a directory. -/
  root : ∀ e, fs.entry? [rootComponent] = some e → ∃ mode, e = .directory mode

namespace FileSystem

variable {fs : FileSystem} {way : List String}

theorem mem_of_entry?_eq_some (hway : way ≠ []) {e : Entry} (h : fs.entry? way = some e) :
    (way, e) ∈ fs.entries := by
  rw [entry?_of_ne_nil fs hway, Option.map_eq_some_iff] at h
  obtain ⟨⟨k, _⟩, hfind, rfl⟩ := h
  obtain rfl : k = way := by simpa using List.find?_some hfind
  exact List.mem_of_find?_eq_some hfind

/-- Whether everything stands somewhere can be seen from the entries. -/
theorem grounded_of_entries
    (h : ∀ entry ∈ fs.entries, (entry.1 = [rootComponent] → entry.2.isDirectory) ∧
      ∀ front ∈ entry.1.inits, front ≠ entry.1 → (fs.entry? front).any Entry.isDirectory) :
    fs.Grounded where
  above way e hentry front hfront hne := by
    have hway : way ≠ [] := by
      rintro rfl
      exact hne (List.prefix_nil.mp hfront)
    have hdirectory := (h _ (mem_of_entry?_eq_some hway hentry)).2 front
      ((List.mem_inits front way).mpr hfront) hne
    rcases hat : fs.entry? front with _ | (_ | mode)
    · simp [hat] at hdirectory
    · simp [hat, Entry.isDirectory] at hdirectory
    · exact ⟨mode, rfl⟩
  root e hentry := by
    have hdirectory := (h _ (mem_of_entry?_eq_some (List.cons_ne_nil _ _) hentry)).1 rfl
    cases e with
    | file => cases hdirectory
    | directory mode => exact ⟨mode, rfl⟩

end FileSystem

namespace AtomicFile

open FileSystem PathName

variable {fs fs' : FileSystem} {f : AtomicFile} {path : String} {mode : ℕ}

/-- A file that a name leads to is below the directory of the name. -/
theorem place_of_file
    (hroot : ∀ e, fs.entry? [rootComponent] = some e → ∃ mode, e = .directory mode)
    {way : List String} {content : Text} {m : ℕ}
    (hloc : fs.locate path = .ok (.inside way, some (.file content m))) :
    way = placeOf (directory path) ++ [base path] := by
  obtain ⟨hne, -, -, hentry, hslash⟩ := locate_eq_ok.mp hloc
  obtain ⟨hplace, hnames⟩ := place_of_locate hloc
  have hcomponents : components path = components (throughLastSlash path) ++ [base path] := by
    refine components_eq_concat_base hne fun hends ↦ ?_
    exact hslash (by simp [hends]) content m rfl
  have hcomponent : IsComponent (base path) := by
    have hmem : base path ∈ components path := by
      rw [hcomponents]
      exact List.mem_append_right _ List.mem_cons_self
    exact isComponent_of_mem hmem
  have hname : IsName (base path) := by
    obtain (⟨rfl, -⟩ | ⟨m', hdirectory⟩) | ⟨front, hfront⟩ := locate_inside hloc
    · obtain ⟨_, hdirectory⟩ := hroot _ hentry
      cases hdirectory
    · cases hdirectory.symm.trans hentry
    · have hmem : base path ∈ placeOf path := by
        rw [← hplace, hfront]
        exact List.mem_append_right _ List.mem_cons_self
      rw [placeOf, List.mem_append, List.mem_reverse] at hmem
      refine hnames _ (hmem.resolve_left fun hstart ↦ ?_)
      -- the root is no component
      rw [rootWay] at hstart
      split_ifs at hstart
      · rw [List.mem_singleton.mp hstart] at hcomponent
        exact hcomponent.2 (by decide)
      · cases hstart
  have htrail : trail path = base path :: trail (throughLastSlash path) := by
    rw [trail, hcomponents, List.foldl_concat, follow_isName hname, trail,
      isAbsolute_throughLastSlash]
  rw [hplace, placeOf_directory, placeOf, placeOf, htrail, isAbsolute_throughLastSlash,
    List.reverse_cons, List.append_assoc]

/-- Starting a replacement shows a reader nothing, unless it makes the target a directory. -/
theorem found?_of_create (hfs : fs.Grounded) (h : create fs path mode = (.ok f, fs'))
    (hnot : ∀ m, fs'.found? path ≠ some (.directory m)) : fs'.found? path = fs.found? path := by
  obtain ⟨hpath, -, -, hempty, hkeeps⟩ := create_eq_ok h
  obtain ⟨-, -, hnew⟩ := place_of_create h
  have hpending := pending_of_create h
  rcases hfound : fs'.found? path with _ | ⟨content, m⟩ | m
  · rw [eq_comm, ← Option.not_isSome_iff_eq_none, Option.isSome_iff_exists]
    rintro ⟨e, he⟩
    cases hfound.symm.trans (hkeeps.found?_eq_some he)
  · -- the directories above a file that was there were there, so none has been made
    obtain ⟨way, hloc⟩ := found?_eq_some.mp hfound
    have hentry : fs.entry? way = some (.file content m) := by
      have hne : way ≠ f.temporary := by
        rintro rfl
        exact hpending.apart _ (hpath ▸ hloc)
      obtain hold | ⟨hdirectory, -⟩ := hnew hne (entry?_of_locate hloc)
      · exact hold
      · cases hdirectory
    have hway : way = placeOf (directory path) ++ [base path] := by
      refine place_of_file (fun e he ↦ ?_) hloc
      obtain hold | ⟨rfl, -⟩ := hnew hpending.ne_root.symm he
      · exact hfs.root e hold
      · exact ⟨_, rfl⟩
    have hmade {k : List String} (hk : k <+: placeOf (directory path)) :
        ∃ m, fs.entry? k = some (.directory m) := by
      refine hfs.above hentry k (hway ▸ hk.trans (List.prefix_append _ _)) ?_
      rintro rfl
      have hlength := hk.length_le
      rw [hway, List.length_append, List.length_singleton] at hlength
      omega
    have hdirectories : KeepsDirectories fs' fs := {
      directory := fun k m' hk ↦ by
        have hne : k ≠ f.temporary := by
          rintro rfl
          cases hempty.symm.trans hk
        obtain hold | ⟨-, hprefix⟩ := hnew hne hk
        · exact hold
        · obtain ⟨m, hm⟩ := hmade hprefix
          rwa [hk.symm.trans (hkeeps List.not_mem_nil hm)]
      root := fun hsome ↦ by
        obtain ⟨e, he⟩ := Option.isSome_iff_exists.mp hsome
        obtain hold | ⟨-, hprefix⟩ := hnew hpending.ne_root.symm he
        · rw [hold, Option.isSome_some]
        · obtain ⟨m, hm⟩ := hmade hprefix
          rw [hm, Option.isSome_some] }
    refine (found?_eq_some.mpr ⟨way, ?_⟩).symm
    rw [← hentry]
    refine hdirectories.locate hloc fun hends ↦ ?_
    exact absurd rfl ((locate_eq_ok.mp hloc).2.2.2.2 hends content m)
  · exact absurd hfound (hnot m)

end AtomicFile

end PathQuery
