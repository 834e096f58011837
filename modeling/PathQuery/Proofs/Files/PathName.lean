import Mathlib.Data.List.DropRight
import Mathlib.Data.String.Basic
import Mathlib.Tactic.Ring
import PathQuery.Files.PathName

/-!
# Cleaned names

The components of a name are followed from left to right, with the way so far as a stack. A settled
stack, on which nothing but further ways up lies below a way up, is what following components
leaves, and it is followed to itself; so cleaning a name twice is cleaning it once.

A name below a directory may be told from that directory once more. Each component takes the way
one step up or down, so the steps up of a way, less those down, add up: the name comes back to
itself only if the directory goes as far up as down, and if the name itself starts by going up as
far. Then it comes back at once.
-/

open String

namespace PathQuery.PathName

/-! ## Components -/

/-- A piece of a text that is cut at a character is made of other characters of the text. -/
theorem mem_of_mem_splitOn {c d : Char} {cs piece : List Char} (h : piece ∈ cs.splitOn c)
    (hd : d ∈ piece) : d ∈ cs ∧ d ≠ c := by
  induction cs generalizing piece with
  | nil =>
    rw [List.splitOn_nil, List.mem_singleton] at h
    rw [h] at hd
    cases hd
  | cons e cs ih =>
    rw [List.splitOn_cons_eq_if_modifyHead] at h
    split_ifs at h with he
    · obtain rfl | h := List.mem_cons.mp h
      · cases hd
      · exact (ih h hd).imp_left (List.mem_cons_of_mem _)
    · obtain ⟨first, more, hcut⟩ := List.exists_cons_of_ne_nil (List.splitOn_ne_nil c cs)
      rw [hcut, List.modifyHead_cons, List.mem_cons] at h
      rw [hcut] at ih
      obtain rfl | h := h
      · obtain rfl | hd := List.mem_cons.mp hd
        · exact ⟨List.mem_cons_self, by simpa using he⟩
        · exact (ih List.mem_cons_self hd).imp_left (List.mem_cons_of_mem _)
      · exact (ih (List.mem_cons_of_mem _ h) hd).imp_left (List.mem_cons_of_mem _)

/-- What stands between slashes: a text that is not empty and has no slash in it. -/
def IsComponent (c : String) : Prop := c ≠ "" ∧ '/' ∉ c.toList

theorem isComponent_of_mem {path c : String} (h : c ∈ components path) : IsComponent c := by
  rw [components, List.mem_filter, List.mem_map] at h
  obtain ⟨⟨cs, hcs, rfl⟩, hne⟩ := h
  refine ⟨by simpa using hne, ?_⟩
  rw [toList_ofList]
  exact fun hslash ↦ (mem_of_mem_splitOn hcs hslash).2 rfl

/-- The components of joined names are those of the one and then those of the other. -/
theorem components_append (a b : String) :
    components (a ++ "/" ++ b) = components a ++ components b := by
  have htext : (a ++ "/" ++ b).toList = a.toList ++ '/' :: b.toList := by simp
  rw [components, components, components, htext, List.splitOn_append_cons_self,
    List.map_append, List.filter_append]

/-- Components joined by slashes are the components of the name. -/
theorem components_intercalate {way : List String} (h : ∀ c ∈ way, IsComponent c) :
    components (intercalate "/" way) = way := by
  by_cases hway : way = []
  · rw [hway, intercalate_nil, components]
    rfl
  · have hcut : (['/'].intercalate (way.map String.toList)).splitOn '/' = way.map String.toList :=
      List.splitOn_intercalate '/' (by simpa using fun c hc ↦ (h c hc).2) (by simpa using hway)
    have hback : (way.map String.toList).map ofList = way := by simp [Function.comp_def]
    have hall : way.filter (· ≠ "") = way :=
      List.filter_eq_self.mpr fun c hc ↦ by simpa using (h c hc).1
    rw [components, toList_intercalate, show "/".toList = ['/'] from rfl, hcut, hback, hall]

theorem components_singleton {name : String} (hname : IsComponent name) :
    components name = [name] := by
  have hway : ∀ c ∈ [name], IsComponent c := List.forall_mem_singleton.mpr hname
  simpa using components_intercalate hway

/-! ## Following components -/

theorem follow_dot (way : List String) : follow false way "." = way := by simp [follow]

theorem follow_up_nil : follow false [] ".." = [".."] := by simp [follow]

theorem follow_up_cons (last : String) (way : List String) :
    follow false (last :: way) ".." = if last = ".." then ".." :: last :: way else way := by
  simp [follow]

theorem follow_name {c : String} (hdot : c ≠ ".") (hup : c ≠ "..") (way : List String) :
    follow false way c = c :: way := by
  simp [follow, hdot, hup]

/-- The ways in which a component is followed: it stands still, goes up or goes down. -/
theorem component_cases (c : String) : c = "." ∨ c = ".." ∨ c ≠ "." ∧ c ≠ ".." := by tauto

/-! ## Settled ways -/

/-- A way, with its last component first, that following its components leads to. -/
structure Settled (way : List String) : Prop where
  /-- What it is made of. -/
  isComponent : ∀ c ∈ way, IsComponent c
  /-- No component stands still. -/
  ne_dot : "." ∉ way
  /-- Below a way up there are ways up only. -/
  ups : way.Pairwise fun c d ↦ c = ".." → d = ".."

namespace Settled

variable {way above : List String} {c : String}

theorem nil : Settled [] := ⟨by simp, by simp, .nil⟩

theorem tail (h : Settled (c :: way)) : Settled way :=
  ⟨fun d hd ↦ h.isComponent d (List.mem_cons_of_mem _ hd), List.not_mem_of_not_mem_cons h.ne_dot,
    h.ups.of_cons⟩

theorem of_append (h : Settled (way ++ above)) : Settled above :=
  ⟨fun d hd ↦ h.isComponent d (List.mem_append_right _ hd),
    fun hd ↦ h.ne_dot (List.mem_append_right _ hd), (List.pairwise_append.mp h.ups).2.1⟩

theorem cons (h : Settled way) (hc : IsComponent c) (hdot : c ≠ ".")
    (hup : c = ".." → ∀ d ∈ way, d = "..") : Settled (c :: way) where
  isComponent := List.forall_mem_cons.mpr ⟨hc, h.isComponent⟩
  ne_dot := by
    rw [List.mem_cons, not_or]
    exact ⟨hdot.symm, h.ne_dot⟩
  ups := List.pairwise_cons.mpr ⟨fun d hd hc ↦ hup hc d hd, h.ups⟩

/-- Following a component settles. -/
theorem follow (h : Settled way) (hc : IsComponent c) : Settled (follow false way c) := by
  obtain rfl | rfl | ⟨hdot, hup⟩ := component_cases c
  · rwa [follow_dot]
  · cases way with
    | nil => exact follow_up_nil ▸ nil.cons hc (by decide) (by simp)
    | cons last rest =>
      rw [follow_up_cons]
      split_ifs with hlast
      · refine h.cons hc (by decide) fun _ ↦ List.forall_mem_cons.mpr ⟨hlast, fun d hd ↦ ?_⟩
        exact (List.pairwise_cons.mp h.ups).1 d hd hlast
      · exact h.tail
  · rw [follow_name hdot hup]
    exact h.cons hc hdot fun hc ↦ absurd hc hup

theorem foldl_follow (h : Settled way) {components : List String}
    (hcomponents : ∀ c ∈ components, IsComponent c) :
    Settled (components.foldl (PathName.follow false) way) := by
  induction components generalizing way with
  | nil => exact h
  | cons c components ih =>
    obtain ⟨hc, hrest⟩ := List.forall_mem_cons.mp hcomponents
    exact ih (h.follow hc) hrest

/-- A component that leaves a way settled is put on top of it. -/
theorem follow_eq (h : Settled (c :: way)) : PathName.follow false way c = c :: way := by
  obtain rfl | rfl | ⟨hdot, hup⟩ := component_cases c
  · exact absurd List.mem_cons_self h.ne_dot
  · cases way with
    | nil => exact follow_up_nil
    | cons last rest =>
      rw [follow_up_cons, if_pos ((List.pairwise_cons.mp h.ups).1 last List.mem_cons_self rfl)]
  · exact follow_name hdot hup way

/-- The components of a settled way are followed to the way itself. -/
theorem foldl_follow_eq (h : Settled (way ++ above)) :
    way.reverse.foldl (PathName.follow false) above = way ++ above := by
  induction way with
  | nil => rfl
  | cons c way ih =>
    rw [List.reverse_cons, List.foldl_append, ih h.tail]
    exact h.follow_eq

end Settled

/-! ## Going up and down -/

/-- How far a way goes up, less how far it goes down. -/
def rise (way : List String) : ℤ := 2 * way.count ".." - way.length

section
variable {way components : List String} {c : String}

theorem rise_cons (c : String) (way : List String) :
    rise (c :: way) = (if c = ".." then 1 else -1) + rise way := by
  rw [rise, rise, List.count_cons, List.length_cons]
  split_ifs with h h' h' <;> simp_all <;> ring

theorem rise_reverse (way : List String) : rise way.reverse = rise way := by
  rw [rise, rise, List.count_reverse, List.length_reverse]

/-- Each component but one that stands still takes a way one step up or down. -/
theorem rise_follow (way : List String) (hdot : c ≠ ".") :
    rise (follow false way c) = (if c = ".." then 1 else -1) + rise way := by
  obtain rfl | rfl | ⟨-, hup⟩ := component_cases c
  · exact absurd rfl hdot
  · cases way with
    | nil => rw [follow_up_nil, rise_cons]
    | cons last rest =>
      rw [follow_up_cons]
      by_cases hlast : last = ".."
      · rw [if_pos hlast, rise_cons]
      · rw [if_neg hlast, if_pos rfl, rise_cons, if_neg hlast]
        ring
  · rw [follow_name hdot hup, rise_cons]

/-- The steps of components that are followed add up. -/
theorem rise_foldl_follow (hdot : "." ∉ components) :
    rise (components.foldl (follow false) way) = rise way + rise components := by
  induction components generalizing way with
  | nil => simp [rise]
  | cons c components ih =>
    have hc : c ≠ "." := fun hc ↦ hdot (hc ▸ List.mem_cons_self)
    rw [List.foldl_cons, ih (List.not_mem_of_not_mem_cons hdot), rise_follow way hc, rise_cons]
    ring

/-- No component takes back a way up. -/
theorem count_up_le_foldl_follow (way components : List String) :
    way.count ".." ≤ (components.foldl (follow false) way).count ".." := by
  induction components generalizing way with
  | nil => exact le_refl _
  | cons c components ih =>
    refine le_trans ?_ (ih (follow false way c))
    obtain rfl | rfl | ⟨hdot, hup⟩ := component_cases c
    · rw [follow_dot]
    · cases way with
      | nil => exact Nat.zero_le _
      | cons last rest =>
        rw [follow_up_cons]
        split_ifs with hlast
        · exact List.count_le_count_cons
        · rw [List.count_cons_of_ne hlast]
    · rw [follow_name hdot hup, List.count_cons_of_ne hup]

/-- Ways up take back as many names. -/
theorem foldl_follow_replicate_up {names above : List String} (h : ".." ∉ names) :
    (List.replicate names.length "..").foldl (follow false) (names ++ above) = above := by
  induction names with
  | nil => rfl
  | cons name names ih =>
    have hname : name ≠ ".." := fun hname ↦ h (hname ▸ List.mem_cons_self)
    rw [List.length_cons, List.replicate_succ, List.foldl_cons, List.cons_append, follow_up_cons,
      if_neg hname]
    exact ih (List.not_mem_of_not_mem_cons h)

/-- A settled way ends with its ways up, below its names. -/
theorem Settled.eq_append (h : Settled way) :
    ∃ names, ".." ∉ names ∧ way = names ++ List.replicate (way.count "..") ".." := by
  induction way with
  | nil => exact ⟨[], by simp, rfl⟩
  | cons c way ih =>
    obtain ⟨names, hnames, hway⟩ := ih h.tail
    by_cases hc : c = ".."
    · -- everything below is a way up, so there are no names
      have hall : ∀ d ∈ way, d = ".." := fun d hd ↦ (List.pairwise_cons.mp h.ups).1 d hd hc
      refine ⟨[], by simp, ?_⟩
      subst hc
      rw [List.count_cons_self, List.replicate_succ, List.nil_append, List.count_eq_length.mpr
        (fun d hd ↦ (hall d hd).symm), ← List.eq_replicate_of_mem hall]
    · refine ⟨c :: names, ?_, ?_⟩
      · rw [List.mem_cons, not_or]
        exact ⟨fun h ↦ hc h.symm, hnames⟩
      · rw [List.count_cons_of_ne hc, List.cons_append, ← hway]

end

/-! ## A way told from a directory once more -/

/-- A way told from a directory. -/
def climb (directory way : List String) : List String :=
  way.reverse.foldl (follow false) directory

section
variable {directory way : List String}

theorem Settled.climb (hdirectory : Settled directory) (h : Settled way) :
    Settled (climb directory way) :=
  hdirectory.foldl_follow fun c hc ↦ h.isComponent c (List.mem_reverse.mp hc)

theorem rise_climb (h : Settled way) : rise (climb directory way) = rise directory + rise way := by
  rw [climb, rise_foldl_follow (by simpa using h.ne_dot), rise_reverse]

/-- A directory leaves a way as it is if it goes as far up as down and the way starts by going up
as far. -/
theorem climb_eq_self (hdirectory : Settled directory) (h : Settled way)
    (hlevel : rise directory = 0) (hups : directory.count ".." ≤ way.count "..") :
    climb directory way = way := by
  obtain ⟨below, hbelow, hsplit⟩ := hdirectory.eq_append
  obtain ⟨names, hnames, hway⟩ := h.eq_append
  obtain ⟨more, hmore⟩ := Nat.exists_eq_add_of_le hups
  -- the names of the directory are as many as its ways up
  have hlength : below.length = directory.count ".." := by
    have hsum := congrArg List.length hsplit
    rw [List.length_append, List.length_replicate] at hsum
    rw [rise] at hlevel
    omega
  generalize directory.count ".." = ups at hsplit hmore hlength
  subst hsplit hlength
  have hway' : way = (names ++ List.replicate more "..") ++ List.replicate below.length ".." := by
    rw [List.append_assoc, ← List.replicate_add, Nat.add_comm more, ← hmore, ← hway]
  rw [PathName.climb, hway', List.reverse_append, List.foldl_append, List.reverse_replicate,
    foldl_follow_replicate_up hbelow]
  exact Settled.foldl_follow_eq (hway' ▸ h)

/-- A way that a directory brings back to itself after a while is left as it is. -/
theorem iterate_climb_eq_self_iff (hdirectory : Settled directory) (h : Settled way) (n : ℕ) :
    (climb directory)^[n + 1] way = way ↔
      rise directory = 0 ∧ directory.count ".." ≤ way.count ".." := by
  have hsettled (n : ℕ) : Settled ((climb directory)^[n] way) := by
    induction n with
    | zero => exact h
    | succ n ih => exact Function.iterate_succ_apply' (climb directory) n way ▸ hdirectory.climb ih
  have hrise (n : ℕ) : rise ((climb directory)^[n] way) = n * rise directory + rise way := by
    induction n with
    | zero => simp
    | succ n ih =>
      rw [Function.iterate_succ_apply', rise_climb (hsettled n), ih]
      push_cast
      ring
  constructor
  · intro hback
    constructor
    · have hzero := hrise (n + 1)
      rw [hback] at hzero
      have hproduct : ((n + 1 : ℕ) : ℤ) * rise directory = 0 := by omega
      exact (mul_eq_zero.mp hproduct).resolve_left (by omega)
    · rw [← hback, Function.iterate_succ_apply']
      exact count_up_le_foldl_follow directory _
  · rintro ⟨hlevel, hups⟩
    exact Function.iterate_fixed (climb_eq_self hdirectory h hlevel hups) (n + 1)

end

/-! ## Ways spelled out -/

/-- Where a name that is not told from the root leads, last component first. -/
def wayOf (path : String) : List String := (components path).foldl (follow false) []

/-- The shortest name of a way. -/
def spell (way : List String) : String := if way = [] then "." else intercalate "/" way.reverse

section
variable {path : String} {way : List String}

theorem settled_wayOf (path : String) : Settled (wayOf path) :=
  Settled.nil.foldl_follow fun _ hc ↦ isComponent_of_mem hc

theorem components_dot : components "." = ["."] := rfl

/-- The components of a way that is spelled out lead along the way. -/
theorem foldl_follow_spell (h : Settled way) (directory : List String) :
    (components (spell way)).foldl (follow false) directory = climb directory way := by
  rw [spell]
  split_ifs with hway
  · rw [components_dot, hway]
    exact follow_dot directory
  · rw [components_intercalate fun c hc ↦ h.isComponent c (List.mem_reverse.mp hc), climb]

theorem wayOf_spell (h : Settled way) : wayOf (spell way) = way := by
  rw [wayOf, foldl_follow_spell h, climb, Settled.foldl_follow_eq (by simpa using h),
    List.append_nil]

theorem spell_inj {way' : List String} (h : Settled way) (h' : Settled way') :
    spell way = spell way' ↔ way = way' := by
  refine ⟨fun heq ↦ ?_, congrArg spell⟩
  rw [← wayOf_spell h, heq, wayOf_spell h']

/-- A way that is spelled out starts with a character that is no slash. -/
theorem exists_toList_spell_eq_cons (h : Settled way) :
    ∃ c cs, (spell way).toList = c :: cs ∧ c ≠ '/' := by
  rw [spell]
  split_ifs with hway
  · exact ⟨'.', [], rfl, by decide⟩
  · obtain ⟨first, more, hsplit⟩ :=
      List.exists_cons_of_ne_nil (mt List.reverse_eq_nil_iff.mp hway)
    have hfirst : IsComponent first :=
      h.isComponent first (List.mem_reverse.mp (hsplit ▸ List.mem_cons_self))
    obtain ⟨c, cs, hchars⟩ :=
      List.exists_cons_of_ne_nil (mt String.toList_eq_nil_iff.mp hfirst.1)
    have hslash : c ≠ '/' := fun hc ↦ hfirst.2 (hchars ▸ hc ▸ List.mem_cons_self)
    rw [toList_intercalate, hsplit, List.map_cons, hchars]
    cases more with
    | nil => exact ⟨c, cs, by simp, hslash⟩
    | cons d more => exact ⟨c, _, by rw [List.map_cons, List.intercalate_cons_cons]; rfl, hslash⟩

theorem spell_ne_empty (h : Settled way) : spell way ≠ "" := by
  obtain ⟨c, cs, hchars, -⟩ := exists_toList_spell_eq_cons h
  intro hempty
  simp [hempty] at hchars

theorem isAbsolute_spell (h : Settled way) : isAbsolute (spell way) = false := by
  obtain ⟨c, cs, hchars, hslash⟩ := exists_toList_spell_eq_cons h
  rw [isAbsolute, hchars, List.head?_cons]
  simpa using hslash

/-! ## Cleaning and joining -/

theorem clean_of_relative (h : isAbsolute path = false) : clean path = spell (wayOf path) := by
  have hempty : intercalate "/" (wayOf path).reverse = "" ↔ wayOf path = [] := by
    refine ⟨fun hjoined ↦ ?_, fun hway ↦ by rw [hway]; rfl⟩
    by_contra hway
    have hspelled := spell_ne_empty (settled_wayOf path)
    rw [spell, if_neg hway] at hspelled
    exact hspelled hjoined
  simp only [clean, h, Bool.false_eq_true, if_false, spell]
  exact if_congr hempty rfl rfl

theorem isAbsolute_clean (path : String) : isAbsolute (clean path) = isAbsolute path := by
  cases h : isAbsolute path with
  | true =>
    simp only [clean, h, if_true]
    simp [isAbsolute]
  | false => rw [clean_of_relative h, isAbsolute_spell (settled_wayOf path)]

theorem isAbsolute_append {a : String} (ha : a ≠ "") (b : String) :
    isAbsolute (a ++ b) = isAbsolute a := by
  obtain ⟨c, cs, hchars⟩ := List.exists_cons_of_ne_nil (mt String.toList_eq_nil_iff.mp ha)
  rw [isAbsolute, isAbsolute, toList_append, hchars]
  rfl

theorem clean_ne_empty (path : String) : clean path ≠ "" := by
  cases h : isAbsolute path with
  | true =>
    intro hempty
    have habsolute := isAbsolute_clean path
    rw [hempty, h] at habsolute
    exact absurd habsolute (by decide)
  | false => exact clean_of_relative h ▸ spell_ne_empty (settled_wayOf path)

/-- A name up to its last slash is told from the root if the name is. -/
theorem isAbsolute_throughLastSlash (path : String) :
    isAbsolute (throughLastSlash path) = isAbsolute path := by
  have hthrough : (throughLastSlash path).toList = path.toList.rdropWhile (· ≠ '/') := by
    rw [throughLastSlash, toList_ofList, List.rdropWhile]
  rw [isAbsolute, isAbsolute, hthrough]
  rcases hkept : path.toList.rdropWhile (· ≠ '/') with _ | ⟨d, ds⟩
  · rw [List.rdropWhile_eq_nil_iff] at hkept
    rcases hchars : path.toList with _ | ⟨c, cs⟩
    · rfl
    · have hc := hkept c (hchars ▸ List.mem_cons_self)
      simpa using hc.symm
  · obtain ⟨rest, hprefix⟩ := List.rdropWhile_prefix (fun c ↦ decide (c ≠ '/')) path.toList
    rw [← hprefix, hkept]
    rfl

theorem isAbsolute_directory (path : String) : isAbsolute (directory path) = isAbsolute path := by
  rw [directory, isAbsolute_clean, isAbsolute_throughLastSlash]

theorem directory_ne_empty (path : String) : directory path ≠ "" := clean_ne_empty _

theorem join_pair {a b : String} (ha : a ≠ "") (hb : b ≠ "") :
    join [a, b] = clean (a ++ "/" ++ b) := by
  have hfilter : [a, b].filter (· ≠ "") = [a, b] := by simp [ha, hb]
  rw [join, hfilter]
  rfl

/-- A name told from a directory that is not told from the root leads along its components from
where the directory leads. -/
theorem join_of_relative {directory name : String} (hdirectory : isAbsolute directory = false)
    (hne : directory ≠ "") (hname : name ≠ "") :
    join [directory, name] = spell ((components name).foldl (follow false) (wayOf directory)) := by
  have habsolute : isAbsolute (directory ++ "/" ++ name) = false := by
    rw [String.append_assoc, isAbsolute_append hne, hdirectory]
  rw [join_pair hne hname, clean_of_relative habsolute, wayOf, components_append, List.foldl_append]
  rfl

end

/-! ## The last component -/

/-- Slashes at the end of a name lead nowhere. -/
theorem components_append_slashes (path : String) (n : ℕ) :
    components (path ++ ofList (List.replicate n '/')) = components path := by
  induction n generalizing path with
  | zero => simp
  | succ n ih =>
    have hcut : path ++ ofList (List.replicate (n + 1) '/') =
        (path ++ "/" ++ "") ++ ofList (List.replicate n '/') := by
      apply toList_injective
      simp [List.replicate_succ]
    rw [hcut, ih, components_append]
    exact List.append_nil _

theorem components_dropSlashes (path : String) : components (dropSlashes path) = components path := by
  have hdropped : (dropSlashes path).toList = path.toList.rdropWhile (· = '/') := by
    rw [dropSlashes, toList_ofList, List.rdropWhile]
  have hslashes : path.toList.rtakeWhile (· = '/') =
      List.replicate (path.toList.rtakeWhile (· = '/')).length '/' :=
    List.eq_replicate_iff.mpr ⟨rfl, fun c hc ↦ by simpa using List.mem_rtakeWhile_imp hc⟩
  have hpath : dropSlashes path ++
      ofList (List.replicate (path.toList.rtakeWhile (· = '/')).length '/') = path := by
    apply toList_injective
    rw [toList_append, toList_ofList, ← hslashes, hdropped, List.rdropWhile_append_rtakeWhile]
  rw [← components_append_slashes (dropSlashes path), hpath]

theorem components_slash (a : String) : components (a ++ "/") = components a := by
  have hempty : components "" = [] := rfl
  rw [← append_empty (s := a ++ "/"), components_append, hempty, List.append_nil]

/-- A name is cut at its last slash, if it has one. -/
theorem throughLastSlash_cases (path : String) :
    (throughLastSlash path = "" ∧ afterLastSlash path = path) ∨
      ∃ front, throughLastSlash path = front ++ "/" ∧
        front ++ "/" ++ afterLastSlash path = path := by
  have hthrough : (throughLastSlash path).toList = path.toList.rdropWhile (· ≠ '/') := by
    rw [throughLastSlash, toList_ofList, List.rdropWhile]
  have hafter : (afterLastSlash path).toList = path.toList.rtakeWhile (· ≠ '/') := by
    rw [afterLastSlash, toList_ofList, List.rtakeWhile]
  have hcut : path.toList.rdropWhile (· ≠ '/') ++ path.toList.rtakeWhile (· ≠ '/') = path.toList :=
    List.rdropWhile_append_rtakeWhile
  obtain hnil | ⟨front, c, hfront⟩ := (path.toList.rdropWhile (· ≠ '/')).eq_nil_or_concat'
  · rw [hnil] at hthrough hcut
    exact .inl ⟨toList_injective hthrough, toList_injective (hafter.trans hcut)⟩
  · right
    obtain rfl : c = '/' := by
      have hkept := List.rdropWhile_last_not (fun c ↦ decide (c ≠ '/')) path.toList
        (hfront ▸ List.concat_ne_nil c front)
      simp only [hfront, List.getLast_append_singleton] at hkept
      simpa using hkept
    rw [hfront] at hthrough hcut
    refine ⟨ofList front, ?_, ?_⟩ <;> apply toList_injective
    · simp [hthrough]
    · rw [toList_append, toList_append, toList_ofList, hafter]
      exact hcut

theorem components_eq_append (path : String) :
    components path = components (throughLastSlash path) ++ components (afterLastSlash path) := by
  obtain ⟨hthrough, hafter⟩ | ⟨front, hthrough, hpath⟩ := throughLastSlash_cases path
  · rw [hthrough, hafter]
    rfl
  · rw [hthrough, components_slash, ← components_append, hpath]

/-- A name that does not end in a slash leads along what follows its last slash at last. -/
theorem components_of_not_slash {path : String} (hne : path ≠ "")
    (hslash : path.toList.getLast? ≠ some '/') :
    components path = components (throughLastSlash path) ++ [afterLastSlash path] := by
  have hafter : (afterLastSlash path).toList = path.toList.rtakeWhile (· ≠ '/') := by
    rw [afterLastSlash, toList_ofList, List.rtakeWhile]
  have hcomponent : IsComponent (afterLastSlash path) := by
    constructor
    · intro hempty
      have hnil : path.toList.rtakeWhile (· ≠ '/') = [] := by rw [← hafter, hempty]; rfl
      rw [List.rtakeWhile_eq_nil_iff] at hnil
      have hchars : path.toList ≠ [] := mt String.toList_eq_nil_iff.mp hne
      refine hslash ?_
      rw [List.getLast?_eq_getLast_of_ne_nil hchars]
      simpa using hnil hchars
    · rw [hafter]
      intro hmem
      simpa using List.mem_rtakeWhile_imp hmem
  rw [components_eq_append, components_singleton hcomponent]

theorem getLast?_components_of_not_slash {path : String} (hne : path ≠ "")
    (hslash : path.toList.getLast? ≠ some '/') :
    (components path).getLast? = some (afterLastSlash path) := by
  rw [components_of_not_slash hne hslash, List.getLast?_concat]

/-- A name that leads along components leads along its base last. -/
theorem getLast?_components {path : String} (h : components path ≠ []) :
    (components path).getLast? = some (base path) := by
  have hne : path ≠ "" := by
    rintro rfl
    exact h rfl
  have hdropped : dropSlashes path ≠ "" := by
    intro hempty
    rw [← components_dropSlashes, hempty] at h
    exact h rfl
  have hbase : base path = afterLastSlash (dropSlashes path) := by
    rw [base, if_neg hne]
    exact if_neg hdropped
  rw [← components_dropSlashes, hbase]
  refine getLast?_components_of_not_slash hdropped fun hlast ↦ ?_
  have hchars : (dropSlashes path).toList = path.toList.rdropWhile (· = '/') := by
    rw [dropSlashes, toList_ofList, List.rdropWhile]
  have hkept := List.rdropWhile_last_not (fun c ↦ decide (c = '/')) path.toList
    (hchars ▸ mt String.toList_eq_nil_iff.mp hdropped)
  rw [List.getLast?_eq_some_getLast (mt String.toList_eq_nil_iff.mp hdropped)] at hlast
  refine hkept ?_
  simpa [hchars] using hlast

/-! ## Characters of names -/

/-- Whether all characters of a name have a property. -/
def MadeOf (P : Char → Prop) (name : String) : Prop := ∀ d ∈ name.toList, P d

section
variable {P : Char → Prop} {path name : String}

theorem MadeOf.append (h : MadeOf P path) (h' : MadeOf P name) : MadeOf P (path ++ name) := by
  rw [MadeOf, toList_append, List.forall_mem_append]
  exact ⟨h, h'⟩

theorem madeOf_intercalate (hslash : P '/') {way : List String} (h : ∀ c ∈ way, MadeOf P c) :
    MadeOf P (intercalate "/" way) := by
  induction way with
  | nil => simp [MadeOf]
  | cons c way ih =>
    obtain ⟨hc, hway⟩ := List.forall_mem_cons.mp h
    cases way with
    | nil => simpa using hc
    | cons d way =>
      rw [intercalate_cons_cons]
      exact (hc.append (by simpa [MadeOf] using hslash)).append (ih hway)

theorem madeOf_of_mem_components (h : MadeOf P path) {c : String} (hc : c ∈ components path) :
    MadeOf P c := by
  rw [components, List.mem_filter, List.mem_map] at hc
  obtain ⟨⟨cs, hcs, rfl⟩, -⟩ := hc
  rw [MadeOf, toList_ofList]
  exact fun d hd ↦ h d (mem_of_mem_splitOn hcs hd).1

/-- Following components brings in no characters but points. -/
theorem madeOf_of_mem_foldl_follow (hdot : P '.') {absolute : Bool} {components way : List String}
    (hcomponents : ∀ c ∈ components, MadeOf P c) (hway : ∀ c ∈ way, MadeOf P c) :
    ∀ c ∈ components.foldl (follow absolute) way, MadeOf P c := by
  have hup : MadeOf P ".." := by simpa [MadeOf] using hdot
  induction components generalizing way with
  | nil => exact hway
  | cons component components ih =>
    obtain ⟨hcomponent, hcomponents⟩ := List.forall_mem_cons.mp hcomponents
    refine ih hcomponents ?_
    rw [follow.eq_def]
    by_cases hstill : component = "."
    · rwa [if_pos hstill]
    rw [if_neg hstill]
    by_cases hclimb : component = ".."
    · rw [if_pos hclimb]
      rcases way with _ | ⟨last, rest⟩ <;> dsimp only <;> split_ifs
      · exact List.forall_mem_nil _
      · exact List.forall_mem_singleton.mpr hup
      · exact List.forall_mem_cons.mpr ⟨hup, hway⟩
      · exact (List.forall_mem_cons.mp hway).2
    · rw [if_neg hclimb]
      exact List.forall_mem_cons.mpr ⟨hcomponent, hway⟩

/-- Cleaning a name brings in no characters but slashes and points. -/
theorem MadeOf.clean (h : MadeOf P path) (hslash : P '/') (hdot : P '.') : MadeOf P (clean path) := by
  have hway : ∀ c ∈ ((components path).foldl (follow (isAbsolute path)) []).reverse, MadeOf P c :=
    fun c hc ↦ madeOf_of_mem_foldl_follow hdot (fun _ ↦ madeOf_of_mem_components h)
      (List.forall_mem_nil _) c (List.mem_reverse.mp hc)
  have hjoined := madeOf_intercalate hslash hway
  have hroot : MadeOf P "/" := by simpa [MadeOf] using hslash
  have hhere : MadeOf P "." := by simpa [MadeOf] using hdot
  rw [PathName.clean]
  split_ifs
  · exact hroot.append hjoined
  · exact hhere
  · exact hjoined

theorem MadeOf.directory (h : MadeOf P path) (hslash : P '/') (hdot : P '.') :
    MadeOf P (directory path) := by
  refine MadeOf.clean (fun d hd ↦ h d ?_) hslash hdot
  rw [throughLastSlash, toList_ofList, List.mem_reverse] at hd
  exact List.mem_reverse.mp ((List.dropWhile_sublist _).mem hd)

end

end PathQuery.PathName
