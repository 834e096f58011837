import Mathlib.Algebra.Group.Int.Defs
import PathQuery.Config.Basic
import PathQuery.Proofs.Number.Digits
import PathQuery.Proofs.Toml.Lines

/-!
# Written configurations

A configuration is read back from what is written of it, as long as its numbers are natural
numbers of 63 bits and no text holds the replacement character, which may not stand in a document
and is not escaped.
-/

namespace PathQuery

open Toml

namespace Config

/-! ## Strings -/

section
variable {rest : List Char}

theorem length_hexDigits (width n : ℕ) : (hexDigits width n).length = width := by
  induction width generalizing n with
  | zero => rfl
  | succ width ih => rw [hexDigits, List.length_append, ih, List.length_singleton]

/-- An escaped character by its number is read as the character. -/
theorem readEscape_hexDigits {c : Char} (hc : c.toNat < 128) :
    readEscape ('u' :: (hexDigits 4 c.toNat ++ rest)) = some (c, rest) := by
  have hnumber : ∀ n < 128, hexNumber (hexDigits 4 n) = some n := by decide +kernel
  have htake : (hexDigits 4 c.toNat ++ rest).take 4 = hexDigits 4 c.toNat :=
    List.take_left' (length_hexDigits 4 _)
  have hdrop : (hexDigits 4 c.toNat ++ rest).drop 4 = rest := List.drop_left' (length_hexDigits 4 _)
  have hscalar : scalar? c.toNat = some c := by
    rw [scalar?, if_pos, Char.ofNat_toNat]
    simp
    omega
  rw [readEscape]
  simp only [htake, hdrop, length_hexDigits, hnumber _ hc, hscalar, ne_eq, not_true_eq_false,
    if_false, Option.bind_eq_bind, Option.bind_some]
  rfl

/-- A character of a string stands as it is, or behind a backslash as what is read as it. -/
theorem escapeChar_cases (c : Char) :
    escapeChar c = [c] ∧ c ≠ '"' ∧ c ≠ '\\' ∧ isBreak c = false ∨
      ∃ escaped, escapeChar c = '\\' :: escaped ∧
        ∀ rest, readEscape (escaped ++ rest) = some (c, rest) := by
  rw [escapeChar.eq_def]
  split
  · exact .inr ⟨['"'], rfl, fun _ ↦ rfl⟩
  · exact .inr ⟨['\\'], rfl, fun _ ↦ rfl⟩
  · exact .inr ⟨['n'], rfl, fun _ ↦ rfl⟩
  · exact .inr ⟨['t'], rfl, fun _ ↦ rfl⟩
  · exact .inr ⟨['r'], rfl, fun _ ↦ rfl⟩
  next hquote hslash hfeed htab hreturn =>
  split_ifs with h8 h12 hcontrol
  · obtain rfl : c = Char.ofNat 8 := by rw [← h8, Char.ofNat_toNat]
    exact .inr ⟨['b'], rfl, fun _ ↦ rfl⟩
  · obtain rfl : c = Char.ofNat 12 := by rw [← h12, Char.ofNat_toNat]
    exact .inr ⟨['f'], rfl, fun _ ↦ rfl⟩
  · refine .inr ⟨'u' :: hexDigits 4 c.toNat, rfl, fun rest ↦ readEscape_hexDigits ?_⟩
    simp only [Bool.or_eq_true, decide_eq_true_eq] at hcontrol
    omega
  · refine .inl ⟨rfl, hquote, hslash, ?_⟩
    simpa [isBreak] using ⟨hfeed, hreturn⟩

/-- The characters of a string are read up to the closing quote. -/
theorem readBasic_escaped (cs acc : List Char) {fuel : ℕ} (hfuel : cs.length < fuel) :
    readBasic fuel acc (cs.flatMap escapeChar ++ '"' :: rest) =
      some (String.ofList (acc.reverse ++ cs), rest) := by
  induction cs generalizing acc fuel with
  | nil =>
    obtain ⟨fuel, rfl⟩ := Nat.exists_eq_succ_of_ne_zero (Nat.ne_zero_of_lt hfuel)
    rw [List.flatMap_nil, List.nil_append, List.append_nil, readBasic]
  | cons c cs ih =>
    obtain ⟨fuel, rfl⟩ := Nat.exists_eq_succ_of_ne_zero (Nat.ne_zero_of_lt hfuel)
    have hrest := ih (c :: acc) (show cs.length < fuel by rw [List.length_cons] at hfuel; omega)
    rw [List.reverse_cons, List.append_assoc, List.singleton_append] at hrest
    rw [List.flatMap_cons, List.append_assoc]
    obtain ⟨hplain, hquote, hslash, hbreak⟩ | ⟨escaped, hescaped, hread⟩ := escapeChar_cases c
    · rw [hplain, List.singleton_append, readBasic]
      · rw [hbreak]
        exact hrest
      · exact hquote
      · exact hslash
    · rw [hescaped, List.cons_append, readBasic, hread]
      exact hrest

/-- What stands behind the opening quote of a string does not make it one over several lines. -/
theorem readString_escaped (cs rest : List Char) :
    readString ('"' :: (cs.flatMap escapeChar ++ '"' :: '\n' :: rest)) =
      some (String.ofList cs, '\n' :: rest) := by
  have hread : readBasic ((cs.flatMap escapeChar ++ '"' :: '\n' :: rest).length + 1) []
      (cs.flatMap escapeChar ++ '"' :: '\n' :: rest) = some (String.ofList cs, '\n' :: rest) := by
    refine readBasic_escaped cs [] ?_
    have hlength := length_le_length_flatMap (f := escapeChar) (fun c ↦ ?_) cs
    · rw [List.length_append]
      omega
    · obtain ⟨h, -⟩ | ⟨_, h, -⟩ := escapeChar_cases c <;> simp [h]
  rw [readString.eq_def]
  split
  · next h =>
    -- a quote within the string is escaped, and the closing one ends its line
    exfalso
    rcases cs with _ | ⟨c, cs⟩
    · simp at h
    · obtain ⟨hc, hquote, -⟩ | ⟨_, hc, -⟩ := escapeChar_cases c <;> simp_all
  · next h => simp at h
  · next h =>
    obtain rfl := (List.cons.inj h).2
    exact hread
  · next h => simp at h
  · next hnot _ => exact absurd rfl (hnot _)

theorem toList_writeString (s : String) :
    (writeString s).toList = '"' :: (s.toList.flatMap escapeChar ++ ['"']) := by
  rw [writeString, String.toList_ofList]
  rfl

theorem readsAs_writeString (s : String) : ReadsAs (writeString s).toList (.string s) := by
  intro fuel rest
  have hread := readString_escaped s.toList rest
  have hquote (body : List Char) : readValue (fuel + 1) (' ' :: '"' :: body) =
      (readString ('"' :: body)).bind fun read ↦ some (.string read.1, read.2) := rfl
  rw [toList_writeString, List.cons_append, List.append_assoc, List.singleton_append, hquote, hread,
    Option.bind_some, String.ofList_toList]

end

/-! ## Numbers and truth values -/

/-- Digits are read as an integer when their line ends behind them. -/
theorem readNumber_of_isDigit {c : Char} {cs : List Char} {value : Literal}
    (hds : ∀ d ∈ c :: cs, d.isDigit = true) (hbase : c ≠ '0' ∨ cs = [])
    (hvalue : integerValue (c :: cs) = some value) (rest : List Char) :
    readNumber (c :: cs ++ '\n' :: rest) = some (value, '\n' :: rest) := by
  have hrun : (c :: cs ++ '\n' :: rest).takeWhile Char.isDigit = c :: cs := by
    rw [List.takeWhile_append_of_pos hds, List.takeWhile_cons_of_neg (by decide), List.append_nil]
  have hend : (c :: cs ++ '\n' :: rest).drop (c :: cs).length = '\n' :: rest :=
    List.drop_left' rfl
  have hdecimal : readDecimal (c :: cs) ('\n' :: rest) = some (value, '\n' :: rest) := by
    have hno : ('\n' :: rest).takeWhile (fun c ↦ c.isDigit || c = '_') = [] :=
      List.takeWhile_cons_of_neg (by decide)
    simp only [readDecimal, hno, List.length_nil, List.drop_zero, List.append_nil, hvalue]
    rfl
  have hhead {d : Char} {more : List Char} (hd : d ≠ '\n')
      (heq : c :: cs ++ '\n' :: rest = '0' :: d :: more) : False := by
    obtain ⟨rfl, htail⟩ := List.cons.inj heq
    obtain hc | rfl := hbase
    · exact hc rfl
    · exact hd (List.cons.inj htail).1.symm
  rw [readNumber.eq_def]
  split
  · next heq => exact (hhead (by decide) heq).elim
  · next heq => exact (hhead (by decide) heq).elim
  · next heq => exact (hhead (by decide) heq).elim
  · simp only [hrun, hend]
    exact hdecimal

theorem underscoresFit_of_isDigit {cs : List Char} (hne : cs ≠ [])
    (hcs : ∀ c ∈ cs, c.isDigit = true) : underscoresFit cs = true := by
  have hgo {cs : List Char} (hcs : ∀ c ∈ cs, c.isDigit = true) : underscoresFit.go true cs = true := by
    induction cs with
    | nil => rfl
    | cons c cs ih =>
      obtain ⟨hc, hcs⟩ := List.forall_mem_cons.mp hcs
      have hhex : (hexValue? c).isSome = true := by rw [hexValue?, if_pos hc]; rfl
      rw [underscoresFit.go, hhex, ih hcs]
      simp
  obtain ⟨c, cs, rfl⟩ := List.exists_cons_of_ne_nil hne
  obtain ⟨hc, hcs⟩ := List.forall_mem_cons.mp hcs
  have hhex : (hexValue? c).isSome = true := by rw [hexValue?, if_pos hc]; rfl
  have hunder : c ≠ '_' := ne_of_isDigit hc (by decide)
  rw [underscoresFit, underscoresFit.go, hhex, hgo hcs]
  simp [hunder]

/-- The digits of a number are in the form of an integer. -/
theorem integerValue_toDigits {n : ℕ} (h : n < Nat.pow 2 63) :
    integerValue (Nat.toDigits 10 n) = some (.integer n) := by
  have hfit : underscoresFit (Nat.toDigits 10 n) = true :=
    underscoresFit_of_isDigit Nat.toDigits_ne_nil fun _ ↦ isDigit_of_mem_toDigits
  have hfilter : (Nat.toDigits 10 n).filter (· ≠ '_') = Nat.toDigits 10 n :=
    List.filter_eq_self.mpr fun c hc ↦ by
      simpa using ne_of_isDigit (isDigit_of_mem_toDigits hc) (by decide)
  have hread := readInt_toDigits h
  by_cases hn : n = 0
  · subst hn
    rfl
  obtain ⟨c, cs, hchars, hzero⟩ := exists_toDigits_eq_cons hn
  have hc : c.isDigit = true := isDigit_of_mem_toDigits (hchars ▸ List.mem_cons_self)
  rw [hchars] at hfit hfilter hread ⊢
  have hlead : hasLeadingZero (c :: cs) = false := by
    rw [hasLeadingZero.eq_def]
    split
    · next heq => exact absurd (List.cons.inj heq).1 hzero
    · next heq => exact absurd (List.cons.inj heq).1 (ne_of_isDigit hc (by decide))
    · next heq => exact absurd (List.cons.inj heq).1 (ne_of_isDigit hc (by decide))
    · rfl
  simp only [integerValue, hfit, hlead, hfilter]
  rw [if_neg (by decide)]
  split
  · next heq => exact absurd (List.cons.inj heq).1 hzero
  · next heq => exact absurd (List.cons.inj heq).1 hzero
  · next heq => exact absurd (List.cons.inj heq).1 hzero
  · rw [hread]
    rfl

theorem readsAs_natural {n : ℕ} (h : n < Nat.pow 2 63) :
    ReadsAs (Nat.toDigits 10 n) (.integer n) := by
  intro fuel rest
  have hvalue := integerValue_toDigits h
  have hds : ∀ d ∈ Nat.toDigits 10 n, d.isDigit = true := fun _ ↦ isDigit_of_mem_toDigits
  have hzero : ∀ c cs, Nat.toDigits 10 n = c :: cs → c ≠ '0' ∨ cs = [] := by
    intro c cs hchars
    by_cases hn : n = 0
    · subst hn
      cases hchars
      exact .inr rfl
    · obtain ⟨c', cs', hchars', hc⟩ := exists_toDigits_eq_cons hn
      cases hchars.symm.trans hchars'
      exact .inl hc
  obtain ⟨c, cs, hchars⟩ := List.exists_cons_of_ne_nil (Nat.toDigits_ne_nil (n := n) (b := 10))
  rw [hchars] at hvalue hds ⊢
  have hread := readNumber_of_isDigit hds (hzero c cs hchars) hvalue rest
  have hc : c.isDigit = true := hds c List.mem_cons_self
  have hspace : isSpace c = false := by
    simp only [isSpace, Bool.or_eq_false_iff, decide_eq_false_iff_not]
    exact ⟨ne_of_isDigit hc (by decide), ne_of_isDigit hc (by decide)⟩
  have hskip : skipSpaces (' ' :: (c :: cs ++ '\n' :: rest)) = c :: (cs ++ '\n' :: rest) :=
    skipSpaces_of_not hspace
  -- no other value starts with a digit
  have hnot {d : Char} {more : List Char} (hd : d.isDigit = false)
      (heq : c :: (cs ++ '\n' :: rest) = d :: more) : False :=
    ne_of_isDigit hc hd (List.cons.inj heq).1
  rw [readValue, hskip]
  split
  case h_11 heq =>
    obtain ⟨rfl, rfl⟩ := List.cons.inj heq
    rw [if_pos hc]
    exact hread
  case h_12 heq => cases heq
  all_goals next heq => exact (hnot (by decide) heq).elim

theorem readsAs_bool (b : Bool) : ReadsAs (if b then "true" else "false").toList (.bool b) := by
  intro fuel rest
  cases b <;> rfl

/-! ## Documents -/

/-- A value as it is written. -/
def writeScalar : Scalar → String
  | .string s => writeString s
  | .integer n => toString n
  | .bool b => if b then "true" else "false"

/-- The values of a configuration that stand above its sections. -/
def topValues (c : Config) : List (String × Scalar) := [("schema", .string c.schema)]

/-- The sections of a configuration. -/
def sections (c : Config) : List Section := [
  ⟨"database", [("dsn", .string c.source)]⟩,
  ⟨"dialect", [("name", .string c.dialect), ("public_schema", .string c.publicSchema),
    ("inline_list_threshold", .integer c.threshold), ("bulk_membership", .bool c.bulk)]⟩,
  ⟨"materialize", [("batch_size", .integer c.batchSize)]⟩,
  ⟨"log", [("level", .string c.logLevel), ("format", .string c.logFormat)]⟩,
  ⟨"metrics", [("addr", .string c.metricsAddress)]⟩,
  ⟨"ui", [("accent", .string c.accent), ("code_theme", .string c.codeTheme)]⟩]

/-- The comments that a written configuration starts with. -/
def comments : List (List Char) :=
  [" sqlgraph configuration", "", " dialect.name: sqlite or postgres",
    " log.level:    debug, info, warn, error",
    " metrics.addr: listen address for /metrics, empty to disable"].map String.toList

/-- What is written of a configuration. -/
def document (c : Config) : String := preamble ++ c.render

theorem toList_preamble :
    preamble.toList = (comments.flatMap fun line ↦ '#' :: (line ++ ['\n'])) ++ ['\n'] := by
  -- the lines are put together as texts, which is faster than to spell all of them out
  have hlines : preamble = "#" ++ " sqlgraph configuration" ++ "\n" ++ ("#" ++ "" ++ "\n") ++
      ("#" ++ " dialect.name: sqlite or postgres" ++ "\n") ++
      ("#" ++ " log.level:    debug, info, warn, error" ++ "\n") ++
      ("#" ++ " metrics.addr: listen address for /metrics, empty to disable" ++ "\n") ++ "\n" := by
    rfl
  have hhash : "#".toList = ['#'] := by decide
  have hbreak : "\n".toList = ['\n'] := by decide
  rw [hlines]
  simp only [comments, String.toList_append, hhash, hbreak, List.map_cons, List.map_nil,
    List.flatMap_cons, List.flatMap_nil, List.append_assoc, List.cons_append, List.nil_append]

theorem toList_writeSection (name : String) (values : List (String × Scalar)) :
    (writeSection name (values.map fun (key, v) ↦ (key, writeScalar v))).toList =
      (Section.lines (fun v ↦ (writeScalar v).toList) ⟨name, values⟩).flatMap Line.chars := by
  simp [writeSection, Section.lines, valueLines, Line.header, Line.assignment, Line.chars,
    List.flatMap_map]

theorem toList_document (c : Config) :
    c.document.toList = (comments.flatMap fun line ↦ '#' :: (line ++ ['\n'])) ++ '\n' ::
      (documentLines (fun v ↦ (writeScalar v).toList) c.topValues c.sections).flatMap Line.chars := by
  have hrender : c.render = "schema = " ++ writeString c.schema ++ "\n" ++ String.join
      (c.sections.map fun s ↦ writeSection s.name (s.values.map fun (key, v) ↦ (key, writeScalar v))) := by
    unfold render
    simp [sections, writeScalar, String.append_assoc]
  have hsections : (String.join (c.sections.map fun s ↦
      writeSection s.name (s.values.map fun (key, v) ↦ (key, writeScalar v)))).toList =
        (c.sections.flatMap (Section.lines fun v ↦ (writeScalar v).toList)).flatMap Line.chars := by
    rw [String.toList_join, List.flatMap_map, List.flatMap_assoc]
    exact congrArg (c.sections.flatMap ·) (funext fun s ↦ toList_writeSection s.name s.values)
  have htop : ("schema = " ++ writeString c.schema ++ "\n").toList =
      (valueLines (fun v ↦ (writeScalar v).toList) 0 c.topValues).flatMap Line.chars := by
    simp [topValues, valueLines, Line.assignment, Line.chars, writeScalar]
  rw [document, String.toList_append, toList_preamble, hrender, String.toList_append, hsections,
    htop, documentLines, List.flatMap_append, List.append_assoc, List.singleton_append]

/-! ## Characters of documents -/

/-- A character that may stand anywhere in a document. -/
def IsFree (c : Char) : Prop := isAllowed c = true ∧ c ≠ '\r'

instance (c : Char) : Decidable (IsFree c) := inferInstanceAs (Decidable (_ ∧ _))

theorem isFree_of_le {c : Char} (hlow : 0x20 ≤ c.toNat) (hdelete : c.toNat ≠ 0x7F)
    (hreplacement : c ≠ '\uFFFD') : IsFree c := by
  constructor
  · have hcode : c.toNat ≠ 0xFFFD := fun h ↦ hreplacement (by rw [← Char.ofNat_toNat c, h])
    simp [isAllowed, hlow, hdelete, hcode]
  · rintro rfl
    exact absurd hlow (by decide)

/-- What a character below 128 is, it may be found by going through all of them. -/
theorem forall_of_toNat_lt {P : Char → Prop} (h : ∀ n < 128, P (Char.ofNat n)) {c : Char}
    (hc : c.toNat < 128) : P c := by
  have hP := h c.toNat hc
  rwa [Char.ofNat_toNat] at hP

theorem toNat_lt_of_isBareKey {c : Char} (h : isBareKey c = true) : c.toNat < 128 := by
  have hletters : c.isAlphanum = (decide ('A'.val ≤ c.val ∧ c.val ≤ 'Z'.val) ||
      (decide ('a'.val ≤ c.val) && decide (c.val ≤ 'z'.val)) || c.isDigit) := rfl
  simp only [isBareKey, hletters, Char.isDigit, Bool.or_eq_true, Bool.and_eq_true,
    decide_eq_true_eq, ge_iff_le, UInt32.le_iff_toNat_le] at h
  obtain (((⟨-, h⟩ | ⟨-, h⟩) | ⟨-, h⟩) | rfl) | rfl := h
  · exact Nat.lt_of_le_of_lt h (by decide)
  · exact Nat.lt_of_le_of_lt h (by decide)
  · exact Nat.lt_of_le_of_lt h (by decide)
  · decide
  · decide

theorem isFree_of_isBareKey {c : Char} (h : isBareKey c = true) : IsFree c :=
  forall_of_toNat_lt (P := fun c ↦ isBareKey c = true → IsFree c) (by decide +kernel)
    (toNat_lt_of_isBareKey h) h

theorem isFree_of_isDigit {c : Char} (h : c.isDigit = true) : IsFree c :=
  isFree_of_isBareKey (by simp [isBareKey, Char.isAlphanum, h])

theorem escapeChar_of_le {c : Char} (h : 128 ≤ c.toNat) : escapeChar c = [c] := by
  rw [escapeChar.eq_def]
  split
  case h_6 => rw [if_neg (by omega), if_neg (by omega), if_neg (by simp; omega)]
  all_goals exact absurd h (by decide)

theorem isFree_of_mem_escapeChar {c d : Char} (hc : c ≠ '\uFFFD') (hd : d ∈ escapeChar c) :
    IsFree d := by
  by_cases hlt : c.toNat < 128
  · have hall : ∀ n < 128, (escapeChar (Char.ofNat n)).all (fun d ↦ decide (IsFree d)) := by
      decide +kernel
    have hc := forall_of_toNat_lt (P := fun c ↦ (escapeChar c).all fun d ↦ decide (IsFree d)) hall hlt
    exact of_decide_eq_true (List.all_eq_true.mp hc d hd)
  · rw [escapeChar_of_le (by omega), List.mem_singleton] at hd
    subst hd
    exact isFree_of_le (by omega) (by omega) hc

theorem isFree_of_mem_writeString {s : String} (hs : '\uFFFD' ∉ s.toList) {c : Char}
    (hc : c ∈ (writeString s).toList) : IsFree c := by
  rw [toList_writeString, List.mem_cons, List.mem_append, List.mem_flatMap, List.mem_singleton] at hc
  obtain rfl | ⟨d, hd, hc⟩ | rfl := hc
  · decide
  · exact isFree_of_mem_escapeChar (ne_of_mem_of_not_mem hd hs) hc
  · decide

theorem isFree_of_mem_chars {l : Line} (hl : l.lead = ['\n'] ∨ ∃ n, l.lead = List.replicate n ' ')
    (htext : ∀ c ∈ l.text, IsFree c) : ∀ c ∈ l.chars, IsFree c := by
  intro c hc
  rw [Line.chars, List.mem_append, List.mem_append, List.mem_singleton] at hc
  obtain hc | hc | rfl := hc
  · obtain hl | ⟨n, hl⟩ := hl <;> rw [hl] at hc
    · rw [List.mem_singleton.mp hc]
      decide
    · rw [List.eq_of_mem_replicate hc]
      decide
  · exact htext c hc
  · decide

/-- The characters of lines may stand in a document if those of their values may. -/
theorem isFree_of_mem_valueLines {write : Scalar → List Char} {values : List (String × Scalar)}
    (hkeys : ∀ entry ∈ values, IsBare entry.1)
    (hvalues : ∀ entry ∈ values, ∀ c ∈ write entry.2, IsFree c) (margin : ℕ) :
    ∀ c ∈ (valueLines write margin values).flatMap Line.chars, IsFree c := by
  intro c hc
  obtain ⟨l, hl, hc⟩ := List.mem_flatMap.mp hc
  obtain ⟨entry, hentry, rfl⟩ := List.mem_map.mp hl
  refine isFree_of_mem_chars (.inr ⟨margin, rfl⟩) (fun d hd ↦ ?_) c hc
  simp only [Line.assignment, List.mem_append, List.mem_cons] at hd
  obtain hd | rfl | rfl | rfl | hd := hd
  · exact isFree_of_isBareKey ((hkeys entry hentry).2 d hd)
  · decide
  · decide
  · decide
  · exact hvalues entry hentry d hd

theorem isFree_of_mem_header {name : String} (hname : IsBare name) :
    ∀ c ∈ (Line.header name).chars, IsFree c := by
  refine isFree_of_mem_chars (.inl rfl) fun d hd ↦ ?_
  simp only [Line.header, List.mem_append, List.mem_cons, List.not_mem_nil, or_false] at hd
  obtain rfl | hd | rfl := hd
  · decide
  · exact isFree_of_isBareKey (hname.2 d hd)
  · decide

/-! ## Reading back -/

/-- Whether a value can be written. A text can unless it holds the replacement character, which may
not stand in a document and is not escaped, and a number if it is a natural number of 63 bits. -/
def IsWritable : Scalar → Prop
  | .string s => '\uFFFD' ∉ s.toList
  | .integer n => 0 ≤ n ∧ n < 2 ^ 63
  | .bool _ => True

instance : DecidablePred IsWritable
  | .string s => inferInstanceAs (Decidable ('\uFFFD' ∉ s.toList))
  | .integer n => inferInstanceAs (Decidable (0 ≤ n ∧ n < 2 ^ 63))
  | .bool _ => inferInstanceAs (Decidable True)

/-- The values of a configuration. -/
def values (c : Config) : List (String × Scalar) :=
  c.topValues ++ c.sections.flatMap (·.values)

theorem toList_toString_natCast (n : ℕ) : (toString (n : Int)).toList = Nat.toDigits 10 n := by
  rw [show toString (n : Int) = Nat.repr n from rfl, Nat.toList_repr]

theorem readsAs_writeScalar {v : Scalar} (h : IsWritable v) :
    ReadsAs (writeScalar v).toList v.literal := by
  cases v with
  | string s => exact readsAs_writeString s
  | bool b => exact readsAs_bool b
  | integer n =>
    obtain ⟨n, rfl⟩ := Int.eq_ofNat_of_zero_le h.1
    rw [writeScalar, toList_toString_natCast]
    exact readsAs_natural (by have := h.2; simp; omega)

theorem isFree_of_mem_writeScalar {v : Scalar} (h : IsWritable v) :
    ∀ c ∈ (writeScalar v).toList, IsFree c := by
  intro c hc
  cases v with
  | string s => exact isFree_of_mem_writeString h hc
  | bool b =>
    have hall : (writeScalar (.bool b)).toList.all fun d ↦ decide (IsFree d) := by
      cases b <;> decide
    exact of_decide_eq_true (List.all_eq_true.mp hall c hc)
  | integer n =>
    obtain ⟨n, rfl⟩ := Int.eq_ofNat_of_zero_le h.1
    rw [writeScalar, toList_toString_natCast] at hc
    exact isFree_of_isDigit (isDigit_of_mem_toDigits hc)

/-- The names of the sections with their keys. -/
def layout : List (String × List String) :=
  (sections {}).map fun s ↦ (s.name, s.values.map (·.1))

instance (key : String) : Decidable (IsBare key) :=
  decidable_of_iff (key ≠ "" ∧ key.toList.all isBareKey = true) (by rw [IsBare, List.all_eq_true])

theorem layout_eq (c : Config) :
    (c.sections.map fun s ↦ (s.name, s.values.map (·.1))) = layout := rfl

/-- All names and keys are bare, and none comes twice. -/
theorem isBare_layout : (∀ s ∈ layout, IsBare s.1 ∧ (∀ key ∈ s.2, IsBare key) ∧ s.2.Nodup) ∧
    (["schema"] ++ layout.map (·.1)).Nodup := by
  decide +kernel

section
variable {c : Config} (h : ∀ entry ∈ c.values, IsWritable entry.2)
include h

theorem legible_topValues : Legible (fun v ↦ (writeScalar v).toList) c.topValues where
  isBare := List.forall_mem_singleton.mpr (show IsBare "schema" by decide +kernel)
  nodup := List.nodup_singleton _
  readsAs entry hentry := readsAs_writeScalar (h entry (List.mem_append_left _ hentry))

omit h in
theorem isBare_sections {s : Section} (hs : s ∈ c.sections) :
    IsBare s.name ∧ (∀ key ∈ s.values.map (·.1), IsBare key) ∧ (s.values.map (·.1)).Nodup :=
  isBare_layout.1 (s.name, s.values.map (·.1)) (layout_eq c ▸ List.mem_map.mpr ⟨s, hs, rfl⟩)

theorem legible_sections : ∀ s ∈ c.sections, IsBare s.name ∧
    Legible (fun v ↦ (writeScalar v).toList) s.values := by
  intro s hs
  obtain ⟨hname, hkeys, hnodup⟩ := isBare_sections hs
  refine ⟨hname, fun entry hentry ↦ hkeys _ (List.mem_map_of_mem hentry), hnodup,
    fun entry hentry ↦ readsAs_writeScalar (h entry ?_)⟩
  exact List.mem_append_right _ (List.mem_flatMap.mpr ⟨s, hs, hentry⟩)

/-- All characters of a written configuration may stand in a document. -/
theorem isFree_of_mem_document : ∀ d ∈ c.document.toList, IsFree d := by
  have hpreface : (comments.flatMap fun line ↦ '#' :: (line ++ ['\n'])).all fun d ↦
      decide (IsFree d) := by
    decide +kernel
  have hlines : ∀ d ∈ (documentLines (fun v ↦ (writeScalar v).toList) c.topValues c.sections).flatMap
      Line.chars, IsFree d := by
    intro d hd
    rw [documentLines, List.flatMap_append, List.mem_append] at hd
    obtain hd | hd := hd
    · exact isFree_of_mem_valueLines (legible_topValues h).isBare (fun entry hentry ↦
        isFree_of_mem_writeScalar (h entry (List.mem_append_left _ hentry))) 0 d hd
    · obtain ⟨l, hl, hd⟩ := List.mem_flatMap.mp hd
      obtain ⟨s, hs, hl⟩ := List.mem_flatMap.mp hl
      obtain ⟨hname, hlegible⟩ := legible_sections h s hs
      obtain rfl | hl := List.mem_cons.mp hl
      · exact isFree_of_mem_header hname d hd
      · refine isFree_of_mem_valueLines hlegible.isBare (fun entry hentry ↦
          isFree_of_mem_writeScalar (h entry ?_)) 2 d (List.mem_flatMap.mpr ⟨l, hl, hd⟩)
        exact List.mem_append_right _ (List.mem_flatMap.mpr ⟨s, hs, hentry⟩)
  intro d hd
  rw [toList_document, List.mem_append, List.mem_cons] at hd
  obtain hd | rfl | hd := hd
  · exact of_decide_eq_true (List.all_eq_true.mp hpreface d hd)
  · decide
  · exact hlines d hd

/-- A configuration whose values can be written is read back from what is written of it. -/
theorem parse?_document : parse? c.document = some c := by
  have hcomments : comments.all fun line ↦ line.all fun c ↦ !isBreak c := by decide +kernel
  have hdocument := parse_document c.toList_document (isFree_of_mem_document h)
    (by simpa only [List.all_eq_true, Bool.not_eq_true'] using hcomments) (List.cons_ne_nil _ _)
    (legible_topValues h) (legible_sections h) isBare_layout.2
  rw [parse?, hdocument]
  rfl

end

end Config

end PathQuery
