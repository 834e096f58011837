import Mathlib.Data.List.Infix
import PathQuery.Compile.Basic
import PathQuery.Proofs.Text.Glyphs
import PathQuery.Sql.Fragment

/-!
# Patterns of text comparisons

A pattern has two marks, one for any sequence and one for any character, and an escape that takes
the character behind it for itself. Escaping puts the escape before every mark and before itself, so
an escaped text reads as its own characters, one after the other, and a comparison with it is
literal. What stands around it in a pattern are marks for any sequence: behind it for the texts that
start with it, before it for those that end with it, and on both sides for those that contain it.

All of this holds whatever the characters are. A text is a byte string that is meant to be read as
UTF-8, and it may hold strays. So patterns are read in two alphabets: that of the bytes, in which
operands are escaped, and that of the glyphs, in which a database compares them. The marks are
ASCII, and no glyph of more than one byte holds an ASCII byte, which is why the glyphs of an escaped
text are the escaped glyphs of the text.
-/

namespace PathQuery

/-! ## Marks -/

/-- The characters of an alphabet that mean something in a pattern. -/
structure PatternMarks (α : Type) where
  /-- Stands before a character that means itself. -/
  escape : α
  /-- Stands for any sequence. -/
  any : α
  /-- Stands for any one character. -/
  one : α
  /-- They are different. -/
  nodup : [escape, any, one].Nodup

/-- What a place in a pattern asks for. -/
inductive PatternItem (α : Type) where
  /-- Any sequence of characters. -/
  | any
  /-- Any one character. -/
  | one
  /-- A character. -/
  | exactly (c : α)
  deriving DecidableEq, Repr

namespace PatternMarks

variable {α : Type} [DecidableEq α] (m : PatternMarks α)

/-- What a character that is not escaped asks for. -/
def item (c : α) : PatternItem α :=
  if c = m.any then .any else if c = m.one then .one else .exactly c

/-- Reads a pattern. `escaped` tells whether an escape stands before it. A pattern that ends in an
escape is malformed. -/
def readFrom : Bool → List α → Option (List (PatternItem α))
  | false, [] => some []
  | true, [] => none
  | true, c :: cs => (readFrom false cs).map (.exactly c :: ·)
  | false, c :: cs =>
    if c = m.escape then readFrom true cs else (readFrom false cs).map (m.item c :: ·)

/-- Reads a pattern. -/
def read (pattern : List α) : Option (List (PatternItem α)) := m.readFrom false pattern

/-- A character means something. -/
def IsMark (c : α) : Prop := c ∈ [m.escape, m.any, m.one]

instance : DecidablePred m.IsMark := fun _ ↦ inferInstanceAs (Decidable (_ ∈ _))

/-- Puts the escape before every character that means something. -/
def protect (cs : List α) : List α := cs.flatMap fun c ↦ if m.IsMark c then [m.escape, c] else [c]

theorem protect_of_isMark {c : α} (h : m.IsMark c) (cs : List α) :
    m.protect (c :: cs) = m.escape :: c :: m.protect cs := by
  rw [protect, List.flatMap_cons, if_pos h]
  rfl

theorem protect_of_not_isMark {c : α} (h : ¬m.IsMark c) (cs : List α) :
    m.protect (c :: cs) = c :: m.protect cs := by
  rw [protect, List.flatMap_cons, if_neg h]
  rfl

omit [DecidableEq α] in
theorem any_ne_escape : m.any ≠ m.escape := by
  have hnodup := m.nodup
  rw [List.nodup_cons, List.mem_cons, not_or] at hnodup
  exact Ne.symm hnodup.1.1

theorem read_any_cons (cs : List α) : m.read (m.any :: cs) = (m.read cs).map (.any :: ·) := by
  rw [read, readFrom, if_neg m.any_ne_escape, item, if_pos rfl]
  rfl

/-- An escaped text reads as its characters. -/
theorem read_protect_append (s cs : List α) :
    m.read (m.protect s ++ cs) = (m.read cs).map (s.map .exactly ++ ·) := by
  induction s with
  | nil => simp [protect]
  | cons c s ih =>
    have hcons (more : List α) (hread : m.read more = (m.read cs).map (s.map .exactly ++ ·)) :
        (m.read more).map (.exactly c :: ·) =
          (m.read cs).map ((c :: s).map .exactly ++ ·) := by
      rw [hread, Option.map_map]
      rfl
    by_cases hmark : m.IsMark c
    · rw [m.protect_of_isMark hmark, ← hcons _ ih, read, List.cons_append, readFrom, if_pos rfl]
      rfl
    · obtain ⟨hescape, hany, hone⟩ : c ≠ m.escape ∧ c ≠ m.any ∧ c ≠ m.one := by
        simpa [IsMark] using hmark
      rw [m.protect_of_not_isMark hmark, ← hcons _ ih, read, List.cons_append, readFrom,
        if_neg hescape, item, if_neg hany, if_neg hone]
      rfl

end PatternMarks

/-! ## Matching -/

section Matching

variable {α : Type} [DecidableEq α] {items : List (PatternItem α)} {s t : List α}

/-- Whether a text is what a pattern asks for. A mark for any sequence is tried on every tail of the
text. -/
def accepts : List (PatternItem α) → List α → Bool
  | [], t => t.isEmpty
  | .any :: items, t => t.tails.any (accepts items)
  | .one :: _, [] => false
  | .one :: items, _ :: t => accepts items t
  | .exactly _ :: _, [] => false
  | .exactly c :: items, d :: t => c = d && accepts items t

theorem accepts_any_iff :
    accepts (.any :: items) t = true ↔ ∃ rest, rest <:+ t ∧ accepts items rest = true := by
  rw [accepts, List.any_eq_true]
  simp only [List.mem_tails]

theorem accepts_exactly_iff :
    accepts (s.map .exactly ++ items) t = true ↔
      ∃ rest, t = s ++ rest ∧ accepts items rest = true := by
  induction s generalizing t with
  | nil => simp
  | cons c s ih =>
    cases t with
    | nil => simp [accepts]
    | cons d t =>
      rw [List.map_cons, List.cons_append, accepts, Bool.and_eq_true, decide_eq_true_eq, ih]
      constructor
      · rintro ⟨rfl, rest, rfl, hrest⟩
        exact ⟨rest, rfl, hrest⟩
      · rintro ⟨rest, heq, hrest⟩
        obtain ⟨rfl, rfl⟩ := List.cons_eq_cons.mp heq
        exact ⟨rfl, rest, rfl, hrest⟩

theorem accepts_nil_iff : accepts [] t = true ↔ t = [] := List.isEmpty_iff

theorem accepts_any : accepts [.any] t = true := by
  rw [accepts_any_iff]
  exact ⟨[], List.nil_suffix, rfl⟩

theorem accepts_prefix_iff : accepts (s.map .exactly ++ [PatternItem.any]) t = true ↔ s <+: t := by
  rw [accepts_exactly_iff]
  simp only [accepts_any, and_true]
  exact exists_congr fun _ ↦ eq_comm

theorem accepts_suffix_iff : accepts (.any :: s.map .exactly) t = true ↔ s <:+ t := by
  have hself (rest : List α) : accepts (s.map .exactly) rest = true ↔ rest = s := by
    rw [← List.append_nil (s.map _), accepts_exactly_iff]
    simp only [accepts_nil_iff, exists_eq_right, List.append_nil]
  rw [accepts_any_iff]
  simp only [hself, exists_eq_right]

theorem accepts_infix_iff : accepts (.any :: (s.map .exactly ++ [PatternItem.any])) t = true ↔ s <:+: t := by
  rw [accepts_any_iff, List.infix_iff_prefix_suffix]
  simp only [accepts_prefix_iff, and_comm]

end Matching

/-! ## Text predicates -/

namespace Predicate

variable {α : Type}

/-- Whether a predicate compares a text with an operand. -/
def comparesText : Predicate → Bool
  | .startsWith | .endsWith | .contains | .notContains => true
  | _ => false

/-- What a predicate that compares texts says of a text and an operand. -/
def Says (p : Predicate) (operand t : List α) : Prop :=
  match p with
  | .startsWith => operand <+: t
  | .endsWith => operand <:+ t
  | .contains => operand <:+: t
  | .notContains => ¬operand <:+: t
  | _ => False

/-- The pattern of a text comparison, in any alphabet. -/
def patternIn [DecidableEq α] (m : PatternMarks α) (p : Predicate) (operand : List α) : List α :=
  match p with
  | .startsWith => m.protect operand ++ [m.any]
  | .endsWith => m.any :: m.protect operand
  | _ => m.any :: (m.protect operand ++ [m.any])

/-- A pattern is well formed, and it is met, or not met if it is negated, by the texts of which a
predicate says something. -/
def Meant [DecidableEq α] (m : PatternMarks α) (p : Predicate) (operand pattern : List α)
    (negated : Bool) : Prop :=
  ∃ items, m.read pattern = some items ∧ ∀ t, accepts items t ≠ negated ↔ p.Says operand t

/-- The pattern of a text comparison means what the predicate says. -/
theorem meant_patternIn [DecidableEq α] (m : PatternMarks α) {p : Predicate} (hp : p.comparesText)
    (operand : List α) :
    p.Meant m operand (p.patternIn m operand) (decide (p = .notContains)) := by
  have hone : m.read [m.any] = some [.any] := m.read_any_cons []
  have hboth : m.read (m.any :: (m.protect operand ++ [m.any])) =
      some (.any :: (operand.map .exactly ++ [PatternItem.any])) := by
    rw [m.read_any_cons, m.read_protect_append, hone]
    rfl
  cases p with
  | startsWith =>
    refine ⟨operand.map .exactly ++ [PatternItem.any], ?_, fun t ↦ ?_⟩
    · rw [patternIn, m.read_protect_append, hone]
      rfl
    · rw [decide_eq_false (by decide), ne_eq, Bool.not_eq_false]
      exact accepts_prefix_iff
  | endsWith =>
    refine ⟨.any :: operand.map .exactly, ?_, fun t ↦ ?_⟩
    · rw [patternIn, m.read_any_cons, ← List.append_nil (m.protect operand), m.read_protect_append]
      simp [PatternMarks.read, PatternMarks.readFrom]
    · rw [decide_eq_false (by decide), ne_eq, Bool.not_eq_false]
      exact accepts_suffix_iff
  | contains =>
    refine ⟨_, hboth, fun t ↦ ?_⟩
    rw [decide_eq_false (by decide), ne_eq, Bool.not_eq_false]
    exact accepts_infix_iff
  | notContains =>
    refine ⟨_, hboth, fun t ↦ ?_⟩
    rw [decide_eq_true rfl]
    exact not_congr accepts_infix_iff
  | _ => cases hp

end Predicate

/-! ## Bytes -/

/-- The marks among the bytes. -/
def byteMarks : PatternMarks UInt8 := ⟨0x5C, 0x25, 0x5F, by decide⟩

theorem bytes_escapePattern (t : Text) : (escapePattern t).bytes = byteMarks.protect t.bytes := by
  refine List.flatMap_congr fun b _ ↦ ?_
  simp [byteMarks, PatternMarks.IsMark, or_assoc]

theorem bytes_pattern (p : Predicate) (t : Text) :
    (p.pattern t).bytes = p.patternIn byteMarks t.bytes := by
  have hany : (Text.ofString "%").bytes = [byteMarks.any] := by decide +kernel
  cases p <;>
    simp only [Predicate.pattern, Predicate.patternIn, Text.bytes_append, bytes_escapePattern, hany,
      List.cons_append, List.nil_append]

/-- A text with the escape put before every occurrence of a byte. -/
def escapeByte (mark : UInt8) (t : Text) : Text :=
  ⟨t.bytes.flatMap fun b ↦ if b = mark then [byteMarks.escape, b] else [b]⟩

/-- Escaping can be done byte by byte, if the escape itself comes first: the escapes that are put
before the marks are not escaped again. -/
theorem escapePattern_eq (t : Text) : escapePattern t =
    escapeByte byteMarks.one (escapeByte byteMarks.any (escapeByte byteMarks.escape t)) := by
  refine congrArg Text.mk ((bytes_escapePattern t).trans ?_)
  rw [PatternMarks.protect, escapeByte, escapeByte, List.flatMap_assoc, List.flatMap_assoc]
  refine List.flatMap_congr fun b _ ↦ ?_
  by_cases hescape : b = byteMarks.escape
  · subst hescape
    decide
  by_cases hany : b = byteMarks.any
  · subst hany
    decide
  by_cases hone : b = byteMarks.one
  · subst hone
    decide
  · simp [PatternMarks.IsMark, hescape, hany, hone]

/-! ## Glyphs -/

/-- The marks among the glyphs. -/
def glyphMarks : PatternMarks Glyph := ⟨.char '\\', .char '%', .char '_', by decide⟩

theorem isMark_byteMarks_iff {b : UInt8} :
    byteMarks.IsMark b ↔ b.toNat = 92 ∨ b.toNat = 37 ∨ b.toNat = 95 := by
  simp [PatternMarks.IsMark, byteMarks, ← UInt8.toNat_inj]

theorem isMark_glyphMarks_iff {c : Char} :
    glyphMarks.IsMark (.char c) ↔ c.toNat = 92 ∨ c.toNat = 37 ∨ c.toNat = 95 := by
  simp [PatternMarks.IsMark, glyphMarks, ← Char.toNat_inj]

namespace Text

variable {b : UInt8} {rest : List UInt8} {c : Char} {n : ℕ}

/-- What is read at a byte is a matter of the bytes that continue a character. -/
theorem charAt?_takeWhile (b : UInt8) (rest : List UInt8) :
    charAt? b (rest.takeWhile isContinuation) = charAt? b rest := by
  rcases rest with _ | ⟨c, _ | ⟨d, _ | ⟨e, rest⟩⟩⟩
  · rfl
  · by_cases hc : isContinuation c = true <;> simp [charAt?, hc]
  · by_cases hc : isContinuation c = true <;> by_cases hd : isContinuation d = true <;>
      simp [charAt?, hc, hd]
  · by_cases hc : isContinuation c = true <;> by_cases hd : isContinuation d = true <;>
      by_cases he : isContinuation e = true <;> simp [charAt?, hc, hd, he]

theorem payload_lt (b : UInt8) : payload b < 64 := Nat.mod_lt _ (by decide)

/-- A number that numbers a character is the number of it. -/
theorem toNat_ofNat_of_isValidChar {v : ℕ} (hv : v.isValidChar) : (Char.ofNat v).toNat = v := by
  rw [Char.ofNat, dif_pos hv]
  rfl

/-- A character is its byte, or it has more than one and is no ASCII character. -/
theorem charAt?_cases (h : charAt? b rest = some (c, n)) :
    (n = 0 ∧ c.toNat = b.toNat) ∨ n ≤ rest.length ∧ 128 ≤ c.toNat := by
  unfold charAt? at h
  split at h
  · next hb =>
    have hlt : b.toNat < 128 := UInt8.lt_iff_toNat_lt.mp hb
    cases h
    exact .inl ⟨rfl, toNat_ofNat_of_isValidChar (.inl (by omega))⟩
  right
  -- one case for each number of bytes
  split at h
  · next hlead =>
    obtain ⟨hlow, hhigh⟩ : 194 ≤ b.toNat ∧ b.toNat ≤ 223 := between_iff.mp hlead
    split at h
    · next d more =>
      have hd := payload_lt d
      split at h <;> cases h
      rw [toNat_ofNat_of_isValidChar (by omega), List.length_cons]
      omega
    · cases h
  split at h
  · next hlead =>
    obtain ⟨hlow, hhigh⟩ : 224 ≤ b.toNat ∧ b.toNat ≤ 239 := between_iff.mp hlead
    split at h
    · next d e more =>
      have hd := payload_lt d
      have he := payload_lt e
      dsimp only at h
      split at h
      · next hscalar =>
        cases h
        simp only [Bool.and_eq_true, Bool.not_eq_true', Bool.and_eq_false_iff, decide_eq_true_eq,
          decide_eq_false_iff_not] at hscalar
        rw [toNat_ofNat_of_isValidChar (by omega), List.length_cons, List.length_cons]
        omega
      · cases h
    · cases h
  split at h
  · next hlead =>
    split at h
    · next d e f more =>
      dsimp only at h
      split at h
      · next hplane =>
        cases h
        simp only [Bool.and_eq_true, decide_eq_true_eq] at hplane
        rw [toNat_ofNat_of_isValidChar (by omega), List.length_cons, List.length_cons,
          List.length_cons]
        omega
      · cases h
    · cases h
  · cases h

/-- The bytes that a character takes continue it. -/
theorem le_length_of_charAt? (h : charAt? b rest = some (c, n)) :
    n ≤ (rest.takeWhile isContinuation).length := by
  rw [← charAt?_takeWhile] at h
  obtain ⟨rfl, -⟩ | ⟨hle, -⟩ := charAt?_cases h
  · exact Nat.zero_le _
  · exact hle

/-- A character that means something is a byte that does. -/
theorem isMark_of_charAt? (h : charAt? b rest = some (c, n)) (hc : glyphMarks.IsMark (.char c)) :
    byteMarks.IsMark b := by
  rw [isMark_glyphMarks_iff] at hc
  rw [isMark_byteMarks_iff]
  obtain ⟨-, hsame⟩ | ⟨-, hhigh⟩ := charAt?_cases h
  · rwa [← hsame]
  · omega

theorem charAt?_of_isMark (h : byteMarks.IsMark b) (rest : List UInt8) :
    charAt? b rest = some (Char.ofNat b.toNat, 0) ∧
      glyphMarks.IsMark (.char (Char.ofNat b.toNat)) := by
  rw [isMark_byteMarks_iff] at h
  refine ⟨charAt?_one rest (by omega) rfl, ?_⟩
  rw [isMark_glyphMarks_iff, toNat_ofNat_of_isValidChar (.inl (by omega))]
  exact h

theorem not_isMark_of_isContinuation (h : isContinuation b = true) : ¬byteMarks.IsMark b := by
  intro hmark
  rw [isMark_byteMarks_iff] at hmark
  have hlow : 128 ≤ b.toNat := (between_iff.mp h).1
  omega

theorem isContinuation_of_isMark (h : byteMarks.IsMark b) : isContinuation b = false := by
  rw [← Bool.not_eq_true]
  exact fun hcontinues ↦ not_isMark_of_isContinuation hcontinues h

/-- Escaping does not change which bytes continue a character. -/
theorem takeWhile_protect_append (bytes : List UInt8) {tail : List UInt8}
    (htail : tail.takeWhile isContinuation = []) :
    (byteMarks.protect bytes ++ tail).takeWhile isContinuation =
      bytes.takeWhile isContinuation := by
  induction bytes with
  | nil => exact htail
  | cons b bytes ih =>
    by_cases hmark : byteMarks.IsMark b
    · have hescape : isContinuation byteMarks.escape = false := by decide
      rw [byteMarks.protect_of_isMark hmark, List.cons_append, List.takeWhile_cons_of_neg,
        List.takeWhile_cons_of_neg]
      · simp [isContinuation_of_isMark hmark]
      · simp [hescape]
    · rw [byteMarks.protect_of_not_isMark hmark, List.cons_append, List.takeWhile_cons,
        List.takeWhile_cons, ih]

/-- The glyphs of an escaped text are the escaped glyphs of the text, also before a byte that
continues none. -/
theorem glyphsFrom_protect_append {skip : ℕ} {bytes tail : List UInt8}
    (htail : tail.takeWhile isContinuation = [])
    (hskip : skip ≤ (bytes.takeWhile isContinuation).length) :
    glyphsFrom skip (byteMarks.protect bytes ++ tail) =
      glyphMarks.protect (glyphsFrom skip bytes) ++ glyphsFrom 0 tail := by
  induction bytes generalizing skip with
  | nil =>
    obtain rfl := Nat.le_zero.mp hskip
    rfl
  | cons b bytes ih =>
    cases skip with
    | succ skip =>
      -- the byte belongs to a character that has been read
      have hcontinues : isContinuation b = true := by
        by_contra hnot
        rw [List.takeWhile_cons_of_neg hnot] at hskip
        exact absurd hskip (Nat.not_succ_le_zero skip)
      rw [List.takeWhile_cons_of_pos hcontinues, List.length_cons, Nat.succ_le_succ_iff] at hskip
      rw [byteMarks.protect_of_not_isMark (not_isMark_of_isContinuation hcontinues),
        List.cons_append, glyphsFrom, glyphsFrom]
      exact ih hskip
    | zero =>
      by_cases hmark : byteMarks.IsMark b
      · have hone {m : UInt8} (hm : byteMarks.IsMark m) (rest : List UInt8) :
            glyphsFrom 0 (m :: rest) = .char (Char.ofNat m.toNat) :: glyphsFrom 0 rest := by
          rw [glyphsFrom, (charAt?_of_isMark hm rest).1]
        rw [byteMarks.protect_of_isMark hmark, List.cons_append, List.cons_append,
          hone (m := byteMarks.escape) (by decide), hone hmark, hone hmark,
          glyphMarks.protect_of_isMark (charAt?_of_isMark hmark bytes).2, ih (Nat.zero_le _)]
        rfl
      · have hsame : charAt? b (byteMarks.protect bytes ++ tail) = charAt? b bytes := by
          rw [← charAt?_takeWhile, takeWhile_protect_append bytes htail, charAt?_takeWhile]
        rw [byteMarks.protect_of_not_isMark hmark, List.cons_append, glyphsFrom, glyphsFrom, hsame]
        cases hread : charAt? b bytes with
        | none =>
          have hstray : ¬glyphMarks.IsMark (.stray b) := by simp [PatternMarks.IsMark, glyphMarks]
          dsimp only
          rw [ih (Nat.zero_le _), glyphMarks.protect_of_not_isMark hstray]
          rfl
        | some read =>
          obtain ⟨c, n⟩ := read
          dsimp only
          rw [ih (le_length_of_charAt? hread),
            glyphMarks.protect_of_not_isMark (mt (isMark_of_charAt? hread) hmark)]
          rfl

end Text

theorem glyphs_pattern (p : Predicate) (t : Text) :
    (p.pattern t).glyphs = p.patternIn glyphMarks t.glyphs := by
  have hany (bytes : List UInt8) :
      Text.glyphsFrom 0 (byteMarks.any :: bytes) = glyphMarks.any :: Text.glyphsFrom 0 bytes := by
    rw [Text.glyphsFrom, (Text.charAt?_of_isMark (by decide) bytes).1]
    rfl
  have hlast : Text.glyphsFrom 0 (byteMarks.protect t.bytes ++ [byteMarks.any]) =
      glyphMarks.protect t.glyphs ++ [glyphMarks.any] :=
    (Text.glyphsFrom_protect_append (by decide) (Nat.zero_le _)).trans (congrArg _ (hany []))
  have halone : Text.glyphsFrom 0 (byteMarks.protect t.bytes) = glyphMarks.protect t.glyphs := by
    rw [← List.append_nil (byteMarks.protect _), Text.glyphsFrom_protect_append rfl (Nat.zero_le _)]
    exact List.append_nil _
  rw [Text.glyphs, bytes_pattern]
  cases p <;> simp only [Predicate.patternIn, hany, hlast, halone]

/-! ## Conditions -/

/-- **Text comparisons are literal.** A filter that compares a text becomes a condition `LIKE`, or
`NOT LIKE` if its predicate is negative, that binds one pattern and names the escape. The pattern is
well formed, and the condition is met by exactly the texts of which the predicate says something
with the operand, whatever marks and escapes that holds. This is so whether a database takes glyphs
for characters or bytes. -/
theorem Filter.like_literally {f : Filter} {operand : Text} (hp : f.predicate.comparesText)
    (hoperand : f.textOperand = .ok operand) (d : Dialect) (bulk : Bool) (ref : ColumnRef)
    (type : PropertyType) :
    ∃ negated pattern, f.formOn d bulk ref type = .ok (.holds (.like ref negated pattern)) ∧
      (Condition.like ref negated pattern).fragments = ref.fragments ++
        [Fragment.text (if negated then " NOT LIKE " else " LIKE "),
          Fragment.operand (.ofText pattern), Fragment.text " ESCAPE '\\'"] ∧
      (negated = true ↔ f.predicate = .notContains) ∧
      f.predicate.Meant glyphMarks operand.glyphs pattern.glyphs negated ∧
      f.predicate.Meant byteMarks operand.bytes pattern.bytes negated := by
  refine ⟨decide (f.predicate = .notContains), f.predicate.pattern operand, ?_, rfl,
    decide_eq_true_iff, ?_, ?_⟩
  · rw [Filter.formOn]
    cases hpredicate : f.predicate with
    | startsWith | endsWith | contains | notContains =>
      rw [hoperand]
      rfl
    | _ =>
      rw [hpredicate] at hp
      cases hp
  · rw [glyphs_pattern]
    exact Predicate.meant_patternIn glyphMarks hp operand.glyphs
  · rw [bytes_pattern]
    exact Predicate.meant_patternIn byteMarks hp operand.bytes

/-- A filter for the texts that do not hold `9%_\`. -/
def unmarked : Filter where
  key := "note"
  predicate := .notContains
  value := .str "9%_\\"

theorem Filter.like_unmarked : ∃ pattern items,
    unmarked.formOn ⟨.sqlite, "s", 1000, false⟩ false ⟨.step 0, "note"⟩ .string =
        .ok (.holds (.like ⟨.step 0, "note"⟩ true pattern)) ∧
      glyphMarks.read pattern.glyphs = some items ∧
      accepts items (Text.glyphs "a9%_\\") = true ∧
      accepts items (Text.glyphs "a9%") = false := by
  have hcompares : unmarked.predicate.comparesText = true := rfl
  have hoperand : unmarked.textOperand = .ok "9%_\\" := rfl
  obtain ⟨negated, pattern, hform, -, hnegated, ⟨items, hread, hmeant⟩, -⟩ :=
    Filter.like_literally hcompares hoperand ⟨.sqlite, "s", 1000, false⟩ false ⟨.step 0, "note"⟩
      .string
  obtain rfl : negated = true := hnegated.mpr rfl
  refine ⟨pattern, items, hform, hread, ?_, ?_⟩
  · by_contra haccepted
    have hsays : ¬Text.glyphs "9%_\\" <:+: Text.glyphs "a9%_\\" := (hmeant _).mp haccepted
    exact hsays (by decide +kernel)
  · have hsays : ¬Text.glyphs "9%_\\" <:+: Text.glyphs "a9%" := by decide +kernel
    exact Bool.eq_false_iff.mpr ((hmeant _).mpr hsays)

end PathQuery
