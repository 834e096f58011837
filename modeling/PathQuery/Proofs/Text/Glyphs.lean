import PathQuery.Proofs.Value.Identity

/-!
# The glyphs of a string

A string is read back from its bytes glyph by glyph: the bytes of a character are read as that
character, whatever follows them, and there are no strays between characters. So scrubbing the
text of a string changes nothing.
-/

namespace PathQuery.Text

theorem ofString_append (s t : String) : ofString (s ++ t) = ofString s ++ ofString t := by
  apply eq_of_bytes_eq
  rw [bytes_append, bytes_ofString, bytes_ofString, bytes_ofString, String.toByteArray_append,
    ByteArray.data_append, Array.toList_append]

theorem bytes_ofString_eq_flatMap (s : String) :
    (ofString s).bytes = s.toList.flatMap String.utf8EncodeChar := by
  rw [bytes_ofString, ← String.utf8Encode_toList, List.utf8Encode, List.data_toByteArray]

/-! ## The bytes of a character -/

/-- A byte that continues a character, with its payload. -/
def Continues (b : UInt8) (n : ℕ) : Prop := isContinuation b = true ∧ payload b = n

theorem toNat_ofNat_of_lt {n : ℕ} (h : n < 256) : (UInt8.ofNat n).toNat = n := by
  rw [UInt8.toNat_ofNat', Nat.mod_eq_of_lt h]

theorem continues_ofNat (n : ℕ) : Continues (UInt8.ofNat (n % 0x40 + 0x80)) (n % 64) := by
  have hb : (UInt8.ofNat (n % 0x40 + 0x80)).toNat = n % 64 + 128 := toNat_ofNat_of_lt (by omega)
  generalize UInt8.ofNat (n % 0x40 + 0x80) = b at hb
  constructor
  · simp only [isContinuation, Bool.and_eq_true, decide_eq_true_eq, UInt8.le_iff_toNat_le, hb]
    exact ⟨Nat.le_add_left _ _, show _ ≤ 191 by omega⟩
  · rw [payload, hb]
    omega

/-- Whether a byte lies between two others, in numbers. -/
theorem between_iff {b low high : UInt8} :
    (decide (low ≤ b) && decide (b ≤ high)) = true ↔ low.toNat ≤ b.toNat ∧ b.toNat ≤ high.toNat := by
  rw [Bool.and_eq_true, decide_eq_true_eq, decide_eq_true_eq, UInt8.le_iff_toNat_le,
    UInt8.le_iff_toNat_le]

section
variable {v : ℕ} {b b₁ b₂ b₃ : UInt8} (rest : List UInt8)

theorem charAt?_one (hv : v ≤ 0x7F) (hb : b.toNat = v) :
    charAt? b rest = some (Char.ofNat v, 0) := by
  have hlow : b < 0x80 := UInt8.lt_iff_toNat_lt.mpr (show _ < 128 by omega)
  simp only [charAt?, if_pos hlow, hb]

theorem charAt?_two (hlow : 0x7F < v) (hv : v ≤ 0x7FF) (hb : b.toNat = v / 64 + 0xC0)
    (h₁ : Continues b₁ (v % 64)) : charAt? b (b₁ :: rest) = some (Char.ofNat v, 1) := by
  have hnot : ¬b < 0x80 := mt UInt8.lt_iff_toNat_lt.mp (show ¬_ < 128 by omega)
  have hlead : (decide (0xC2 ≤ b) && decide (b ≤ 0xDF)) = true :=
    between_iff.mpr ⟨show 194 ≤ _ by omega, show _ ≤ 223 by omega⟩
  have hsum : (v / 64 + 0xC0 - 0xC0) * 64 + v % 64 = v := by omega
  simp only [charAt?, if_neg hnot, if_pos hlead, h₁.1, if_true, hb, h₁.2, hsum]

theorem charAt?_three (hlow : 0x7FF < v) (hv : v ≤ 0xFFFF) (hs : v < 0xD800 ∨ 0xDFFF < v)
    (hb : b.toNat = v / 4096 + 0xE0) (h₁ : Continues b₁ (v / 64 % 64))
    (h₂ : Continues b₂ (v % 64)) : charAt? b (b₁ :: b₂ :: rest) = some (Char.ofNat v, 2) := by
  have hnot : ¬b < 0x80 := mt UInt8.lt_iff_toNat_lt.mp (show ¬_ < 128 by omega)
  have hnot₂ : ¬(decide (0xC2 ≤ b) && decide (b ≤ 0xDF)) = true := fun h ↦
    absurd (show b.toNat ≤ 223 from (between_iff.mp h).2) (by omega)
  have hlead : (decide (0xE0 ≤ b) && decide (b ≤ 0xEF)) = true :=
    between_iff.mpr ⟨show 224 ≤ _ by omega, show _ ≤ 239 by omega⟩
  have hsum : (v / 4096 + 0xE0 - 0xE0) * 4096 + v / 64 % 64 * 64 + v % 64 = v := by omega
  have hscalar : (0x800 ≤ v && !(0xD800 ≤ v && v ≤ 0xDFFF)) = true := by
    simp only [Bool.and_eq_true, Bool.not_eq_true', Bool.and_eq_false_iff, decide_eq_true_eq,
      decide_eq_false_iff_not]
    omega
  simp only [charAt?, if_neg hnot, if_neg hnot₂, if_pos hlead, h₁.1, h₂.1, hb, h₁.2, h₂.2, hsum,
    Bool.true_and, if_pos hscalar]

theorem charAt?_four (hlow : 0xFFFF < v) (hv : v < 0x110000) (hb : b.toNat = v / 262144 + 0xF0)
    (h₁ : Continues b₁ (v / 4096 % 64)) (h₂ : Continues b₂ (v / 64 % 64))
    (h₃ : Continues b₃ (v % 64)) :
    charAt? b (b₁ :: b₂ :: b₃ :: rest) = some (Char.ofNat v, 3) := by
  have hnot : ¬b < 0x80 := mt UInt8.lt_iff_toNat_lt.mp (show ¬_ < 128 by omega)
  have hnot₂ : ¬(decide (0xC2 ≤ b) && decide (b ≤ 0xDF)) = true := fun h ↦
    absurd (show b.toNat ≤ 223 from (between_iff.mp h).2) (by omega)
  have hnot₃ : ¬(decide (0xE0 ≤ b) && decide (b ≤ 0xEF)) = true := fun h ↦
    absurd (show b.toNat ≤ 239 from (between_iff.mp h).2) (by omega)
  have hlead : (decide (0xF0 ≤ b) && decide (b ≤ 0xF4)) = true :=
    between_iff.mpr ⟨show 240 ≤ _ by omega, show _ ≤ 244 by omega⟩
  have hsum : (v / 262144 + 0xF0 - 0xF0) * 262144 + v / 4096 % 64 * 4096 + v / 64 % 64 * 64 +
      v % 64 = v := by omega
  have hplane : (0x10000 ≤ v && v ≤ 0x10FFFF) = true := by
    simp only [Bool.and_eq_true, decide_eq_true_eq]
    omega
  simp only [charAt?, if_neg hnot, if_neg hnot₂, if_neg hnot₃, if_pos hlead, h₁.1, h₂.1, h₃.1, hb,
    h₁.2, h₂.2, h₃.2, hsum, Bool.true_and, if_pos hplane]

end

/-- What is read off the bytes of a character is the character, and all of its bytes are taken. -/
theorem charAt?_utf8EncodeChar (c : Char) (rest : List UInt8) :
    ∃ b more, String.utf8EncodeChar c = b :: more ∧
      charAt? b (more ++ rest) = some (c, more.length) := by
  have hscalar : c.val.toNat < 0xD800 ∨ 0xDFFF < c.val.toNat ∧ c.val.toNat < 0x110000 := c.valid
  have hback : Char.ofNat c.val.toNat = c := Char.ofNat_toNat c
  rw [String.utf8EncodeChar]
  generalize c.val.toNat = v at hscalar hback
  subst hback
  -- one case for each number of bytes
  split_ifs with h1 h2 h3 <;> refine ⟨_, _, rfl, ?_⟩
  case pos => exact charAt?_one _ h1 (toNat_ofNat_of_lt (by omega))
  case pos =>
    refine charAt?_two _ (by omega) h2 ?_ (continues_ofNat v)
    rw [toNat_ofNat_of_lt (by omega)]
    omega
  case pos =>
    refine charAt?_three _ (by omega) h3 (by omega) ?_ (continues_ofNat _) (continues_ofNat v)
    rw [toNat_ofNat_of_lt (by omega)]
    omega
  case neg =>
    refine charAt?_four _ (by omega) (by omega) ?_ (continues_ofNat _) (continues_ofNat _)
      (continues_ofNat v)
    rw [toNat_ofNat_of_lt (by omega)]
    omega

/-! ## Reading a string back -/

theorem glyphsFrom_append (bytes rest : List UInt8) :
    glyphsFrom bytes.length (bytes ++ rest) = glyphsFrom 0 rest := by
  induction bytes with
  | nil => rfl
  | cons b bytes ih => rw [List.length_cons, List.cons_append, glyphsFrom, ih]

theorem glyphsFrom_utf8EncodeChar (c : Char) (rest : List UInt8) :
    glyphsFrom 0 (String.utf8EncodeChar c ++ rest) = .char c :: glyphsFrom 0 rest := by
  obtain ⟨b, more, hbytes, hread⟩ := charAt?_utf8EncodeChar c rest
  rw [hbytes, List.cons_append, glyphsFrom, hread]
  simp only [glyphsFrom_append]

/-- The glyphs of the text of a string are its characters. -/
theorem glyphs_ofString (s : String) : (ofString s).glyphs = s.toList.map .char := by
  rw [glyphs, bytes_ofString_eq_flatMap]
  induction s.toList with
  | nil => rfl
  | cons c cs ih => rw [List.flatMap_cons, glyphsFrom_utf8EncodeChar, ih, List.map_cons]

@[simp]
theorem scrub_ofString (s : String) : (ofString s).scrub = s := by
  rw [scrub, glyphs_ofString, List.map_map]
  exact (congrArg String.ofList (List.map_id s.toList)).trans s.ofList_toList

end PathQuery.Text
