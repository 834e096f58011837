import Mathlib.Data.Int.Notation
import Mathlib.Data.Nat.Notation
import PathQuery.Number.Reading

/-!
# Written natural numbers

The digits of a natural number are read as the number, as long as it fits. The digits start with a
zero only if the number is zero.
-/

namespace PathQuery

theorem digitValue?_of_isDigit {c : Char} (h : c.isDigit = true) :
    digitValue? c = some (c.toNat - 48) := if_pos h

/-- A digit is none of the characters that mean something else in a number. -/
theorem ne_of_isDigit {c d : Char} (h : c.isDigit = true) (hd : d.isDigit = false) : c ≠ d := by
  rintro rfl
  cases h.symm.trans hd

/-- Digits are read as the number they come to if it is within the bound. -/
theorem readDigitsWithin_eq_ok {bits acc : ℕ} {ds : List Char} (hds : ∀ c ∈ ds, c.isDigit = true)
    (hlt : Nat.ofDigitChars 10 ds acc < Nat.pow 2 bits) :
    readDigitsWithin bits acc ds = .ok (Nat.ofDigitChars 10 ds acc) := by
  induction ds generalizing acc with
  | nil => rw [Nat.ofDigitChars_nil, readDigitsWithin]
  | cons c ds ih =>
    obtain ⟨hc, hds⟩ := List.forall_mem_cons.mp hds
    have hnext : 10 * acc + (c.toNat - '0'.toNat) = acc * 10 + (c.toNat - 48) := by
      rw [Nat.mul_comm]
      rfl
    rw [Nat.ofDigitChars_cons, hnext] at hlt ⊢
    -- further digits only make the number larger
    have hle : acc * 10 + (c.toNat - 48) ≤
        Nat.ofDigitChars 10 ds (acc * 10 + (c.toNat - 48)) := by
      rw [Nat.ofDigitChars_eq_ofDigitChars_zero]
      exact Nat.le_trans (Nat.le_mul_of_pos_left _ (Nat.pow_pos (by decide))) (Nat.le_add_right _ _)
    rw [readDigitsWithin, digitValue?_of_isDigit hc]
    dsimp only
    rw [if_pos (Nat.lt_of_le_of_lt hle hlt)]
    exact ih hds hlt

theorem isDigit_of_mem_toDigits {n : ℕ} {c : Char} (h : c ∈ Nat.toDigits 10 n) :
    c.isDigit = true := Nat.isDigit_of_mem_toDigits (by decide) (by decide) h

theorem isDigit_of_mem_repr (n : ℕ) : ∀ c ∈ (Nat.repr n).toList, c.isDigit := by
  intro c hc
  rw [Nat.toList_repr] at hc
  exact isDigit_of_mem_toDigits hc

/-- A character that is no digit does not stand in a written number. -/
theorem notMem_repr {c : Char} (h : c.isDigit = false) (n : ℕ) : c ∉ (Nat.repr n).toList :=
  fun hc ↦ Bool.noConfusion ((isDigit_of_mem_repr n c hc).symm.trans h)

theorem repr_injective {m n : ℕ} (h : Nat.repr m = Nat.repr n) : m = n := by
  have hdigits : Nat.toDigits 10 m = Nat.toDigits 10 n := by
    rw [← Nat.toList_repr, ← Nat.toList_repr, h]
  rw [← Nat.ofDigitChars_ten_toDigits (n := m), hdigits, Nat.ofDigitChars_ten_toDigits]

/-- An integer is known by its sign and its digits. -/
theorem intRepr_injective {m n : ℤ} (h : m.repr = n.repr) : m = n := by
  -- the sign is no digit
  have hsign (k l : ℕ) : Nat.repr k ≠ "-" ++ Nat.repr l := by
    intro heq
    refine notMem_repr (c := '-') rfl k ?_
    rw [heq, String.toList_append]
    exact List.mem_append_left _ (List.mem_singleton_self _)
  cases m with
  | ofNat k =>
    cases n with
    | ofNat l => exact congrArg Int.ofNat (repr_injective h)
    | negSucc l => exact absurd h (hsign _ _)
  | negSucc k =>
    cases n with
    | ofNat l => exact absurd h.symm (hsign _ _)
    | negSucc l =>
      have hdigits := repr_injective ((String.append_right_inj _).mp h)
      exact congrArg Int.negSucc (Nat.succ.inj hdigits)

/-- Only zero is written with a zero at the start. -/
theorem exists_toDigits_eq_cons {n : ℕ} (hn : n ≠ 0) :
    ∃ c cs, Nat.toDigits 10 n = c :: cs ∧ c ≠ '0' := by
  induction n using Nat.strongRecOn with
  | ind n ih =>
    by_cases hlt : n < 10
    · exact ⟨n.digitChar, [], Nat.toDigits_of_lt_base hlt, by simpa using hn⟩
    · obtain ⟨c, cs, hchars, hc⟩ := ih (n / 10) (by omega) (by omega)
      rw [Nat.toDigits_of_base_le (by decide) (by omega), hchars]
      exact ⟨c, _, rfl, hc⟩

/-! ## Integers -/

/-- The texts that stand for an integer: digits, with or without a sign before them. -/
inductive SpellsInt : List Char → Int → Prop
  | unsigned {ds : List Char} (some : ds ≠ []) (digits : ∀ c ∈ ds, c.isDigit = true) :
      SpellsInt ds (Nat.ofDigitChars 10 ds 0)
  | plus {ds : List Char} (some : ds ≠ []) (digits : ∀ c ∈ ds, c.isDigit = true) :
      SpellsInt ('+' :: ds) (Nat.ofDigitChars 10 ds 0)
  | minus {ds : List Char} (some : ds ≠ []) (digits : ∀ c ∈ ds, c.isDigit = true) :
      SpellsInt ('-' :: ds) (-Nat.ofDigitChars 10 ds 0)

theorem readNatural_eq_ok {bits : ℕ} {ds : List Char} (hne : ds ≠ [])
    (hds : ∀ c ∈ ds, c.isDigit = true) (hlt : Nat.ofDigitChars 10 ds 0 < Nat.pow 2 bits) :
    readNatural bits ds = .ok (Nat.ofDigitChars 10 ds 0) := by
  rw [readNatural, if_neg (by simpa using hne), readDigitsWithin_eq_ok hds hlt]

/-- Digits have no sign before them. -/
theorem splitSign_of_isDigit {ds : List Char} (hds : ∀ c ∈ ds, c.isDigit = true) :
    splitSign ds = (false, ds) := by
  rw [splitSign]
  · rintro rest rfl
    exact ne_of_isDigit (d := '-') (hds _ List.mem_cons_self) (by decide) rfl
  · rintro rest rfl
    exact ne_of_isDigit (d := '+') (hds _ List.mem_cons_self) (by decide) rfl

/-- A text that stands for an integer of 64 signed bits is read as the integer. -/
theorem readInt_eq_ok {cs : List Char} {n : Int} (h : SpellsInt cs n)
    (hlow : -(Nat.pow 2 63 : ℕ) ≤ n) (hhigh : n < (Nat.pow 2 63 : ℕ)) : readInt cs = .ok n := by
  -- without its sign the integer may have one bit more
  have hread : ∀ {ds : List Char}, ds ≠ [] → (∀ c ∈ ds, c.isDigit = true) →
      Nat.ofDigitChars 10 ds 0 ≤ Nat.pow 2 63 →
      readNatural 64 ds = .ok (Nat.ofDigitChars 10 ds 0) :=
    fun hne hds hle ↦ readNatural_eq_ok hne hds (Nat.lt_of_le_of_lt hle (by decide))
  rw [readInt, readIntWithin]
  cases h with
  | unsigned hne hds =>
    have hlt : Nat.ofDigitChars 10 cs 0 < Nat.pow 2 63 := Int.ofNat_lt.mp hhigh
    rw [splitSign_of_isDigit hds]
    dsimp only
    rw [hread hne hds (Nat.le_of_lt hlt)]
    exact if_pos hlt
  | @plus ds hne hds =>
    have hlt : Nat.ofDigitChars 10 ds 0 < Nat.pow 2 63 := Int.ofNat_lt.mp hhigh
    rw [splitSign]
    dsimp only
    rw [hread hne hds (Nat.le_of_lt hlt)]
    exact if_pos hlt
  | @minus ds hne hds =>
    have hle : Nat.ofDigitChars 10 ds 0 ≤ Nat.pow 2 63 :=
      Int.ofNat_le.mp (Int.neg_le_neg_iff.mp hlow)
    rw [splitSign]
    dsimp only
    rw [hread hne hds hle]
    exact if_pos hle

theorem spellsInt_toDigits (n : ℕ) : SpellsInt (Nat.toDigits 10 n) n := by
  have h := SpellsInt.unsigned (Nat.toDigits_ne_nil (n := n) (b := 10))
    (fun _ ↦ isDigit_of_mem_toDigits)
  rwa [Nat.ofDigitChars_ten_toDigits] at h

/-- The digits of a number that fits are read as the number. -/
theorem readInt_toDigits {n : ℕ} (h : n < Nat.pow 2 63) :
    readInt (Nat.toDigits 10 n) = .ok (n : Int) := by
  have hlow : -(Nat.pow 2 63 : ℕ) ≤ (n : Int) := Int.le_trans (by decide) (Int.natCast_nonneg n)
  exact readInt_eq_ok (spellsInt_toDigits n) hlow (Int.ofNat_lt.mpr h)

end PathQuery
