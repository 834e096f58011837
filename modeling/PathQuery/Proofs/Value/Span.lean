import Mathlib.Algebra.Group.Int.Defs
import PathQuery.Graph.Property
import PathQuery.Proofs.Compile.Run
import PathQuery.Proofs.Number.Digits
import PathQuery.Proofs.Value.Identity

/-!
# Stored spans of time

A span is stored as seconds and, in a column of its own, nanoseconds, both of them integers of 64
signed bits; so the columns hold spans far longer than 64 bits of nanoseconds do. Reading folds the
two into nanoseconds and wraps: what comes out is the span that is stored exactly if that span is
itself within 64 signed bits. There is no further case, as the bits lost on the way to a sum that
fits cancel out, and there is no error either.
-/

namespace PathQuery

/-- The integers of 64 signed bits. -/
def IsInt64 (n : ℤ) : Prop := -2 ^ 63 ≤ n ∧ n < 2 ^ 63

instance : DecidablePred IsInt64 := fun n ↦ inferInstanceAs (Decidable (-2 ^ 63 ≤ n ∧ n < 2 ^ 63))

theorem isInt64_wrap64 (n : ℤ) : IsInt64 (wrap64 n) := by
  constructor
  · exact Int.le_bmod (by decide)
  · exact Int.bmod_lt (by decide)

/-- Wrapping leaves the integers of 64 signed bits alone, and no others. -/
theorem wrap64_eq_self_iff {n : ℤ} : wrap64 n = n ↔ IsInt64 n := by
  constructor
  · intro h
    exact h ▸ isInt64_wrap64 n
  · rintro ⟨hlow, hhigh⟩
    exact Int.bmod_eq_of_le hlow hhigh

namespace Value

/-! ## Cells that hold an integer -/

/-- A cell holds an integer of 64 signed bits: as an integer with a sign or as a text, which may be
a byte string. -/
inductive HoldsInt : Value → ℤ → Prop
  | int {width : IntWidth} {n : ℤ} (signed : width ≠ .uint64) (fits : IsInt64 n) :
      HoldsInt (.int width n) n
  | str {s : String} {n : ℤ} (spells : SpellsInt s.toList n) (fits : IsInt64 n) :
      HoldsInt (.str s) n
  | bytes {s : String} {n : ℤ} (spells : SpellsInt s.toList n) (fits : IsInt64 n) :
      HoldsInt (.bytes s) n

/-- A cell holds an integer, or it is empty and counts as zero. -/
inductive HoldsIntOrZero : Value → ℤ → Prop
  | empty : HoldsIntOrZero .null 0
  | cell {v : Value} {n : ℤ} (holds : v.HoldsInt n) : HoldsIntOrZero v n

theorem readInteger_eq_ok {s : String} {n : ℤ} (h : SpellsInt s.toList n) (hfits : IsInt64 n) :
    readInteger s = .ok n := by
  rw [readInteger, NumberForm.read, Text.toString?_ofString]
  dsimp only
  rw [readInt_eq_ok h hfits.1 hfits.2]
  rfl

theorem HoldsInt.toInteger_eq_ok {v : Value} {n : ℤ} (h : v.HoldsInt n) : v.toInteger = .ok n := by
  cases h with
  | @int width _ signed _ =>
    cases width with
    | uint64 => exact absurd rfl signed
    | _ => rfl
  | str spells fits => exact readInteger_eq_ok spells fits
  | bytes spells fits => exact readInteger_eq_ok spells fits

theorem HoldsInt.ne_null {v : Value} {n : ℤ} (h : v.HoldsInt n) : v ≠ .null := by
  rintro rfl
  cases h

theorem HoldsIntOrZero.toIntegerOrZero_eq_ok {v : Value} {n : ℤ} (h : v.HoldsIntOrZero n) :
    v.toIntegerOrZero = .ok n := by
  cases h with
  | empty => rfl
  | cell holds =>
    rw [toIntegerOrZero]
    · exact holds.toInteger_eq_ok
    · exact holds.ne_null

end Value

namespace PropertyType

variable {base part : Value} {seconds nanos : ℤ}

/-- The cells of a span are folded into nanoseconds, wrapped once. -/
theorem decode_duration (hbase : base.HoldsInt seconds) (hpart : part.HoldsIntOrZero nanos) :
    decode .duration base [part] = .ok (.span (wrap64 (seconds * 10 ^ 9 + nanos))) := by
  have hcount : [part].length = PropertyType.duration.postfixes.length := rfl
  rw [decode]
  · rw [if_pos hcount]
    exact bind_eq_ok_iff.mpr ⟨seconds, hbase.toInteger_eq_ok,
      bind_eq_ok_iff.mpr ⟨nanos, hpart.toIntegerOrZero_eq_ok, rfl⟩⟩
  · exact hbase.ne_null

/-- **A stored span is read exactly if 64 bits hold it.** Of cells that hold seconds and
nanoseconds, as integers or as text, nothing but the stored span is read if and only if it is within
64 signed bits when counted in nanoseconds. In any case a span is read, and it is the stored one up
to a multiple of `2 ^ 64` nanoseconds. -/
theorem decode_duration_exact_iff (hbase : base.HoldsInt seconds)
    (hpart : part.HoldsIntOrZero nanos) :
    ((∀ v, decode .duration base [part] = .ok v → v = .span (seconds * 10 ^ 9 + nanos)) ↔
        IsInt64 (seconds * 10 ^ 9 + nanos)) ∧
      ∃ d, decode .duration base [part] = .ok (.span d) ∧ IsInt64 d ∧
        2 ^ 64 ∣ d - (seconds * 10 ^ 9 + nanos) := by
  have hread := decode_duration hbase hpart
  refine ⟨?_, _, hread, isInt64_wrap64 _, Int.dvd_bmod_sub_self⟩
  rw [hread, ← wrap64_eq_self_iff]
  constructor
  · intro h
    exact Value.span.inj (h _ rfl)
  · rintro h v hv
    rw [← Except.ok.inj hv, h]

/-- One nanosecond more than the longest span, stored as text, is read as the longest negative
span. -/
theorem decode_duration_pastLongest :
    (Value.str "9223372036").HoldsInt 9223372036 ∧
      (Value.bytes "854775808").HoldsIntOrZero 854775808 ∧
      decode .duration (.str "9223372036") [.bytes "854775808"] = .ok (.span (-2 ^ 63)) ∧
      ¬ ∀ v, decode .duration (.str "9223372036") [.bytes "854775808"] = .ok v →
        v = .span (9223372036 * 10 ^ 9 + 854775808) := by
  have hbase : (Value.str "9223372036").HoldsInt 9223372036 :=
    .str (spellsInt_toDigits 9223372036) (by decide)
  have hpart : (Value.bytes "854775808").HoldsIntOrZero 854775808 :=
    .cell (.bytes (spellsInt_toDigits 854775808) (by decide))
  refine ⟨hbase, hpart, decode_duration hbase hpart, ?_⟩
  rw [(decode_duration_exact_iff hbase hpart).1]
  decide

end PropertyType

end PathQuery
