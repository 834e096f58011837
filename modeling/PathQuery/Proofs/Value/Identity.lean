import Mathlib.Data.List.Nodup
import Mathlib.Tactic.SplitIfs
import PathQuery.Proofs.Number.Digits
import PathQuery.Sql.Membership

/-!
# Operands that are told apart

A membership table holds each operand once, where two operands count as one when their types and
their renderings agree. A rendering may forget what it renders: a list of one string with a blank
in it looks like a list of two strings. For *plain* operands it forgets nothing, so that dropping
repeats keeps exactly the operands of a list, each once. That a string and its bytes determine
each other, and that the byte 0 is that of a NUL only, is all that this rests on about encodings.
-/

namespace PathQuery

namespace Text

/-! ## Strings and their bytes -/

theorem eq_of_bytes_eq {t u : Text} (h : t.bytes = u.bytes) : t = u := congrArg Text.mk h

theorem toList_loop_eq (bs : ByteArray) (i : ℕ) (r : List UInt8) :
    ByteArray.toList.loop bs i r = r.reverse ++ bs.data.toList.drop i := by
  fun_induction ByteArray.toList.loop bs i r with
  | case1 i r hlt ih =>
    have hget : bs.get! i = bs.data.toList[i] := getElem!_pos bs.data i hlt
    rw [ih, List.reverse_cons, List.append_assoc, hget, List.singleton_append,
      ← List.drop_eq_getElem_cons]
  | case2 i r hge =>
    have hdrop : bs.data.toList.drop i = [] := List.drop_eq_nil_of_le (Nat.le_of_not_lt hge)
    rw [hdrop, List.append_nil]

theorem bytes_ofString (s : String) : (ofString s).bytes = s.toByteArray.data.toList := by
  rw [ofString, ByteArray.toList, toList_loop_eq, String.toUTF8_eq_toByteArray]
  rfl

/-- A string is read back from its bytes. -/
theorem toString?_ofString (s : String) : (ofString s).toString? = some s := by
  have hbytes : (ofString s).bytes.toByteArray = s.toByteArray := by
    apply ByteArray.ext
    rw [bytes_ofString, List.data_toByteArray, Array.toArray_toList]
  rw [toString?, hbytes, String.fromUTF8?, dif_pos s.isValidUTF8]
  rfl

theorem ofString_injective : Function.Injective ofString := by
  intro s s' h
  have hread := toString?_ofString s
  rw [h, toString?_ofString] at hread
  exact (Option.some.inj hread).symm

/-- The byte of one of the first 128 characters is in no other character. -/
theorem ne_of_mem_utf8EncodeChar {c k : Char} (hk : k.val.toNat < 0x80) (hc : c ≠ k) {b : UInt8}
    (hb : b ∈ String.utf8EncodeChar c) : b ≠ UInt8.ofNat k.val.toNat := by
  have hval : c.val.toNat ≠ k.val.toNat := fun h ↦ hc (Char.ext (UInt32.toNat_inj.mp h))
  rintro rfl
  -- past the first 128 characters every byte has its high bit set
  revert hb
  simp only [String.utf8EncodeChar]
  split_ifs <;> simp only [List.mem_cons, List.not_mem_nil, or_false, ← UInt8.toNat_inj,
    UInt8.toNat_ofNat'] <;> omega

/-- Only a NUL has the byte 0 in it. -/
theorem ne_zero_of_mem_bytes_ofString {s : String} (hs : '\x00' ∉ s.toList) {b : UInt8}
    (hb : b ∈ (ofString s).bytes) : b ≠ 0 := by
  rw [bytes_ofString, ← String.utf8Encode_toList, List.utf8Encode, List.data_toByteArray] at hb
  obtain ⟨c, hc, hbyte⟩ := List.mem_flatMap.mp hb
  exact ne_of_mem_utf8EncodeChar (k := '\x00') (by decide) (ne_of_mem_of_not_mem hc hs) hbyte

end Text

namespace Value

/-! ## Plain operands -/

/-- Strings, integers of 64 bits, truth values and null. A string with stray bytes is one that
spells no well-formed string. -/
inductive IsPlain : Value → Prop
  | null : IsPlain .null
  | bool (b : Bool) : IsPlain (.bool b)
  | int (n : Int) : IsPlain (.int .int64 n)
  | str (s : String) : IsPlain (.str s)
  | raw {t : Text} (stray : t.toString? = none) : IsPlain (.raw t)

/-- The bytes of an identity: those of the type, a NUL, and those of the rendering. -/
theorem bytes_identity (v : Value) :
    v.identity.bytes = (Text.ofString v.typeName).bytes ++ 0 :: v.render.bytes := by
  simp [identity]

/-- No name of a type has a NUL in it. -/
theorem takeWhile_bytes_identity (v : Value) :
    v.identity.bytes.takeWhile (· ≠ 0) = (Text.ofString v.typeName).bytes := by
  have hname : '\x00' ∉ v.typeName.toList := by
    cases v with
    | int width n => cases width <;> simp [typeName]
    | _ => simp [typeName]
  have hplain : ∀ b ∈ (Text.ofString v.typeName).bytes, b ≠ 0 :=
    fun b ↦ Text.ne_zero_of_mem_bytes_ofString hname
  rw [bytes_identity, List.takeWhile_append_of_pos (by simpa using hplain)]
  simp

/-- The identity of an operand tells its type and its rendering. -/
theorem identity_eq_iff {v w : Value} :
    v.identity = w.identity ↔ v.typeName = w.typeName ∧ v.render = w.render := by
  constructor
  · intro h
    have htype : (Text.ofString v.typeName).bytes = (Text.ofString w.typeName).bytes := by
      rw [← takeWhile_bytes_identity, ← takeWhile_bytes_identity, h]
    have hrender := congrArg Text.bytes h
    rw [bytes_identity, bytes_identity, htype, List.append_cancel_left_eq,
      List.cons_inj_right] at hrender
    exact ⟨Text.ofString_injective (Text.eq_of_bytes_eq htype), Text.eq_of_bytes_eq hrender⟩
  · rintro ⟨htype, hrender⟩
    rw [identity, identity, htype, hrender]

/-- Plain operands that count as one are one. -/
theorem eq_of_identity_eq {v w : Value} (hv : v.IsPlain) (hw : w.IsPlain)
    (h : v.identity = w.identity) : v = w := by
  obtain ⟨htype, hrender⟩ := identity_eq_iff.mp h
  have hstray : ∀ (s : String) (t : Text), t.toString? = none → Text.ofString s ≠ t := by
    rintro s t hnone rfl
    rw [Text.toString?_ofString] at hnone
    cases hnone
  -- two types are told apart by their names; strings are the only type that has two forms
  cases hv <;> cases hw <;> try exact absurd htype (by simp only [typeName]; decide)
  case null.null => rfl
  case bool.bool b b' =>
    have hword : (if b then "true" else "false") = if b' then "true" else "false" := by
      apply Text.ofString_injective
      simpa only [render, apply_ite] using hrender
    have htold : ∀ b b' : Bool,
        ((if b then "true" else "false") = if b' then "true" else "false") → b = b' := by
      decide
    rw [htold b b' hword]
  case int.int n n' =>
    have hdigits : toString n = toString n' := Text.ofString_injective hrender
    rw [Int.toString_eq_repr, Int.toString_eq_repr] at hdigits
    rw [intRepr_injective hdigits]
  case str.str s s' => rw [Text.ofString_injective hrender]
  case str.raw s t stray => exact absurd hrender (hstray s t stray)
  case raw.str t stray s => exact absurd hrender.symm (hstray s t stray)
  case raw.raw t _ t' _ => exact congrArg Value.raw hrender

/-- Whatever counts as one with an integer of 64 signed bits is this integer. -/
theorem eq_int64_of_identity_eq {v : Value} {n : ℤ}
    (h : v.identity = (Value.int .int64 n).identity) : v = .int .int64 n := by
  obtain ⟨htype, hrender⟩ := identity_eq_iff.mp h
  -- no other type has the name
  have hint : ∃ m, v = .int .int64 m := by
    cases v with
    | int width m => cases width <;> first | exact ⟨m, rfl⟩ | simp [typeName] at htype
    | _ => simp [typeName] at htype
  obtain ⟨m, rfl⟩ := hint
  exact eq_of_identity_eq (.int m) (.int n) h

end Value

/-! ## Lists without repeats -/

theorem distinctFrom_sublist (seen : List Text) (vs : List Value) :
    (distinctFrom seen vs).Sublist vs := by
  fun_induction distinctFrom seen vs with
  | case1 => exact .slnil
  | case2 seen v vs _ ih => exact ih.cons v
  | case3 seen v vs _ ih => exact ih.cons_cons v

/-- The identities left are new, and none of them is repeated. -/
theorem identity_distinctFrom (seen : List Text) (vs : List Value) :
    ((distinctFrom seen vs).map Value.identity).Nodup ∧
      ∀ v ∈ distinctFrom seen vs, v.identity ∉ seen := by
  fun_induction distinctFrom seen vs with
  | case1 => simp
  | case2 seen v vs _ ih => exact ih
  | case3 seen v vs hnew ih =>
    obtain ⟨hnodup, hfresh⟩ := ih
    refine ⟨List.nodup_cons.mpr ⟨?_, hnodup⟩, List.forall_mem_cons.mpr ⟨by simpa using hnew, ?_⟩⟩
    · intro hmem
      obtain ⟨w, hw, heq⟩ := List.mem_map.mp hmem
      exact hfresh w hw (by simp [heq])
    · exact fun w hw hseen ↦ hfresh w hw (List.mem_cons_of_mem _ hseen)

/-- Whatever is dropped has been met before. -/
theorem exists_mem_distinctFrom (seen : List Text) (vs : List Value) :
    ∀ v ∈ vs, v.identity ∈ seen ∨ ∃ w ∈ distinctFrom seen vs, w.identity = v.identity := by
  fun_induction distinctFrom seen vs with
  | case1 => simp
  | case2 seen v vs hold ih => exact List.forall_mem_cons.mpr ⟨.inl (by simpa using hold), ih⟩
  | case3 seen v vs hnew ih =>
    refine List.forall_mem_cons.mpr ⟨.inr ⟨v, by simp, rfl⟩, fun w hw ↦ ?_⟩
    rcases ih w hw with hseen | ⟨u, hu, heq⟩
    · rcases List.mem_cons.mp hseen with heq | hseen
      · exact .inr ⟨v, by simp, heq.symm⟩
      · exact .inl hseen
    · exact .inr ⟨u, List.mem_cons_of_mem _ hu, heq⟩

theorem mem_of_mem_distinctOperands {vs : List Value} {v : Value} (h : v ∈ distinctOperands vs) :
    v ∈ vs :=
  (distinctFrom_sublist [] vs).subset h

theorem nodup_distinctOperands (vs : List Value) : (distinctOperands vs).Nodup :=
  (identity_distinctFrom [] vs).1.of_map

/-- Of plain operands nothing is lost. -/
theorem mem_distinctOperands_iff {vs : List Value} (h : ∀ v ∈ vs, v.IsPlain) {v : Value} :
    v ∈ distinctOperands vs ↔ v ∈ vs := by
  refine ⟨mem_of_mem_distinctOperands, fun hv ↦ ?_⟩
  obtain hseen | ⟨w, hw, heq⟩ := exists_mem_distinctFrom [] vs v hv
  · cases hseen
  · rwa [← Value.eq_of_identity_eq (h w (mem_of_mem_distinctOperands hw)) (h v hv) heq]

/-- Integers of 64 signed bits are never lost, whatever they are listed with. -/
theorem mem_distinctOperands_int64_iff {vs : List Value} {n : ℤ} :
    .int .int64 n ∈ distinctOperands vs ↔ .int .int64 n ∈ vs := by
  refine ⟨mem_of_mem_distinctOperands, fun hn ↦ ?_⟩
  obtain hseen | ⟨w, hw, heq⟩ := exists_mem_distinctFrom [] vs _ hn
  · cases hseen
  · rwa [← Value.eq_int64_of_identity_eq heq]

end PathQuery
