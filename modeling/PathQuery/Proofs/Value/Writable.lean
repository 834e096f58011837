import PathQuery.Value.Json

/-!
# Values with a place in a document

Whether a value has a place in a JSON document is told by its parts: its numbers are finite, its
timestamps have a year of four digits, its stored documents are documents, and no mapping in it has
keys that are no strings.
-/

namespace PathQuery

/-! ## Answers that are there -/

section Except

variable {ε α β : Type}

theorem isOk_bind {x : Except ε α} {f : α → Except ε β} {b : Bool}
    (h : ∀ a, x = .ok a → (f a).isOk = b) : (x >>= f).isOk = (x.isOk && b) := by
  cases x with
  | error e => rfl
  | ok a => exact h a rfl

theorem isOk_bind_pure (x : Except ε α) (g : α → β) :
    (x >>= fun a ↦ pure (g a)).isOk = x.isOk := by
  cases x <;> rfl

theorem isOk_mapM (f : α → Except ε β) (as : List α) :
    (as.mapM f).isOk = as.all fun a ↦ (f a).isOk := by
  induction as with
  | nil => rfl
  | cons a as ih =>
    rw [List.mapM_cons, isOk_bind fun b _ ↦ (isOk_bind_pure _ _).trans ih, List.all_cons]

end Except

/-- Whether a number is finite. -/
def BinaryValue.isFinite : BinaryValue → Bool
  | .finite .. => true
  | .nan | .infinite _ => false

namespace Value

mutual

/-- Whether a value has a place in a document. -/
def isWritable : Value → Bool
  | .double x => x.value.isFinite
  | .single x => x.value.isFinite
  | .moment m => 0 ≤ m.civil.year && m.civil.year ≤ 9999
  | .json t => (Json.parse t.scrub).isOk
  | .list vs => areWritable vs
  | .record fields => fieldsAreWritable fields
  | .table _ => false
  | _ => true

/-- Whether all values of a list have a place in a document. -/
def areWritable : List Value → Bool
  | [] => true
  | v :: vs => v.isWritable && areWritable vs

/-- Whether all fields of a mapping have a place in a document. -/
def fieldsAreWritable : List (String × Value) → Bool
  | [] => true
  | (_, v) :: fields => v.isWritable && fieldsAreWritable fields

end

theorem areWritable_eq_all (vs : List Value) : areWritable vs = vs.all isWritable := by
  induction vs with
  | nil => rfl
  | cons v vs ih => rw [areWritable, ih, List.all_cons]

theorem fieldsAreWritable_eq_all (fields : List (String × Value)) :
    fieldsAreWritable fields = fields.all (·.2.isWritable) := by
  induction fields with
  | nil => rfl
  | cons field fields ih => rw [fieldsAreWritable, ih, List.all_cons]

theorem isOk_toJson_binary (v : BinaryValue) (plain document : String) :
    (v.toJson plain document).isOk = v.isFinite := by
  cases v <;> rfl

theorem isOk_toJson_text (t : Text) : t.toJson.isOk = (Json.parse t.scrub).isOk := by
  rw [Text.toJson]
  cases Json.parse t.scrub with
  | ok j => rfl
  | error e =>
    dsimp only
    split <;> rfl

mutual

/-- **Exactly these values are written.** -/
theorem isOk_toJson : ∀ v : Value, v.toJson.isOk = v.isWritable
  | .null | .bool _ | .int _ _ | .str _ | .raw _ | .bytes _ | .span _ | .period _ | .table _ => rfl
  | .double x => isOk_toJson_binary x.value _ _
  | .single x => isOk_toJson_binary x.value _ _
  | .moment m => by
    rw [toJson, isWritable]
    split <;> simp_all [Except.isOk, Except.toBool]
  | .json t => isOk_toJson_text t
  | .list vs => by
    rw [toJson, isWritable, isOk_bind_pure, isOk_listToJson vs]
  | .record fields => by
    rw [toJson, isWritable, isOk_bind_pure, isOk_fieldsToJson fields]

theorem isOk_listToJson : ∀ vs : List Value, (listToJson vs).isOk = areWritable vs
  | [] => rfl
  | v :: vs => by
    rw [listToJson, areWritable, ← isOk_toJson v,
      isOk_bind fun _ _ ↦ (isOk_bind_pure _ _).trans (isOk_listToJson vs)]

theorem isOk_fieldsToJson : ∀ fields : List (String × Value),
    (fieldsToJson fields).isOk = fieldsAreWritable fields
  | [] => rfl
  | (k, v) :: fields => by
    rw [fieldsToJson, fieldsAreWritable, ← isOk_toJson v,
      isOk_bind fun _ _ ↦ (isOk_bind_pure _ _).trans (isOk_fieldsToJson fields)]

end

end Value

end PathQuery
