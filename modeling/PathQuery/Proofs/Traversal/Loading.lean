import PathQuery.Proofs.Traversal.Calls

/-!
# Every value once, or none

Values are loaded in batches, one statement for each and all of them inside of one transaction. A
call that is refused ends the loading there: a transaction that is under way is given up, unless it
is the end of it that has been refused. So there are four ways for loading to go, and in only one of
them is there a commit that goes through; in that one every batch has gone in before it. The batches
are the values cut up, whatever their number is.
-/

namespace PathQuery

/-! ## Batches -/

/-- Values cut up, in order, for statements that take some of them each, but not too many. -/
structure Batched {α : Type} (values : List α) (batches : List (List α)) : Prop where
  /-- Every value is in one place, and they are in order. -/
  flatten : batches.flatten = values
  /-- Every statement has a value. -/
  length_pos : ∀ b ∈ batches, 1 ≤ b.length
  /-- No statement has too many of them. -/
  length_le : ∀ b ∈ batches, b.length ≤ 500

theorem batched_insertBatches {α : Type} (values : List α) :
    Batched values (insertBatches values) := by
  fun_induction insertBatches values with
  | case1 => exact ⟨rfl, nofun, nofun⟩
  | case2 v rest ih =>
    refine ⟨?_, List.forall_mem_cons.mpr ⟨?_, ih.length_pos⟩,
      List.forall_mem_cons.mpr ⟨List.length_take_le _ _, ih.length_le⟩⟩
    · rw [List.flatten_cons, ih.flatten, List.take_append_drop]
    · rw [List.length_take, List.length_cons, insertLimit]
      omega

/-! ## Statements -/

/-- A text of `n` groups of one placeholder each, with commas between them. -/
inductive PlaceholderGroups : ℕ → List Char → Prop
  | one : PlaceholderGroups 1 "(?)".toList
  | more {n : ℕ} {text : List Char} (rest : PlaceholderGroups n text) :
      PlaceholderGroups (n + 1) ("(?),".toList ++ text)

/-- A statement that inserts `n` rows into a table, of one placeholder each. -/
def InsertsRows (m : MembershipTable) (n : ℕ) (sql : String) : Prop :=
  ∃ groups, PlaceholderGroups n groups ∧ sql.toList = ("INSERT INTO " ++ quoteIdentifier m.name ++
    " (" ++ quoteIdentifier m.column ++ ") VALUES ").toList ++ groups

theorem placeholderGroups_intercalate (n : ℕ) :
    PlaceholderGroups (n + 1) (String.intercalate "," (List.replicate (n + 1) "(?)")).toList := by
  induction n with
  | zero => exact .one
  | succ n ih =>
    have hmore := PlaceholderGroups.more ih
    have htext : (String.intercalate "," (List.replicate (n + 2) "(?)")).toList = "(?),".toList ++
        (String.intercalate "," (List.replicate (n + 1) "(?)")).toList := by
      simp only [List.replicate_succ, String.intercalate_cons_cons, String.toList_append]
      rfl
    rwa [htext]

theorem insertsRows_insertRows (m : MembershipTable) {n : ℕ} (hn : 1 ≤ n) :
    InsertsRows m n (Dialect.insertRows m n) := by
  obtain ⟨n, rfl⟩ := Nat.exists_eq_add_of_le' hn
  exact ⟨_, placeholderGroups_intercalate n, String.toList_append⟩

/-! ## Calls -/

/-- The record of a statement that inserts a batch. -/
def insertion (m : MembershipTable) (ch : Channel) (failure : Option String) (batch : List Value) :
    CallRecord :=
  ⟨.exec (Dialect.insertRows m batch.length) batch, ch, failure⟩

theorem smooth_map_insertion (m : MembershipTable) (ch : Channel) (batches : List (List Value)) :
    Smooth (batches.map (insertion m ch none)) := by
  simp [Smooth, insertion]

/-- How a transaction goes that inserts batches by way of a channel: what it fails with, and the
records of it. -/
inductive Transaction (m : MembershipTable) (ch : Channel) (batches : List (List Value)) :
    Option ExecutionError → List CallRecord → Prop
  /-- It does not begin. -/
  | refused (e : String) : Transaction m ch batches (some (.transaction e)) [⟨.begin, ch, some e⟩]
  /-- A batch is refused: those after it are not sent, and those before it are taken back. -/
  | abandoned {before after : List (List Value)} {batch : List Value} (e : String)
      (failure : Option String) (cut : batches = before ++ batch :: after) :
      Transaction m ch batches (some (.load m.name e)) (⟨.begin, ch, none⟩ ::
        before.map (insertion m ch none) ++
          [insertion m ch (some e) batch, ⟨.rollback, ch, failure⟩])
  /-- All batches are in, but they are not kept. -/
  | uncommitted (e : String) : Transaction m ch batches (some (.transaction e))
      (⟨.begin, ch, none⟩ :: batches.map (insertion m ch none) ++ [⟨.commit, ch, some e⟩])
  /-- All batches are in, and they are kept. -/
  | committed : Transaction m ch batches none
      (⟨.begin, ch, none⟩ :: batches.map (insertion m ch none) ++ [⟨.commit, ch, none⟩])

/-- A transaction fails exactly if a call is refused. -/
theorem Transaction.eq_none_iff {m : MembershipTable} {ch : Channel} {batches : List (List Value)}
    {failure : Option ExecutionError} {rs : List CallRecord}
    (h : Transaction m ch batches failure rs) : failure = none ↔ Smooth rs := by
  cases h with
  | refused e => simp
  | abandoned e failure cut => simp [insertion]
  | uncommitted e => simp
  | committed => simp [smooth_map_insertion]

namespace SessionM

variable {ch : Channel}

/-- Batches are inserted up to the first that is refused. -/
theorem insertions_insertAll (m : MembershipTable) (batches : List (List Value)) :
    (insertAll ch m batches).Emits ch fun failure rs ↦
      failure = none ∧ rs = batches.map (insertion m ch none) ∨
      ∃ (before : List (List Value)) (batch : List Value) (after : List (List Value)) (e : String),
        batches = before ++ batch :: after ∧ failure = some e ∧
        rs = before.map (insertion m ch none) ++ [insertion m ch (some e) batch] := by
  induction batches with
  | nil => exact .pure (.inl ⟨rfl, rfl⟩)
  | cons batch batches ih =>
    refine .call_bind rfl fun failure ↦ ?_
    cases failure with
    | some e => exact .pure (.inr ⟨[], batch, batches, e, rfl, rfl, rfl⟩)
    | none =>
      refine ih.mono ?_
      rintro failure rs (⟨rfl, rfl⟩ | ⟨before, batch', after, e, rfl, rfl, rfl⟩)
      · exact .inl ⟨rfl, rfl⟩
      · exact .inr ⟨batch :: before, batch', after, e, rfl, rfl, rfl⟩

theorem transaction_insertValues (m : MembershipTable) :
    (insertValues ch m).Emits ch (Transaction m ch (insertBatches m.values)) := by
  refine .call_bind rfl fun failure ↦ ?_
  cases failure with
  | some e => exact .pure (.refused e)
  | none =>
    refine (insertions_insertAll m _).bind ?_
    rintro failure rs (⟨rfl, rfl⟩ | ⟨before, batch, after, e, hcut, rfl, rfl⟩)
    · refine .call_bind rfl fun failure ↦ ?_
      cases failure with
      | some e => exact .pure (.uncommitted e)
      | none => exact .pure .committed
    · refine .call_bind rfl fun failure ↦ .pure ?_
      have habandoned : Transaction m ch _ _ _ := .abandoned e failure hcut
      simpa using habandoned

/-- **Every value is loaded once, in order, or none is.** Whatever the database answers, loading a
table is a transaction of statements that take the values of the table in batches. Each statement
has at least one operand and at most 500, and as many groups of placeholders as operands. It fails
exactly if a call is refused. -/
theorem loads_once_insertValues (ch : Channel) (m : MembershipTable) :
    (insertValues ch m).Emits ch fun failure rs ↦ (failure = none ↔ Smooth rs) ∧
      ∃ batches, Batched m.values batches ∧ Transaction m ch batches failure rs ∧
        ∀ b ∈ batches, InsertsRows m b.length (Dialect.insertRows m b.length) := by
  have hbatched := batched_insertBatches m.values
  refine (transaction_insertValues m).mono fun failure rs h ↦ ?_
  exact ⟨h.eq_none_iff, _, hbatched, h,
    fun b hb ↦ insertsRows_insertRows m (hbatched.length_pos b hb)⟩

end SessionM

end PathQuery
