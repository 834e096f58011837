import Mathlib.Data.List.Nodup
import PathQuery.Yaml.Decode

/-!
# What decoding keeps

Nodes that do not fit leave a value as it was, merged mappings are decoded into the value of the
mapping that asks for them, and a repeated field is put on record. So decoding is a sequence of
changes to one value, and a property of it that every change keeps is kept by decoding as a whole,
whatever the document. A target keeps a property if its null and its scalars have it, its sequences
come to values that have it, and its mappings change values that have it to such values; for the
targets that are put together from others this follows from what these keep.
-/

namespace PathQuery.Yaml.DecodeM

variable {α β σ : Type}

/-! ## Steps -/

/-- Every value that a step comes to has a property. -/
def Gives (m : DecodeM α) (P : α → Prop) : Prop := ∀ d a d', m d = .ok (a, d') → P a

section Gives

variable {P : α → Prop} {Q : β → Prop}

theorem Gives.always (m : DecodeM α) : Gives m fun _ ↦ True := fun _ _ _ _ ↦ trivial

theorem Gives.pure {a : α} (h : P a) : Gives (pure a : DecodeM α) P := by
  rintro d _ _ ⟨⟩
  exact h

theorem Gives.throw (e : Error) : Gives (throw e : DecodeM α) P := by
  rintro d _ _ ⟨⟩

theorem Gives.stop : Gives (stop : DecodeM α) P := .throw _

theorem Gives.bind {m : DecodeM α} {f : α → DecodeM β} (hm : Gives m P)
    (hf : ∀ a, P a → Gives (f a) Q) : Gives (m >>= f) Q := by
  intro d b d' h
  change (m d >>= fun x ↦ f x.1 x.2) = .ok (b, d') at h
  cases hd : m d with
  | error e =>
    rw [hd] at h
    cases h
  | ok x =>
    rw [hd] at h
    exact hf x.1 (hm d x.1 x.2 hd) x.2 b d' h

/-- The answer of a step that is not looked at. -/
theorem Gives.after (m : DecodeM α) {f : α → DecodeM β} (hf : ∀ a, Gives (f a) Q) :
    Gives (m >>= f) Q := (Gives.always m).bind fun a _ ↦ hf a

theorem Gives.foldlM {f : β → α → DecodeM β} (hf : ∀ b a, Q b → Gives (f b a) Q) {as : List α}
    {b : β} (hb : Q b) : Gives (as.foldlM f b) Q := by
  induction as generalizing b with
  | nil => exact .pure hb
  | cons a as ih =>
    rw [List.foldlM_cons]
    exact (hf b a hb).bind fun _ ↦ ih

theorem Gives.through {decode : Node → DecodeM α} (h : ∀ n, Gives (decode n) P) (n : Node) :
    Gives (through decode n) P := by
  refine .after _ fun _ ↦ ?_
  split
  · refine .after _ fun d ↦ ?_
    split
    · exact .after _ fun _ ↦ .after _ fun _ ↦ .after _ fun _ ↦ .after _ fun m ↦
        (h m).bind fun _ ha ↦ .after _ fun _ ↦ .pure ha
    · exact .after _ fun _ ↦ .after _ fun _ ↦ .after _ fun m ↦
        (h m).bind fun _ ha ↦ .after _ fun _ ↦ .pure ha
  · exact h _

end Gives

/-! ## Mappings -/

section Mappings

variable {P : σ → Prop}

/-- What the change of every pair keeps, going through the pairs of a mapping keeps. -/
theorem Gives.eachPair {key : Node → DecodeM (Option Value)}
    {change : Node → Value → Node → σ → DecodeM σ}
    (h : ∀ n k value s, P s → Gives (change n k value s) P) (pairs : List (Node × Node)) {s : σ}
    (hs : P s) : Gives (eachPair key change pairs s) P := by
  refine .after _ fun d ↦ .after _ fun _ ↦ ?_
  refine (Gives.foldlM (Q := fun x : σ × Option (List Value) ↦ P x.1) ?_ hs).bind ?_
  · rintro ⟨s, taken⟩ pair hs
    dsimp only
    split
    · exact .pure hs
    · refine .after _ fun k ↦ ?_
      split
      · exact .pure hs
      · exact (h _ _ _ _ hs).bind fun _ hs' ↦ .pure hs'
      · refine .after _ fun found ↦ ?_
        split
        · exact .pure hs
        · exact (h _ _ _ _ hs).bind fun _ hs' ↦ .pure hs'
  · rintro ⟨s, taken⟩ hs
    exact .after _ fun _ ↦ .pure hs

/-- What decoding a mapping keeps, merging others into it keeps. -/
theorem Gives.merge {anyKey : Node → DecodeM (Option Value)} {into : Node → σ → DecodeM σ}
    (h : ∀ n s, P s → Gives (into n s) P) (pairs : List (Node × Node)) {s : σ} (hs : P s) :
    Gives (merge anyKey into pairs s) P := by
  have hone : ∀ s (n : Node), P s →
      Gives (do if ← isMapping n then into n s else DecodeM.stop : DecodeM σ) P := by
    intro s n hs
    refine .after _ fun found ↦ ?_
    split
    · exact h n s hs
    · exact .stop
  unfold DecodeM.merge
  split
  · exact .pure hs
  · -- the mappings are merged in the same way whether or not this is the outermost merge
    refine .after _ fun d ↦ ?_
    dsimp only
    split
    · refine .after _ fun keys ↦ .after _ fun _ ↦ ?_
      split
      · exact (Gives.foldlM hone hs).bind fun _ hs ↦ .after _ fun _ ↦ .pure hs
      · exact (hone _ _ hs).bind fun _ hs ↦ .after _ fun _ ↦ .pure hs
    · split
      · exact (Gives.foldlM hone hs).bind fun _ hs ↦ .pure hs
      · exact (hone _ _ hs).bind fun _ hs ↦ .pure hs

end Mappings

/-! ## Targets -/

namespace Target

/-- What a target makes of nodes keeps a property of values. -/
structure Keeps (t : Target σ) (P : σ → Prop) : Prop where
  /-- The null of the type has the property. -/
  null : ∀ a, t.null = some a → P a := by nofun
  /-- So have scalars. -/
  scalar : ∀ tag v text a, t.scalar tag v text = some a → P a := by nofun
  /-- So has what sequences come to. -/
  items : ∀ f, t.items = some f → ∀ nodes, Gives (f nodes) P := by nofun
  /-- Mappings keep it. -/
  pairs : ∀ f, t.pairs = some f → ∀ pairs s, P s → Gives (f pairs s) P := by nofun

variable {t : Target σ} {P : σ → Prop}

theorem Keeps.content (h : t.Keeps P) (n : Node) {s : σ} (hs : P s) :
    Gives (t.content n s) fun x ↦ P x.1 := by
  unfold Target.content
  split
  · refine .after _ fun x ↦ ?_
    obtain ⟨found, v⟩ := x
    dsimp only
    split
    · refine .pure ?_
      cases hnull : t.null with
      | none => exact hs
      | some a => exact h.null a hnull
    · split
      · next a ha => exact .pure (h.scalar _ _ _ a ha)
      · exact .after _ fun _ ↦ .pure hs
  · split
    · next f hf => exact (h.items f hf _).bind fun _ ha ↦ .pure ha
    · exact .after _ fun _ ↦ .pure hs
  · refine .after _ fun repeats ↦ ?_
    split
    · exact .pure hs
    · split
      · next f hf => exact (h.pairs f hf _ s hs).bind fun _ ha ↦ .pure ha
      · exact .after _ fun _ ↦ .pure hs
  · exact .stop

theorem Keeps.decode (h : t.Keeps P) (n : Node) {s : σ} (hs : P s) :
    Gives (t.decode n s) fun x ↦ P x.1 := .through (fun n ↦ h.content n hs) n

theorem Keeps.into (h : t.Keeps P) (n : Node) {s : σ} (hs : P s) : Gives (t.into n s) P :=
  (h.decode n hs).bind fun _ hx ↦ .pure hx

/-- What a document comes to. -/
theorem Keeps.run (h : t.Keeps P) {zero a : σ} (hzero : P zero) {nodes : Array Node} {root : Node}
    (hrun : run t zero nodes root = .ok a) : P a := by
  unfold DecodeM.run at hrun
  split at hrun
  · cases hrun
  · next b d hb =>
    have hP : P b := (Gives.after countStep fun _ ↦ h.into root hzero) _ _ _ hb
    split at hrun
    · exact Except.ok.inj hrun ▸ hP
    · cases hrun

/-! ## Targets of other targets -/

/-- There is always the property that says nothing. -/
theorem keeps_true (t : Target σ) : t.Keeps fun _ ↦ True where
  null _ _ := trivial
  scalar _ _ _ _ _ := trivial
  items _ _ _ := .always _
  pairs _ _ _ _ _ := .always _

/-- A field that is set keeps what any value of it keeps. -/
theorem keeps_field {α : Type} (t : Target α) {get : σ → α} {set : σ → α → σ}
    {change : Node → σ → DecodeM σ} (hfield : t.field get set = some change) {P : σ → Prop}
    {Q : α → Prop} (ht : t.Keeps Q) (hget : ∀ s, P s → Q (get s))
    (hset : ∀ s a, P s → Q a → P (set s a)) (n : Node) {s : σ} (hs : P s) :
    Gives (change n s) P := by
  obtain rfl := Option.some.inj hfield
  exact (ht.into n (hget s hs)).bind fun a ha ↦ .pure (hset s a hs ha)

/-- A record keeps what each of its fields keeps. -/
theorem keeps_record {fields : Fields σ} {P : σ → Prop}
    (h : ∀ name change, fields.field name = some change → ∀ n s, P s → Gives (change n s) P)
    (fuel : ℕ) : (record fields fuel).Keeps P := by
  induction fuel with
  | zero => exact { pairs := by rintro _ ⟨⟩ _ _ _; exact .stop }
  | succ fuel ih =>
    refine { pairs := ?_ }
    rintro _ ⟨⟩ pairs s hs
    have hpair : ∀ n k value (state : σ × List String), P state.1 →
        Gives (fields.change n k value state) fun x ↦ P x.1 := by
      rintro n k value ⟨s, done⟩ hs
      unfold Fields.change
      dsimp only
      split
      · next change hchange =>
        split
        · exact .after _ fun _ ↦ .pure hs
        · exact (h _ change hchange value s hs).bind fun _ hs' ↦ .pure hs'
      · split
        · exact .after _ fun _ ↦ .pure hs
        · exact .pure hs
    exact (Gives.eachPair (P := fun x : σ × List String ↦ P x.1) hpair pairs hs).bind fun x hx ↦
      .merge (fun n s hs ↦ ih.into n hs) pairs hx

/-- What a record that may be null comes to. -/
theorem Keeps.pointed (h : t.Keeps P) {zero : σ} (hzero : P zero) (n : Node) :
    Gives (pointed t zero n) fun v ↦ ∀ a, v = some (some a) → P a := by
  have hgiven : ∀ n, Gives (pointed.given t zero n) fun v ↦ ∀ a, v = some a → P a := by
    intro n
    refine (h.content n hzero).bind fun x hx ↦ .pure fun a ha ↦ ?_
    obtain ⟨s, said⟩ := x
    cases said with
    | true => exact Option.some.inj ha ▸ hx
    | false => cases ha
  have hmap : ∀ n, Gives (do return (← pointed.given t zero n).map some)
      fun v ↦ ∀ a, v = some (some a) → P a := fun n ↦ (hgiven n).bind fun v hv ↦ .pure fun a ha ↦ by
    obtain ⟨b, rfl, hb⟩ := Option.map_eq_some_iff.mp ha
    exact hv a (congrArg some (Option.some.inj hb))
  refine .through (fun n ↦ ?_) n
  split
  · split
    · exact .after _ fun _ ↦ .pure nofun
    · exact hmap _
  · exact .stop
  · split
    · split
      · refine .after _ fun repeats ↦ ?_
        split
        · exact .pure nofun
        · exact .after _ fun _ ↦ .pure nofun
      · exact .after _ fun _ ↦ .pure nofun
    · exact hmap _

section Tables

variable {name : String} {entries : List (String × Option σ)}

/-- Every name is listed once, and what stands under it has a property. -/
def Listed (P : σ → Prop) (entries : List (String × Option σ)) : Prop :=
  (entries.map Prod.fst).Nodup ∧ ∀ x ∈ entries, ∀ a, x.2 = some a → P a

theorem mem_keys_putEntry {value : Option σ} {key : String}
    (h : key ∈ (putEntry (· == ·) name value entries).map Prod.fst) :
    key = name ∨ key ∈ entries.map Prod.fst := by
  induction entries with
  | nil => exact .inl (List.mem_singleton.mp h)
  | cons entry rest ih =>
    rw [putEntry] at h
    split at h
    · exact (List.mem_cons.mp h).imp_right (List.mem_cons_of_mem _)
    · rcases List.mem_cons.mp h with rfl | h
      · exact .inr List.mem_cons_self
      · exact (ih h).imp_right (List.mem_cons_of_mem _)

theorem Listed.putEntry (h : Listed P entries) {value : Option σ}
    (hvalue : ∀ a, value = some a → P a) : Listed P (putEntry (· == ·) name value entries) := by
  induction entries with
  | nil => exact ⟨List.nodup_singleton _, List.forall_mem_singleton.mpr hvalue⟩
  | cons entry rest ih =>
    obtain ⟨hkeys, hvalues⟩ := h
    obtain ⟨hkey, hrest⟩ := List.nodup_cons.mp hkeys
    obtain ⟨hentry, hvalues⟩ := List.forall_mem_cons.mp hvalues
    rw [DecodeM.putEntry]
    split
    · next hsame =>
      obtain rfl : entry.1 = name := eq_of_beq hsame
      exact ⟨hkeys, List.forall_mem_cons.mpr ⟨hvalue, hvalues⟩⟩
    · next hother =>
      obtain ⟨hnodup, hall⟩ := ih ⟨hrest, hvalues⟩
      refine ⟨List.nodup_cons.mpr ⟨fun hmem ↦ ?_, hnodup⟩, List.forall_mem_cons.mpr ⟨hentry, hall⟩⟩
      rcases mem_keys_putEntry hmem with heq | hmem
      · exact hother (beq_iff_eq.mpr heq)
      · exact hkey hmem

/-- A table of records lists every name once, and keeps of each record what records keep. -/
theorem Keeps.table (h : t.Keeps P) {zero : σ} (hzero : P zero) (fuel : ℕ) :
    (table t zero fuel).Keeps (Listed P) := by
  induction fuel with
  | zero => exact { pairs := by rintro _ ⟨⟩ _ _ _; exact .stop }
  | succ fuel ih =>
    refine {
      null := by rintro _ ⟨⟩; exact ⟨List.nodup_nil, List.forall_mem_nil _⟩
      pairs := ?_ }
    rintro _ ⟨⟩ pairs s hs
    refine (Gives.eachPair (fun n k value s hs ↦ ?_) pairs hs).bind fun s' hs' ↦
      .merge (fun n s hs ↦ ih.into n hs) pairs hs'
    dsimp only
    refine (h.pointed hzero value).bind fun v hv ↦ ?_
    split
    · next v hv' => exact .pure (hs.putEntry fun a ha ↦ hv a (by rw [ha]))
    · refine .after _ fun tag ↦ ?_
      split
      · exact .pure (hs.putEntry nofun)
      · exact .pure hs

end Tables

end Target

end PathQuery.Yaml.DecodeM
