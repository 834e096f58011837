import PathQuery.Proofs.Relational.Basic

/-!
# Walks

A walk gives a row to each of some steps in such a way that each row is a partner of the one
before. Joining a run of steps computes walks: with nulls for a missing partner when the joins are
left joins. A null has no partner, so a walk that loses its track never finds it again and ends in
a null; whatever looks at the end of a walk therefore sees no difference between left and inner
joins. This is the one idea behind the statements below.
-/

namespace PathQuery

/-- The walks over some steps that start below a row. `partners` are the rows that a step has for
the row above it. -/
def walks (partners : NodeId → Row → Multiset Row) : Row → List NodeId → Multiset (List Row)
  | _, [] => {[]}
  | above, id :: ids => (partners id above).bind fun r ↦ (walks partners r ids).map (r :: ·)

variable {partners : NodeId → Row → Multiset Row} {β : Type}

theorem walks_cons_bind (above : Row) (id : NodeId) (ids : List NodeId)
    (f : List Row → Multiset β) :
    (walks partners above (id :: ids)).bind f =
      (partners id above).bind fun r ↦ (walks partners r ids).bind fun rs ↦ f (r :: rs) := by
  simp only [walks, Multiset.bind_assoc, Multiset.bind_map]

theorem length_of_mem_walks {above : Row} {ids : List NodeId} {rs : List Row}
    (h : rs ∈ walks partners above ids) : rs.length = ids.length := by
  induction ids generalizing above rs with
  | nil =>
    obtain rfl := Multiset.mem_singleton.mp h
    rfl
  | cons id ids ih =>
    obtain ⟨r, -, hr⟩ := Multiset.mem_bind.mp h
    obtain ⟨rest, hrest, rfl⟩ := Multiset.mem_map.mp hr
    rw [List.length_cons, List.length_cons, ih hrest]

/-- Walks depend on the partners of their own steps only. -/
theorem walks_congr {partners partners' : NodeId → Row → Multiset Row} {ids : List NodeId}
    (h : ∀ id ∈ ids, ∀ r, partners id r = partners' id r) (above : Row) :
    walks partners above ids = walks partners' above ids := by
  induction ids generalizing above with
  | nil => rfl
  | cons id ids ih =>
    obtain ⟨hid, hids⟩ := List.forall_mem_cons.mp h
    rw [walks, walks, hid]
    exact Multiset.bind_congr fun r _ ↦ by rw [ih hids]

/-- A walk over steps and further steps goes on from where it was. -/
theorem walks_append_bind (above : Row) (ids ids' : List NodeId) (f : List Row → Multiset β) :
    (walks partners above (ids ++ ids')).bind f =
      (walks partners above ids).bind fun rs ↦
        (walks partners (rs.getLastD above) ids').bind fun rs' ↦ f (rs ++ rs') := by
  induction ids generalizing above f with
  | nil => simp [walks]
  | cons id ids ih =>
    rw [List.cons_append, walks_cons_bind, walks_cons_bind]
    refine Multiset.bind_congr fun r _ ↦ ?_
    rw [ih]
    simp only [List.cons_append, List.getLastD_cons]

/-- Nothing that looks at the end of a walk tells left joins from inner ones. -/
theorem walks_orNull_bind (hnull : ∀ id, partners id nullRow = 0) (above : Row)
    (ids : List NodeId) {f : List Row → Multiset β}
    (hf : ∀ rs, rs.getLast? = some nullRow → f rs = 0) :
    (walks (fun id r ↦ orNull (partners id r)) above ids).bind f =
      (walks partners above ids).bind f := by
  induction ids generalizing above f with
  | nil => rfl
  | cons id ids ih =>
    have hrest : ∀ r, (walks (fun id r ↦ orNull (partners id r)) r ids).bind
        (fun rs ↦ f (r :: rs)) = (walks partners r ids).bind fun rs ↦ f (r :: rs) := by
      refine fun r ↦ ih r fun rs hrs ↦ hf _ ?_
      rw [List.getLast?_cons, hrs, Option.getD_some]
    have hlost : (walks partners nullRow ids).bind (fun rs ↦ f (nullRow :: rs)) = 0 := by
      cases ids with
      | nil => simpa [walks] using hf [nullRow] rfl
      | cons id' ids => rw [walks_cons_bind, hnull, Multiset.zero_bind]
    rw [walks_cons_bind, walks_cons_bind, Multiset.bind_congr fun r _ ↦ hrest r, orNull]
    split
    · next hnone =>
      rw [Multiset.card_eq_zero.mp hnone, Multiset.singleton_bind, hlost, Multiset.zero_bind]
    · rfl

/-- Checking the rows of a walk at its end is checking each as it is met. -/
theorem walks_filter_bind (keep : NodeId → Row → Prop) [∀ id r, Decidable (keep id r)]
    (above : Row) (ids : List NodeId) (f : List Row → Multiset β) :
    (walks partners above ids).bind (fun rs ↦
        if List.Forall₂ keep ids rs then f rs else 0) =
      (walks (fun id r ↦ (partners id r).filter (keep id)) above ids).bind f := by
  induction ids generalizing above f with
  | nil => simp [walks]
  | cons id ids ih =>
    rw [walks_cons_bind, walks_cons_bind, Multiset.bind_filter]
    refine Multiset.bind_congr fun r _ ↦ ?_
    split
    · next hkeep =>
      rw [← ih]
      simp only [List.forall₂_cons, hkeep, true_and]
    · next hkeep => simp only [List.forall₂_cons, hkeep, false_and, if_false, Multiset.bind_zero]

/-! ## Walks among all assignments -/

/-- Every choice of a row for each of some steps. -/
def choices (rows : NodeId → Multiset Row) (ids : List NodeId) : Multiset (List Row) :=
  walks (fun id _ ↦ rows id) nullRow ids

/-- Each row meets the one before. -/
def Linked (meets : NodeId → Row → Row → Prop) : Row → List NodeId → List Row → Prop
  | above, id :: ids, r :: rs => meets id above r ∧ Linked meets r ids rs
  | _, _, _ => True

instance Linked.decidable (meets : NodeId → Row → Row → Prop)
    [∀ id above, DecidablePred (meets id above)] :
    ∀ above ids rs, Decidable (Linked meets above ids rs)
  | _, _ :: ids, r :: rs =>
    haveI := Linked.decidable meets r ids rs
    inferInstanceAs (Decidable (_ ∧ _))
  | _, [], [] => .isTrue trivial
  | _, [], _ :: _ => .isTrue trivial
  | _, _ :: _, [] => .isTrue trivial

/-- The walks are the choices whose rows are linked. -/
theorem filter_linked_choices {rows : NodeId → Multiset Row} {meets : NodeId → Row → Row → Prop}
    [∀ id above, DecidablePred (meets id above)] (above : Row) (ids : List NodeId) :
    (choices rows ids).filter (Linked meets above ids) =
      walks (fun id above ↦ (rows id).filter (meets id above)) above ids := by
  have hany : ∀ above' : Row, (walks (fun id _ ↦ rows id) above' ids).filter
      (Linked meets above ids) =
      walks (fun id above ↦ (rows id).filter (meets id above)) above ids := by
    induction ids generalizing above with
    | nil =>
      intro _
      rw [walks, walks, Multiset.filter_singleton, if_pos (by trivial)]
    | cons id ids ih =>
      intro above'
      rw [walks, walks, Multiset.filter_bind, Multiset.bind_filter]
      refine Multiset.bind_congr fun r _ ↦ ?_
      rw [Multiset.filter_map]
      split
      · next hmeets =>
        rw [← ih r r]
        simp [Function.comp_def, Linked, hmeets]
      · next hmeets => simp [Function.comp_def, Linked, hmeets]
  exact hany nullRow

end PathQuery
