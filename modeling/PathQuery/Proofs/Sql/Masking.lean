import Mathlib.Data.List.Basic
import PathQuery.Proofs.Sql.Numbering

/-!
# Statements without their operands

An operand is written as a placeholder, so a statement whose operands are masked has the same text
and as many operands to bind. Masking keeps what kind of condition there is and how many operands a
list has, and nothing else of them.

The text is what masking is compared by. It is followed fragment by fragment, where masking is a map
that leaves fixed text and names alone, and such maps go through every way of putting fragments
together.
-/

namespace PathQuery

/-! ## Masking -/

/-- The operand that stands for all others. -/
def Value.blank : Value := .ofText ""

/-- A condition with its operands masked. -/
def Condition.mask : Condition → Condition
  | .same l r => .same l r
  | .compare c op _ => .compare c op .blank
  | .among c negated vs => .among c negated (vs.map fun _ ↦ .blank)
  | .like c negated _ => .like c negated ""
  | .isNull c => .isNull c
  | .never => .never

/-- A join with its operands masked. -/
def Join.mask (j : Join) : Join := { j with conditions := j.conditions.map Condition.mask }

/-- A select with its operands masked. -/
def Select.mask (s : Select) : Select :=
  { s with joins := s.joins.map Join.mask, conditions := s.conditions.map Condition.mask }

/-- A further derived table with its operands masked. -/
def Link.mask (l : Link) : Link := { l with select := l.select.mask }

/-- Derived tables with their operands masked. -/
def SplitSelect.mask (s : SplitSelect) : SplitSelect :=
  { s with first := s.first.mask, links := s.links.map Link.mask }

/-- A query with its operands masked. -/
def Query.mask : Query → Query
  | .single s => .single s.mask
  | .split s => .split s.mask

namespace Fragment

/-- A fragment with its operand masked, if it is one. -/
def mask : Fragment → Fragment
  | .operand _ => .operand .blank
  | fragment => fragment

/-- A map that leaves fixed text alone goes through to the parts of a list. -/
theorem map_separated {f : Fragment → Fragment} (hf : ∀ s, f (.text s) = .text s) (sep : String)
    (parts : List (List Fragment)) :
    (separated sep parts).map f = separated sep (parts.map (List.map f)) := by
  induction parts using separated.induct with
  | case1 => rfl
  | case2 fs => rfl
  | case3 fs rest hrest ih =>
    obtain ⟨gs, rest, rfl⟩ := List.exists_cons_of_ne_nil (fun h ↦ hrest (h ▸ rfl))
    simpa [separated, hf] using ih

@[simp] theorem map_mask_separated (sep : String) (parts : List (List Fragment)) :
    (separated sep parts).map mask = separated sep (parts.map (List.map mask)) :=
  map_separated (fun _ ↦ rfl) sep parts

theorem mask_indentFragment (fragment : Fragment) :
    (indentFragment fragment).mask = indentFragment fragment.mask := by
  cases fragment <;> rfl

@[simp] theorem map_mask_indentAll (fs : List Fragment) :
    (indentAll fs).map mask = indentAll (fs.map mask) := by
  rw [indentAll, indentAll, List.map_cons, List.map_map, List.map_map]
  exact congrArg (.text "\t" :: ·) (List.map_congr_left fun f _ ↦ mask_indentFragment f)

/-! ## What the text shows -/

theorem renderFrom_map_mask (d : Dialect) (k : ℕ) (fs : List Fragment) :
    renderFrom d k (fs.map mask) = renderFrom d k fs := by
  induction fs generalizing k with
  | nil => rfl
  | cons fragment fs ih => cases fragment <;> simp [mask, renderFrom, ih]

theorem length_operands_map_mask (fs : List Fragment) :
    (operands (fs.map mask)).length = (operands fs).length := by
  induction fs with
  | nil => rfl
  | cons fragment fs ih => cases fragment <;> simpa [mask, operands] using ih

end Fragment

/-! ## The fragments of what is masked -/

@[simp] theorem ColumnRef.map_mask_fragments (c : ColumnRef) :
    c.fragments.map Fragment.mask = c.fragments := rfl

theorem operandList_mask (vs : List Value) :
    operandList (vs.map fun _ ↦ Value.blank) = (operandList vs).map Fragment.mask := by
  rw [operandList, operandList, List.isEmpty_map]
  split
  · rfl
  · simp [Function.comp_def, Fragment.mask]

@[simp] theorem Condition.fragments_mask (c : Condition) :
    c.mask.fragments = c.fragments.map Fragment.mask := by
  cases c with
  | among c negated vs =>
    rw [Condition.mask, Condition.fragments, Condition.fragments, operandList_mask]
    simp [Fragment.mask]
  | _ => simp [Condition.mask, Condition.fragments, Fragment.mask, Value.blank]

@[simp] theorem Condition.allFragments_mask (cs : List Condition) :
    Condition.allFragments (cs.map Condition.mask) =
      (Condition.allFragments cs).map Fragment.mask := by
  simp [Condition.allFragments, Function.comp_def]

@[simp] theorem Condition.clause_mask (cs : List Condition) :
    Condition.clause (cs.map Condition.mask) = (Condition.clause cs).map Fragment.mask := by
  rw [Condition.clause, Condition.clause, List.isEmpty_map]
  split
  · rfl
  · simp [Fragment.mask]

@[simp] theorem Table.map_mask_fragments (t : Table) (d : Dialect) :
    (t.fragments d).map Fragment.mask = t.fragments d := rfl

@[simp] theorem Relation.map_mask_fragments (r : Relation) (d : Dialect) :
    (r.fragments d).map Fragment.mask = r.fragments d := by
  cases r <;> rfl

@[simp] theorem Join.fragments_mask (j : Join) (d : Dialect) :
    j.mask.fragments d = (j.fragments d).map Fragment.mask := by
  simp [Join.mask, Join.fragments, Fragment.mask]

@[simp] theorem Projection.map_mask_fragments (p : Projection) :
    p.fragments.map Fragment.mask = p.fragments := rfl

@[simp] theorem Projection.map_mask_clause (ps : List Projection) :
    (Projection.clause ps).map Fragment.mask = Projection.clause ps := by
  simp [Projection.clause, Function.comp_def, Fragment.mask]

@[simp] theorem SortColumn.map_mask_fragments (t : SortColumn) :
    t.fragments.map Fragment.mask = t.fragments := rfl

@[simp] theorem SortColumn.map_mask_clause (terms : List SortColumn) :
    (SortColumn.clause terms).map Fragment.mask = SortColumn.clause terms := by
  rw [SortColumn.clause]
  split
  · rfl
  · simp [Function.comp_def, Fragment.mask]

@[simp] theorem Select.fragments_mask (s : Select) (d : Dialect) :
    s.mask.fragments d = (s.fragments d).map Fragment.mask := by
  have hjoins : (s.joins.map Join.mask).flatMap (Join.fragments d) =
      (s.joins.flatMap (Join.fragments d)).map Fragment.mask := by
    rw [List.flatMap_map, List.map_flatMap]
    exact List.flatMap_congr fun j _ ↦ j.fragments_mask d
  simp [Select.mask, Select.fragments, hjoins, Fragment.mask]

@[simp] theorem Link.fragments_mask (l : Link) (d : Dialect) (n : ℕ) :
    l.mask.fragments d n = (l.fragments d n).map Fragment.mask := by
  simp [Link.mask, Link.fragments, Condition.fragments, Fragment.mask]

theorem SplitSelect.fragments_mask (s : SplitSelect) (d : Dialect) :
    s.mask.fragments d = (s.fragments d).map Fragment.mask := by
  have hlinks : ∀ f : Link × ℕ → List Fragment,
      (∀ l n, f (l.mask, n) = (f (l, n)).map Fragment.mask) →
      ((s.links.map Link.mask).zipIdx 2).flatMap f =
        ((s.links.zipIdx 2).flatMap f).map Fragment.mask := by
    intro f hf
    rw [List.zipIdx_map, List.flatMap_map, List.map_flatMap]
    exact List.flatMap_congr fun x _ ↦ hf x.1 x.2
  rw [SplitSelect.mask, SplitSelect.fragments, SplitSelect.fragments, hlinks _ fun l n ↦ ?_]
  · simp [Fragment.mask]
  · exact l.fragments_mask d n

theorem Query.fragments_mask (q : Query) (d : Dialect) :
    q.mask.fragments d = (q.fragments d).map Fragment.mask := by
  cases q with
  | single s => exact s.fragments_mask d
  | split s => exact s.fragments_mask d

/-- **Masking leaves the text as it is**, and the number of operands to bind. -/
theorem Query.render_mask (q : Query) (d : Dialect) :
    q.mask.render d = q.render d ∧ (q.mask.operands d).length = (q.operands d).length := by
  rw [Query.render, Query.operands, Query.fragments_mask, Fragment.render,
    Fragment.renderFrom_map_mask, Fragment.length_operands_map_mask]
  exact ⟨rfl, rfl⟩

theorem Query.render_eq_of_mask_eq {q q' : Query} (h : q'.mask = q.mask) (d : Dialect) :
    q'.render d = q.render d ∧ (q'.operands d).length = (q.operands d).length := by
  obtain ⟨htext, hlength⟩ := q.render_mask d
  obtain ⟨htext', hlength'⟩ := q'.render_mask d
  rw [← htext, ← hlength, ← htext', ← hlength', h]
  exact ⟨rfl, rfl⟩

end PathQuery
