import PathQuery.Proofs.Compile.Clauses
import PathQuery.Proofs.Sql.Drafting

/-!
# Where the operands of a statement stand

The operands of a statement stand in conditions: those of its joins come first, then those on its
rows, and a statement that joins derived tables has the conditions of one after those of another.
Between these conditions there is only quiet text. Fragments are laid out like this clause by
clause; the text then is *woven* from quiet stretches and from the texts of the conditions, each
numbered on from those before it.
-/

namespace PathQuery

open ScanZone Fragment

/-- The operands of a condition. -/
def Condition.operands : Condition → List Value
  | .compare _ _ v => [v]
  | .among _ _ vs => vs
  | .like _ _ pattern => [.ofText pattern]
  | .same .. | .isNull .. | .never => []

/-- The text of a condition after `k` placeholders; its fragments are written as `g` has them. -/
def Condition.chars (c : Condition) (d : Dialect) (g : Fragment → Fragment) (k : ℕ) : List Char :=
  Fragment.chars d k (c.fragments.map g)

/-! ## Texts that are well spaced -/

namespace Fragment.Spaced

variable {bound : Bool} {xs ys fs : List Fragment}

theorem mono (h : Spaced true fs) : Spaced bound fs := by
  cases fs with
  | nil => trivial
  | cons x fs =>
    cases x with
    | text s => exact ⟨h.1, fun _ ↦ h.2.1 rfl, h.2.2⟩
    | name n => exact h
    | operand v => exact h

theorem unbound (h : Spaced bound fs) : Spaced false fs := by
  cases bound with
  | false => exact h
  | true => exact h.mono

theorem append (hx : Spaced bound xs) (hy : Spaced true ys) : Spaced bound (xs ++ ys) := by
  induction xs generalizing bound with
  | nil => exact hy.mono
  | cons x xs ih =>
    cases x with
    | text s => exact ⟨hx.1, hx.2.1, ih hx.2.2⟩
    | name n => exact @ih false hx
    | operand v => exact @ih true hx

theorem of_append (h : Spaced bound (xs ++ ys)) : Spaced bound xs ∧ Spaced false ys := by
  induction xs generalizing bound with
  | nil => exact ⟨trivial, h.unbound⟩
  | cons x xs ih =>
    cases x with
    | text s => exact ⟨⟨h.1, h.2.1, (ih h.2.2).1⟩, (ih h.2.2).2⟩
    | name n => exact @ih false h
    | operand v => exact @ih true h

/-- Indenting keeps texts apart. -/
theorem indent (h : Spaced bound fs) : Spaced bound (fs.map indentFragment) := by
  induction fs generalizing bound with
  | nil => trivial
  | cons x fs ih =>
    cases x with
    | text s =>
      exact ⟨h.1.indentBreaks, fun hb ↦ endsNumber_indentBreaks (h.2.1 hb), ih h.2.2⟩
    | name n => exact @ih false h
    | operand v => exact @ih true h

/-- Fragments are well spaced clause by clause; nothing is to be found in them. -/
theorem layout : FullLayout (fun _ ↦ ([] : List Condition)) fun bound _ fs ↦ Spaced bound fs where
  nil _ := trivial
  mono := mono
  append := append
  text hinert hends h := ⟨quiet_of_inert hinert, fun _ ↦ hends, h⟩
  name _ := trivial
  operand _ := trivial
  lead hinert := ⟨quiet_of_inert hinert, nofun, trivial⟩
  escape := ⟨fun _ ↦ rfl, fun _ ↦ by decide, trivial⟩

end Fragment.Spaced

/-! ## Laying out conditions -/

/-- Fragments in which these conditions stand in order, with no operands between them. The
fragments of a condition are written as `g` has them. -/
inductive Fragment.Weave (g : Fragment → Fragment) : List Condition → List Fragment → Prop
  | done {fs : List Fragment} (free : operands fs = []) : Weave g [] fs
  | bind {glue fs : List Fragment} {c : Condition} {cs : List Condition}
      (free : operands glue = []) (rest : Weave g cs fs) :
      Weave g (c :: cs) (glue ++ c.fragments.map g ++ fs)

namespace Fragment.Weave

variable {g : Fragment → Fragment} {cs cs' : List Condition} {xs ys fs : List Fragment}

theorem prepend (hfree : operands xs = []) (h : Weave g cs fs) : Weave g cs (xs ++ fs) := by
  cases h with
  | done free => exact .done (by rw [operands_append, hfree, free, List.append_nil])
  | bind free rest =>
    rw [← List.append_assoc, ← List.append_assoc]
    exact .bind (by rw [operands_append, hfree, free, List.append_nil]) rest

theorem append (hx : Weave g cs xs) (hy : Weave g cs' ys) : Weave g (cs ++ cs') (xs ++ ys) := by
  induction hx with
  | done free => exact hy.prepend free
  | bind free _ ih =>
    rw [List.append_assoc, List.cons_append]
    exact .bind free ih

theorem indent (h : Weave id cs fs) : Weave indentFragment cs (fs.map indentFragment) := by
  have hfree : ∀ {xs : List Fragment}, operands xs = [] → operands (xs.map indentFragment) = [] := by
    intro xs
    rw [operands_indent]
    exact id
  induction h with
  | done free => exact .done (hfree free)
  | bind free _ ih =>
    rw [List.map_append, List.map_append, List.map_id]
    exact .bind (hfree free) ih

end Fragment.Weave

/-- Well-spaced fragments in which these conditions stand in order. -/
structure Fragment.Laid (g : Fragment → Fragment) (bound : Bool) (cs : List Condition)
    (fs : List Fragment) : Prop where
  /-- The fragments are well spaced. -/
  spaced : Spaced bound fs
  /-- The conditions stand in them in order. -/
  woven : Weave g cs fs

namespace Fragment.Laid

variable {bound : Bool} {cs : List Condition} {fs : List Fragment}

/-- Conditions are laid out clause by clause; there is nothing to find in names. -/
theorem layout (g : Fragment → Fragment) : Layout (fun _ ↦ []) (Laid g) where
  nil _ := ⟨trivial, .done rfl⟩
  mono h := ⟨h.spaced.mono, h.woven⟩
  append hx hy := ⟨hx.spaced.append hy.spaced, hx.woven.append hy.woven⟩
  text {_ s cs _} hinert hends h :=
    ⟨⟨quiet_of_inert hinert, fun _ ↦ hends, h.spaced⟩, @Weave.prepend g cs [.text s] _ rfl h.woven⟩
  name _ := ⟨trivial, .done rfl⟩

theorem indentAll (h : Laid id false cs fs) : Laid indentFragment bound cs (indentAll fs) :=
  (layout _).text (by decide) (by decide) ⟨h.spaced.indent, h.woven.indent⟩

end Fragment.Laid

/-! ## Clauses -/

theorem operands_operandList (vs : List Value) : operands (operandList vs) = vs := by
  have hoperands : ∀ vs : List Value,
      operands (separated ", " (vs.map fun v ↦ [.operand v])) = vs := by
    intro vs
    induction vs with
    | nil => rfl
    | cons v vs ih =>
      cases vs with
      | nil => rfl
      | cons w vs => exact congrArg (v :: ·) ih
  rw [operandList]
  split
  · next hempty => rw [List.isEmpty_iff.mp hempty]; rfl
  · exact hoperands vs

namespace Condition

theorem operands_fragments (c : Condition) : Fragment.operands c.fragments = c.operands := by
  cases c with
  | among c negated vs =>
    rw [fragments, operands_append, operands_append]
    change [] ++ Fragment.operands (operandList vs) ++ [] = vs
    rw [operands_operandList, List.nil_append, List.append_nil]
  | _ => rfl

theorem operands_of_not_binds {c : Condition} (h : ¬c.binds) : c.operands = [] := by
  cases c with
  | compare | among | like => exact absurd rfl h
  | _ => rfl

theorem spaced (c : Condition) : Spaced false c.fragments := Spaced.layout.condition c

/-- A condition stands in its own fragments, if it has operands at all. -/
theorem laid (c : Condition) : Laid id false ([c].filter binds) c.fragments := by
  refine ⟨c.spaced, ?_⟩
  by_cases hbinds : c.binds
  · have hweave : Weave id [c] ([] ++ c.fragments.map id ++ []) := .bind rfl (.done rfl)
    simpa [hbinds] using hweave
  · rw [List.filter_cons_of_neg hbinds, List.filter_nil]
    exact .done (by rw [operands_fragments, operands_of_not_binds hbinds])

end Condition

/-! ## Statements -/

theorem flatMap_none {α : Type} (as : List α) : (as.flatMap fun _ ↦ ([] : List Condition)) = [] :=
  List.flatMap_eq_nil_iff.mpr fun _ _ ↦ rfl

/-- The conditions of a select that have operands, in the order of its text. -/
def Select.bound (s : Select) : List Condition :=
  s.joins.flatMap (fun j ↦ j.conditions.filter Condition.binds) ++
    s.conditions.filter Condition.binds

theorem Select.laid (s : Select) (d : Dialect) (bound : Bool) :
    Laid id bound s.bound (s.fragments d) := by
  have hfilter : ∀ cs : List Condition,
      cs.flatMap (fun c ↦ [c].filter Condition.binds) = cs.filter Condition.binds := by
    intro cs
    rw [← List.filter_flatMap, List.flatMap_singleton']
  have hrelation : ∀ r, relationItems (fun _ ↦ ([] : List Condition)) d r = [] := by
    intro r
    cases r <;> rfl
  have hall := (Laid.layout id).select Condition.laid s d bound
  simp only [hfilter, hrelation, flatMap_none, List.nil_append, List.append_nil] at hall
  exact hall

theorem Link.laid (l : Link) (d : Dialect) (n : ℕ) (bound : Bool) :
    Laid indentFragment bound l.select.bound (l.fragments d n) := by
  have layout := Laid.layout indentFragment
  have hhead : Laid indentFragment bound l.select.bound
      (.text "\nINNER JOIN (\n" :: indentAll (l.select.fragments d)) :=
    layout.text (by decide) (by decide) (.indentAll (l.select.laid d false))
  have htail : Laid indentFragment true [] (.text ("\n) " ++ (Source.segment n).name ++ " ON ") ::
      (Condition.same l.left l.right).fragments) :=
    layout.text (inert_between (by decide) (by decide) _)
      (endsNumber_append (endsNumber_append (by decide) _) _) (layout.same l.left l.right false)
  have hall := layout.append hhead htail
  rwa [List.append_nil] at hall

/-- The conditions of a query that have operands, in the order of its text. -/
def Query.bound : Query → List Condition
  | .single s => s.bound
  | .split s => s.first.bound ++ s.links.flatMap (·.select.bound)

/-- How the fragments of its selects are written in the text of a query. -/
def Query.inset : Query → Fragment → Fragment
  | .single _ => id
  | .split _ => indentFragment

theorem SplitSelect.laid (s : SplitSelect) (d : Dialect) (bound : Bool) :
    Laid indentFragment bound (s.first.bound ++ s.links.flatMap (·.select.bound))
      (s.fragments d) := by
  have layout := Laid.layout indentFragment
  have hhead := layout.append (layout.projections s.projections bound)
    (layout.text (by decide : inert "\nFROM (\n") (by decide) (.indentAll (s.first.laid d false)))
  have hlinks : Laid indentFragment true (s.links.flatMap (·.select.bound))
      (.text ("\n) " ++ (Source.segment 1).name) ::
        (s.links.zipIdx 2).flatMap fun x ↦ x.1.fragments d x.2) := by
    have hbound : s.links.flatMap (·.select.bound) =
        (s.links.zipIdx 2).flatMap fun x ↦ x.1.select.bound := by
      conv_lhs => rw [← List.zipIdx_map_fst 2 s.links, List.flatMap_map]
    rw [hbound]
    exact layout.text (by decide) (by decide)
      (layout.mono (layout.flatMap fun x _ ↦ x.1.laid d x.2 true))
  have hall := layout.append (layout.append hhead hlinks) (layout.order s.order true)
  simp only [flatMap_none, List.nil_append, List.append_nil] at hall
  exact hall

theorem Query.laid (q : Query) (d : Dialect) (bound : Bool) :
    Laid q.inset bound q.bound (q.fragments d) := by
  cases q with
  | single s => exact s.laid d bound
  | split s => exact s.laid d bound

/-! ## Operands -/

/-- Fragments have the operands of the conditions that stand in them. -/
theorem Fragment.Weave.operands_eq {g : Fragment → Fragment}
    (hg : ∀ fs : List Fragment, operands (fs.map g) = operands fs) {cs : List Condition}
    {fs : List Fragment} (h : Weave g cs fs) : operands fs = cs.flatMap Condition.operands := by
  induction h with
  | done free => rw [free, List.flatMap_nil]
  | bind free _ ih =>
    rw [operands_append, operands_append, free, hg, Condition.operands_fragments, ih,
      List.nil_append, List.flatMap_cons]

/-- The operands of a query are those of the conditions in its selects. -/
theorem Query.operands_eq (q : Query) (d : Dialect) :
    q.operands d = q.bound.flatMap Condition.operands := by
  refine (q.laid d false).woven.operands_eq fun fs ↦ ?_
  cases q with
  | single s => rw [Query.inset, List.map_id]
  | split s => exact Fragment.operands_indent fs

end PathQuery
