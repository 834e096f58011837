import Mathlib.Data.List.Basic
import PathQuery.Proofs.Number.Digits
import PathQuery.Sql.Fragment

/-!
# Placeholders in the order of the text

A query as data has a text of its own: its fragments are laid out as they stand in the statement,
and placeholders are numbered by their place in them. The operands of a query are read off the same
fragments. Nothing is bound here, so this says what the text and the operands of a statement have to
be, whatever the order in which its clauses are written.

Indenting a text indents its fragments, since quoting an identifier commutes with indenting it and
no placeholder has a line break.
-/

namespace PathQuery

namespace Fragment

/-- The text of fragments, after `bound` placeholders. -/
def renderFrom (d : Dialect) : Nat → List Fragment → List String
  | _, [] => []
  | bound, .text s :: rest => s :: renderFrom d bound rest
  | bound, .name n :: rest => quoteIdentifier n :: renderFrom d bound rest
  | bound, .operand _ :: rest =>
    d.placeholder ((bound + 1 : Nat) : Int) :: renderFrom d (bound + 1) rest

/-- The text of fragments. -/
def render (d : Dialect) (fs : List Fragment) : String := String.join (renderFrom d 0 fs)

/-- The operands of fragments, in order. -/
def operands (fs : List Fragment) : List Value :=
  fs.filterMap fun
    | .operand v => some v
    | _ => none

/-- A fragment with its line breaks indented. A name is no exception: a break inside it is a break
of the text. -/
def indentFragment : Fragment → Fragment
  | .text s => .text (indentBreaks s)
  | .name n => .name (indentBreaks n)
  | .operand v => .operand v

/-- Fragments with every line indented. -/
def indentAll (fs : List Fragment) : List Fragment := .text "\t" :: fs.map indentFragment

end Fragment

open Fragment

/-- The sort clause, absent when nothing is sorted by. -/
def SortColumn.clause (terms : List SortColumn) : List Fragment :=
  if terms.isEmpty then []
  else .text "\nORDER BY " ::
    separated ", " (terms.map SortColumn.fragments)

/-- The projected columns, one a line. -/
def Projection.clause (ps : List Projection) : List Fragment :=
  .text "SELECT\n\t" :: separated ",\n\t" (ps.map Projection.fragments)

/-- The conditions on a row, absent when there are none. -/
def Condition.clause (cs : List Condition) : List Fragment :=
  if cs.isEmpty then [] else .text "\nWHERE " :: Condition.allFragments cs

/-- A select. -/
def Select.fragments (d : Dialect) (s : Select) : List Fragment :=
  Projection.clause s.projections ++ .text "\nFROM " :: s.table.fragments d ++
    .text (" AS " ++ s.source.name) :: s.joins.flatMap (Join.fragments d) ++
    Condition.clause s.conditions ++ SortColumn.clause s.order

/-- A further derived table; `n` is its number. -/
def Link.fragments (d : Dialect) (n : Nat) (l : Link) : List Fragment :=
  .text "\nINNER JOIN (\n" :: indentAll (l.select.fragments d) ++
    .text ("\n) " ++ (Source.segment n).name ++ " ON ") ::
    (Condition.same l.left l.right).fragments

/-- Derived tables, joined one to the next. -/
def SplitSelect.fragments (d : Dialect) (s : SplitSelect) : List Fragment :=
  Projection.clause s.projections ++ .text "\nFROM (\n" :: indentAll (s.first.fragments d) ++
    .text ("\n) " ++ (Source.segment 1).name) ::
    (s.links.zipIdx 2).flatMap (fun (l, n) ↦ l.fragments d n) ++ SortColumn.clause s.order

/-- The fragments of a query. -/
def Query.fragments (d : Dialect) : Query → List Fragment
  | .single s => s.fragments d
  | .split s => s.fragments d

/-- The text of a query. -/
def Query.render (q : Query) (d : Dialect) : String := Fragment.render d (q.fragments d)

/-- The operands to bind, in the order of their placeholders. -/
def Query.operands (q : Query) (d : Dialect) : List Value := Fragment.operands (q.fragments d)

/-! ## The characters of fragments -/

theorem placeholder_postgres {d : Dialect} (h : d.engine = .postgres) (n : ℕ) :
    d.placeholder (n : Int) = String.ofList ('$' :: (Nat.repr n).toList) := by
  have hrepr : toString (n : Int) = Nat.repr n := rfl
  rw [Dialect.placeholder, h, hrepr, ← String.toList_inj, String.toList_append,
    String.toList_ofList]
  simp

namespace Fragment

/-- The characters of fragments, after `k` placeholders. -/
def chars (d : Dialect) (k : ℕ) (fs : List Fragment) : List Char :=
  (renderFrom d k fs).flatMap String.toList

theorem toList_render (d : Dialect) (fs : List Fragment) : (render d fs).toList = chars d 0 fs := by
  rw [render, String.toList_join]
  rfl

@[simp] theorem operands_append (xs ys : List Fragment) :
    operands (xs ++ ys) = operands xs ++ operands ys := List.filterMap_append

theorem chars_append (d : Dialect) (k : ℕ) (xs ys : List Fragment) :
    chars d k (xs ++ ys) = chars d k xs ++ chars d (k + (operands xs).length) ys := by
  induction xs generalizing k with
  | nil => rfl
  | cons x xs ih =>
    cases x with
    | text s => simpa [chars, renderFrom, operands] using ih k
    | name n => simpa [chars, renderFrom, operands] using ih k
    | operand v =>
      have hrest := ih (k + 1)
      rw [Nat.add_assoc, Nat.add_comm 1] at hrest
      simpa [chars, renderFrom, operands] using hrest

end Fragment

/-! ## The text of indented fragments -/

/-- A character with the tab that an indented text has behind a line break. -/
def breakChar (c : Char) : List Char := if c = '\n' then ['\n', '\t'] else [c]

theorem toList_indentBreaks (s : String) : (indentBreaks s).toList = s.toList.flatMap breakChar :=
  String.toList_ofList

theorem indentBreaks_ofList (cs : List Char) :
    indentBreaks (String.ofList cs) = String.ofList (cs.flatMap breakChar) := by
  rw [← String.toList_inj, toList_indentBreaks, String.toList_ofList, String.toList_ofList]

theorem breakChar_of_ne {c : Char} (h : c ≠ '\n') : breakChar c = [c] := if_neg h

theorem flatMap_breakChar_of_notMem {cs : List Char} (h : '\n' ∉ cs) :
    cs.flatMap breakChar = cs := by
  rw [List.flatMap_congr fun c hc ↦ breakChar_of_ne (ne_of_mem_of_not_mem hc h),
    List.flatMap_singleton']

theorem doubleQuotes_flatMap_breakChar (cs : List Char) :
    doubleQuotes (cs.flatMap breakChar) = (doubleQuotes cs).flatMap breakChar := by
  induction cs with
  | nil => rfl
  | cons c cs ih =>
    rw [List.flatMap_cons, doubleQuotes]
    by_cases hc : c = '\n'
    · subst hc
      exact congrArg ('\n' :: '\t' :: ·) ih
    · rw [breakChar_of_ne hc, List.singleton_append, doubleQuotes, ih]
      split
      · rfl
      · rw [List.flatMap_cons, breakChar_of_ne hc, List.singleton_append]

theorem toList_quoteIdentifier_indentBreaks (n : String) :
    (quoteIdentifier (indentBreaks n)).toList = (quoteIdentifier n).toList.flatMap breakChar := by
  rw [quoteIdentifier, quoteIdentifier, String.toList_ofList, String.toList_ofList,
    toList_indentBreaks, doubleQuotes_flatMap_breakChar, List.flatMap_append]
  rfl

/-- No placeholder has a quote or a line break in it. -/
theorem Dialect.notMem_placeholder (d : Dialect) (n : ℕ) {c : Char} (hdigit : c.isDigit = false)
    (hmark : c ≠ '?') (hdollar : c ≠ '$') : c ∉ (d.placeholder (n : Int)).toList := by
  cases hengine : d.engine with
  | sqlite =>
    rw [placeholder, hengine]
    simpa using hmark
  | postgres =>
    rw [placeholder_postgres hengine, String.toList_ofList, List.mem_cons, not_or]
    refine ⟨hdollar, fun hmem ↦ ?_⟩
    cases hdigit.symm.trans (isDigit_of_mem_repr n c hmem)

namespace Fragment

theorem chars_map_indentFragment (d : Dialect) (fs : List Fragment) (k : ℕ) :
    chars d k (fs.map indentFragment) = (chars d k fs).flatMap breakChar := by
  induction fs generalizing k with
  | nil => rfl
  | cons x fs ih =>
    rw [List.map_cons]
    cases x with
    | text s =>
      change (indentBreaks s).toList ++ chars d k (fs.map indentFragment) =
        (s.toList ++ chars d k fs).flatMap breakChar
      rw [toList_indentBreaks, ih, List.flatMap_append]
    | name n =>
      change (quoteIdentifier (indentBreaks n)).toList ++ chars d k (fs.map indentFragment) =
        ((quoteIdentifier n).toList ++ chars d k fs).flatMap breakChar
      rw [toList_quoteIdentifier_indentBreaks, ih, List.flatMap_append]
    | operand v =>
      change (d.placeholder ((k + 1 : ℕ) : Int)).toList ++ chars d (k + 1) (fs.map indentFragment) =
        ((d.placeholder ((k + 1 : ℕ) : Int)).toList ++ chars d (k + 1) fs).flatMap breakChar
      rw [ih, List.flatMap_append, flatMap_breakChar_of_notMem
        (d.notMem_placeholder (k + 1) rfl (by decide) (by decide))]

/-- Indented fragments have the indented text. -/
theorem chars_indentAll (d : Dialect) (fs : List Fragment) (k : ℕ) :
    chars d k (indentAll fs) = (indent (String.ofList (chars d k fs))).toList := by
  rw [indent, String.toList_append, toList_indentBreaks, String.toList_ofList, String.toList_ofList]
  change '\t' :: chars d k (fs.map indentFragment) = '\t' :: (chars d k fs).flatMap breakChar
  rw [chars_map_indentFragment]

end Fragment

end PathQuery
