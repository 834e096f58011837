import PathQuery.Proofs.Sql.Scan

/-!
# Fragments clause by clause

What is said of the text of a statement is often said by following how its fragments are put
together. All fixed texts are of one kind: nothing in them means anything to a scan, and they end
the number or the name that comes before. A *layout* is whatever can be said of fragments, together
with what is found in them in order, as long as it holds of names and of such texts and goes through
putting fragments together. It then holds of every clause; and of a select, if it holds of the
conditions.

The operands of a statement and its names are both followed like this, so this lies below either.
-/

namespace PathQuery

/-! ## Fixed texts -/

theorem inert_repr (n : ℕ) : inert (Nat.repr n) := by
  rw [inert, List.all_eq_true]
  intro c hc
  have hdigit := isDigit_of_mem_repr n c hc
  simp only [harmless, Bool.and_eq_true, decide_eq_true_eq]
  refine ⟨⟨⟨⟨?_, ?_⟩, ?_⟩, ?_⟩, ⟨⟨⟨?_, ?_⟩, ?_⟩, ?_⟩, ?_⟩ <;> rintro rfl <;> cases hdigit

theorem inert_sourceName (s : Source) : inert s.name := by
  cases s <;> rw [Source.name, inert_append] <;> exact Bool.and_eq_true_iff.mpr
    ⟨by decide, inert_repr _⟩

theorem endsNumber_sourceName (s : Source) : endsNumber s.name := by
  cases s <;> exact endsNumber_append (by decide) _

theorem inert_between {s s' : String} (h : inert s) (h' : inert s') (source : Source) :
    inert (s ++ source.name ++ s') := by
  rw [inert_append, inert_append, h, h', inert_sourceName]
  rfl

theorem Comparison.inert_symbol (op : Comparison) : inert (" " ++ op.symbol ++ " ") := by
  cases op <;> decide

/-- The columns a condition is about. -/
def Condition.columns : Condition → List ColumnRef
  | .same l r => [l, r]
  | .compare c _ _ | .among c _ _ | .like c _ _ | .isNull c => [c]
  | .never => []

namespace Fragment

/-! ## Layouts -/

/-- Something that can be said of fragments and of what is found in them, in order. The flag tells
whether it can still be said behind a number or a name that has to be ended. -/
structure Layout {ι : Type} (names : String → List ι) (P : Bool → List ι → List Fragment → Prop) :
    Prop where
  /-- It can be said of nothing. -/
  nil (bound : Bool) : P bound [] []
  /-- What can be said behind a number or a name can always be said. -/
  mono {bound : Bool} {xs : List ι} {fs : List Fragment} (h : P true xs fs) : P bound xs fs
  /-- It goes through appending. -/
  append {bound : Bool} {xs ys : List ι} {fs gs : List Fragment} (h : P bound xs fs)
    (h' : P true ys gs) : P bound (xs ++ ys) (fs ++ gs)
  /-- A fixed text may stand anywhere, and anything may stand behind it. -/
  text {bound : Bool} {s : String} {xs : List ι} {fs : List Fragment} (hinert : inert s)
    (hends : endsNumber s) (h : P false xs fs) : P bound xs (.text s :: fs)
  /-- It can be said of a name. -/
  name (n : String) : P false (names n) [.name n]

/-- A layout of conditions as well. -/
structure FullLayout {ι : Type} (names : String → List ι)
    (P : Bool → List ι → List Fragment → Prop) : Prop extends Layout names P where
  /-- It can be said of an operand, in which nothing is found. -/
  operand (v : Value) : P false [] [.operand v]
  /-- Behind a text that is not to be ended, a fixed text may begin with a digit. -/
  lead {s : String} (hinert : inert s) : P false [] [.text s]
  /-- It can be said of the only string literal that statements have. -/
  escape : P true [] [.text " ESCAPE '\\'"]

section

variable {ι α : Type} {names : String → List ι} {P : Bool → List ι → List Fragment → Prop}

namespace Layout

variable (h : Layout names P)
include h

theorem flatMap {as : List α} {items : α → List ι} {fragments : α → List Fragment}
    (hitems : ∀ a ∈ as, P true (items a) (fragments a)) :
    P true (as.flatMap items) (as.flatMap fragments) := by
  induction as with
  | nil => exact h.nil true
  | cons a as ih =>
    obtain ⟨ha, has⟩ := List.forall_mem_cons.mp hitems
    exact h.append ha (ih has)

theorem separated {as : List α} {items : α → List ι} {fragments : α → List Fragment} {sep : String}
    (hinert : inert sep) (hends : endsNumber sep)
    (hitems : ∀ a ∈ as, P false (items a) (fragments a)) :
    P false (as.flatMap items) (Fragment.separated sep (as.map fragments)) := by
  induction as with
  | nil => exact h.nil false
  | cons a as ih =>
    obtain ⟨ha, has⟩ := List.forall_mem_cons.mp hitems
    cases as with
    | nil => simpa [Fragment.separated] using ha
    | cons b as => exact h.append ha (h.text hinert hends (ih has))

theorem columnRef (c : ColumnRef) (bound : Bool) : P bound (names c.column) c.fragments :=
  h.text (inert_between (s := "") (by decide) (by decide) _)
    (endsNumber_append (endsNumber_sourceName _) _) (h.name _)

theorem table (t : Table) (d : Dialect) :
    P false (names (d.tablePart t.schema) ++ names (d.tablePart t.name)) (t.fragments d) :=
  h.append (h.name _) (h.text (by decide) (by decide) (h.name _))

theorem same (l r : ColumnRef) (bound : Bool) :
    P bound (names l.column ++ names r.column) (Condition.same l r).fragments :=
  h.append (h.columnRef l bound) (h.text (by decide) (by decide) (h.columnRef r false))

theorem projections (ps : List Projection) (bound : Bool) :
    P bound (ps.flatMap fun p ↦ names p.column.column ++ names p.name) (Projection.clause ps) := by
  have hpart : ∀ p ∈ ps, P false (names p.column.column ++ names p.name) p.fragments := fun p _ ↦
    h.append (h.columnRef p.column false) (h.text (by decide) (by decide) (h.name _))
  exact h.text (by decide) (by decide) (h.separated (by decide) (by decide) hpart)

theorem order (terms : List SortColumn) (bound : Bool) :
    P bound (terms.flatMap fun t ↦ names t.column.column) (SortColumn.clause terms) := by
  have hterm : ∀ t ∈ terms, P false (names t.column.column)
      (t.column.fragments ++ [Fragment.text (" " ++ t.order.word)]) := by
    intro t _
    have hword : inert (" " ++ t.order.word) := by
      cases t.order with
      | descending => decide
      | _ => exact (by decide : inert (" " ++ "ASC"))
    have happend := h.append (h.columnRef t.column false)
      (h.text hword (endsNumber_append (by decide) _) (h.nil false))
    rwa [List.append_nil] at happend
  rw [SortColumn.clause]
  split
  · next hempty =>
    rw [List.isEmpty_iff.mp hempty]
    exact h.nil bound
  · exact h.text (by decide) (by decide) (h.separated (by decide) (by decide) hterm)

end Layout

/-- What is found in a relation. -/
def relationItems (names : String → List ι) (d : Dialect) : Relation → List ι
  | .table t => names (d.tablePart t.schema) ++ names (d.tablePart t.name)
  | .temporary n => names n

namespace Layout

variable (h : Layout names P)
include h

theorem relation (r : Relation) (d : Dialect) :
    P false (relationItems names d r) (r.fragments d) := by
  cases r with
  | table t => exact h.table t d
  | temporary n => exact h.name n

variable {conditions : Condition → List ι} (hconditions : ∀ c, P false (conditions c) c.fragments)
include hconditions

theorem allFragments (cs : List Condition) :
    P false (cs.flatMap conditions) (Condition.allFragments cs) :=
  h.separated (by decide) (by decide) fun c _ ↦ hconditions c

theorem clause (cs : List Condition) (bound : Bool) :
    P bound (cs.flatMap conditions) (Condition.clause cs) := by
  rw [Condition.clause]
  split
  · next hempty =>
    rw [List.isEmpty_iff.mp hempty]
    exact h.nil bound
  · exact h.text (by decide) (by decide) (h.allFragments hconditions cs)

theorem join (j : Join) (d : Dialect) (bound : Bool) :
    P bound (relationItems names d j.relation ++ j.conditions.flatMap conditions)
      (j.fragments d) := by
  have hhead : P bound (relationItems names d j.relation)
      (.text ("\n" ++ j.kind.words) :: j.relation.fragments d) := by
    refine h.text ?_ (endsNumber_append (by decide) _) (h.relation j.relation d)
    cases j.kind <;> decide
  exact h.append hhead (h.text (inert_between (by decide) (by decide) _)
    (endsNumber_append (endsNumber_append (by decide) _) _) (h.allFragments hconditions _))

/-- What holds of conditions, names and fixed texts holds of a select. -/
theorem select (s : Select) (d : Dialect) (bound : Bool) :
    P bound
      ((s.projections.flatMap fun p ↦ names p.column.column ++ names p.name) ++
        (names (d.tablePart s.table.schema) ++ names (d.tablePart s.table.name)) ++
        (s.joins.flatMap fun j ↦
          relationItems names d j.relation ++ j.conditions.flatMap conditions) ++
        s.conditions.flatMap conditions ++ s.order.flatMap fun t ↦ names t.column.column)
      (s.fragments d) := by
  have hhead := h.append (h.projections s.projections bound)
    (h.text (by decide : inert "\nFROM ") (by decide) (h.table s.table d))
  have hjoins := h.flatMap fun j (_ : j ∈ s.joins) ↦ h.join hconditions j d true
  have hsource : inert (" AS " ++ s.source.name) := by
    rw [inert_append, inert_sourceName]
    decide
  have htables := h.append hhead
    (h.text hsource (endsNumber_append (by decide) _) (h.mono hjoins))
  exact h.append (h.append htables (h.clause hconditions s.conditions true))
    (h.order s.order true)

end Layout

namespace FullLayout

variable (h : FullLayout names P)
include h

theorem operandList (vs : List Value) : P false [] (PathQuery.operandList vs) := by
  rw [PathQuery.operandList]
  split
  · exact h.lead (by decide)
  · have hpart : ∀ v ∈ vs, P false [] [.operand v] := fun v _ ↦ h.operand v
    have hparts := h.separated (by decide : inert ", ") (by decide) hpart
    rwa [List.flatMap_eq_nil_iff.mpr fun _ _ ↦ rfl] at hparts

/-- What holds of operands too holds of conditions. In these, columns are found. -/
theorem condition (c : Condition) :
    P false (c.columns.flatMap fun ref ↦ names ref.column) c.fragments := by
  cases c with
  | same l r => simpa [Condition.columns] using h.same l r false
  | compare c op v =>
    have hends := endsNumber_append (endsNumber_append (by decide : endsNumber " ") op.symbol) " "
    have htail := h.append (h.columnRef c false) (h.text op.inert_symbol hends (h.operand v))
    simpa [Condition.columns, Condition.fragments] using htail
  | among c negated vs =>
    have hwords : inert (if negated then " NOT IN (" else " IN (") ∧
        endsNumber (if negated then " NOT IN (" else " IN (") := by
      cases negated <;> decide
    have hopen := h.append (h.columnRef c false) (h.text hwords.1 hwords.2 (h.operandList vs))
    have hclosed := h.append hopen (h.text (by decide : inert ")") (by decide) (h.nil false))
    simpa [Condition.columns, Condition.fragments] using hclosed
  | like c negated pattern =>
    have hwords : inert (if negated then " NOT LIKE " else " LIKE ") ∧
        endsNumber (if negated then " NOT LIKE " else " LIKE ") := by
      cases negated <;> decide
    have hpattern := h.append (h.operand (.ofText pattern)) h.escape
    have htail := h.append (h.columnRef c false) (h.text hwords.1 hwords.2 hpattern)
    simpa [Condition.columns, Condition.fragments] using htail
  | isNull c =>
    have htail := h.append (h.columnRef c false)
      (h.text (by decide : inert " IS NULL") (by decide) (h.nil false))
    simpa [Condition.columns, Condition.fragments] using htail
  | never => exact h.lead (by decide : inert "1 = 0")

end FullLayout

end

end Fragment

end PathQuery
