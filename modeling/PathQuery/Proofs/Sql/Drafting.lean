import PathQuery.Proofs.Sql.Layout
import PathQuery.Sql.Draft

/-!
# What a draft comes to

Writing a clause binds its operands in the order of its fragments, so a clause has the text that its
fragments have behind the operands bound so far. A draft that walks through a select therefore
always has a known form, `underWay`: every clause is numbered from where the select began or, for
the conditions, from behind the operands of the branches.

In the finished select the clauses stand in another order. The joins with membership tables go
before those of the branches, although they are written after them, and the conditions that no
branch has a partner go last. Only clauses without operands are moved past others by this, and so
the text of the select is the text of its fragments: its placeholders count up.
-/

namespace PathQuery

open Fragment

/-! ## Operands of fragments -/

namespace Fragment

theorem operands_text (s : String) (fs : List Fragment) :
    operands (.text s :: fs) = operands fs := rfl

theorem operands_indent (fs : List Fragment) :
    operands (fs.map indentFragment) = operands fs := by
  rw [operands, operands, List.filterMap_map]
  refine List.filterMap_congr fun x _ ↦ ?_
  cases x <;> rfl

theorem operands_indentAll (fs : List Fragment) : operands (Fragment.indentAll fs) = operands fs :=
  operands_indent fs

/-- No operands are found in names and fixed texts, and those of clauses follow each other. -/
theorem operandsLayout : Layout (fun _ ↦ ([] : List Value)) fun _ vs fs ↦ operands fs = vs where
  nil _ := rfl
  mono h := h
  append h h' := by rw [operands_append, h, h']
  text _ _ h := h
  name _ := rfl

/-- The operands of some clauses, in order. -/
theorem operands_flatMap {α : Type} (f : α → List Fragment) (as : List α) :
    operands (as.flatMap f) = as.flatMap fun a ↦ operands (f a) :=
  List.filterMap_flatMap

/-- Clauses without operands have none together. -/
theorem operands_flatten_of_free {α : Type} {f : α → List Fragment} (h : ∀ a, operands (f a) = [])
    (as : List α) : operands (as.map f).flatten = [] := by
  rw [← List.flatMap_def, operands_flatMap]
  exact List.flatMap_eq_nil_iff.mpr fun a _ ↦ h a

/-- A text between clauses has no operands. -/
theorem operands_separated (sep : String) (fss : List (List Fragment)) :
    operands (separated sep fss) = operands fss.flatten := by
  induction fss with
  | nil => rfl
  | cons fs rest ih =>
    cases rest with
    | nil => rw [separated, List.flatten_singleton]
    | cons gs rest =>
      have hseparated : separated sep (fs :: gs :: rest) =
          fs ++ .text sep :: separated sep (gs :: rest) := rfl
      rw [hseparated, operands_append, operands_text, ih, List.flatten_cons (L := gs :: rest),
        operands_append]

/-! ## Texts behind operands -/

/-- The text of fragments behind `k` placeholders. -/
def textFrom (d : Dialect) (k : ℕ) (fs : List Fragment) : String := String.ofList (chars d k fs)

/-- The texts of clauses, one behind the operands of the other. -/
def textsFrom (d : Dialect) : ℕ → List (List Fragment) → List String
  | _, [] => []
  | k, fs :: rest => textFrom d k fs :: textsFrom d (k + (operands fs).length) rest

variable {d : Dialect} {k : ℕ}

@[simp] theorem textFrom_nil : textFrom d k [] = "" := rfl

theorem textFrom_append (xs ys : List Fragment) :
    textFrom d k (xs ++ ys) = textFrom d k xs ++ textFrom d (k + (operands xs).length) ys := by
  rw [textFrom, chars_append, String.ofList_append]
  rfl

@[simp] theorem textFrom_text (s : String) (fs : List Fragment) :
    textFrom d k (.text s :: fs) = s ++ textFrom d k fs := by
  have hchars : chars d k (.text s :: fs) = s.toList ++ chars d k fs := rfl
  rw [textFrom, hchars, String.ofList_append, String.ofList_toList]
  rfl

theorem textFrom_indentAll (fs : List Fragment) :
    textFrom d k (indentAll fs) = indent (textFrom d k fs) := by
  rw [textFrom, chars_indentAll, String.ofList_toList]
  rfl

theorem render_eq_textFrom (fs : List Fragment) : render d fs = textFrom d 0 fs := by
  rw [textFrom, ← toList_render, String.ofList_toList]

@[simp] theorem textsFrom_eq_nil_iff {fss : List (List Fragment)} :
    textsFrom d k fss = [] ↔ fss = [] := by
  cases fss <;> simp [textsFrom]

theorem textsFrom_append (xs ys : List (List Fragment)) :
    textsFrom d k (xs ++ ys) =
      textsFrom d k xs ++ textsFrom d (k + (operands xs.flatten).length) ys := by
  induction xs generalizing k with
  | nil => rfl
  | cons x xs ih =>
    rw [List.cons_append, textsFrom, ih, List.flatten_cons, operands_append, List.length_append,
      Nat.add_assoc]
    rfl

/-- Where no operand is, the number of those before does not matter. -/
theorem textFrom_of_free {fs : List Fragment} (h : operands fs = []) (k' : ℕ) :
    textFrom d k fs = textFrom d k' fs := by
  induction fs with
  | nil => rfl
  | cons f fs ih =>
    have hrest : ∀ {s : String} (m : ℕ), chars d m (f :: fs) = s.toList ++ chars d m fs →
        textFrom d m (f :: fs) = s ++ textFrom d m fs := fun m hchars ↦ by
      rw [textFrom, hchars, String.ofList_append, String.ofList_toList]
      rfl
    cases f with
    | text s => rw [hrest k rfl, hrest k' rfl, ih h]
    | name n => rw [hrest k (s := quoteIdentifier n) rfl, hrest k' rfl, ih h]
    | operand v => cases h

theorem textsFrom_of_free {fss : List (List Fragment)} (h : operands fss.flatten = []) (k' : ℕ) :
    textsFrom d k fss = textsFrom d k' fss := by
  induction fss generalizing k k' with
  | nil => rfl
  | cons fs rest ih =>
    rw [List.flatten_cons, operands_append, List.append_eq_nil_iff] at h
    rw [textsFrom, textsFrom, textFrom_of_free h.1 k', ih h.2]

/-- Clauses put one after the other. -/
theorem join_textsFrom (fss : List (List Fragment)) :
    String.join (textsFrom d k fss) = textFrom d k fss.flatten := by
  induction fss generalizing k with
  | nil => rfl
  | cons fs rest ih => rw [textsFrom, String.join_cons, ih, List.flatten_cons, textFrom_append]

/-- Clauses with a text between them. -/
theorem intercalate_textsFrom (sep : String) (fss : List (List Fragment)) :
    sep.intercalate (textsFrom d k fss) = textFrom d k (separated sep fss) := by
  induction fss generalizing k with
  | nil => rfl
  | cons fs rest ih =>
    cases rest with
    | nil => rfl
    | cons gs rest =>
      have hseparated : separated sep (fs :: gs :: rest) =
          fs ++ .text sep :: separated sep (gs :: rest) := rfl
      rw [hseparated, textFrom_append, textFrom_text, ← ih, textsFrom, textsFrom,
        String.intercalate_cons_cons, String.append_assoc]

/-- A clause that is absent without parts. -/
theorem clauseText_textsFrom (lead sep : String) (fss : List (List Fragment)) :
    (if (textsFrom d k fss).isEmpty then "" else lead ++ sep.intercalate (textsFrom d k fss)) =
      textFrom d k (if fss.isEmpty then [] else .text lead :: separated sep fss) := by
  rw [intercalate_textsFrom]
  cases fss with
  | nil => rfl
  | cons fs rest => exact (textFrom_text lead _).symm

end Fragment

/-! ## Writing clauses -/

namespace Draft

/-- The draft with further operands bound. -/
def binding (w : Draft) (vs : List Value) : Draft :=
  { w with operands := w.operands ++ vs.toArray }

@[simp] theorem binding_nil (w : Draft) : w.binding [] = w := by simp [binding]

@[simp] theorem binding_binding (w : Draft) (vs vs' : List Value) :
    (w.binding vs).binding vs' = w.binding (vs ++ vs') := by
  simp [binding]

@[simp] theorem size_binding (w : Draft) (vs : List Value) :
    (w.binding vs).operands.size = w.operands.size + vs.length := by
  simp [binding]

end Draft

theorem DraftM.bind_apply {α β : Type} (m : DraftM α) (f : α → DraftM β) (w : Draft) :
    (m >>= f) w = f (m w).1 (m w).2 := rfl

theorem DraftM.pure_apply {α : Type} (a : α) (w : Draft) : (pure a : DraftM α) w = (a, w) := rfl

theorem DraftM.modify_apply (f : Draft → Draft) (w : Draft) :
    (modify f : DraftM Unit) w = ((), f w) := rfl

theorem write_apply (d : Dialect) (f : Fragment) (w : Draft) :
    f.write d w = (textFrom d w.operands.size [f], w.binding (operands [f])) := by
  cases f with
  | text s =>
    rw [textFrom_text, textFrom_nil, String.append_empty]
    exact congrArg (s, ·) w.binding_nil.symm
  | name n =>
    have hchars : chars d w.operands.size [.name n] = (quoteIdentifier n).toList ++ [] := rfl
    rw [textFrom, hchars, List.append_nil, String.ofList_toList]
    exact congrArg (quoteIdentifier n, ·) w.binding_nil.symm
  | operand v =>
    have hchars : chars d w.operands.size [.operand v] =
        (d.placeholder ((w.operands.size + 1 : ℕ) : Int)).toList ++ [] := rfl
    rw [textFrom, hchars, List.append_nil, String.ofList_toList]
    have hbinding : w.binding [v] = { w with operands := w.operands.push v } := by
      simp [Draft.binding]
    exact congrArg (d.placeholder _, ·) hbinding.symm

/-- A clause gets the text of its fragments, and its operands are bound in order. -/
theorem writeClause_apply (d : Dialect) (fs : List Fragment) (w : Draft) :
    writeClause d fs w = (textFrom d w.operands.size fs, w.binding (operands fs)) := by
  induction fs generalizing w with
  | nil => exact congrArg ("", ·) w.binding_nil.symm
  | cons f fs ih =>
    have hcons : f :: fs = [f] ++ fs := rfl
    rw [writeClause, DraftM.bind_apply, write_apply, DraftM.bind_apply, ih, DraftM.pure_apply,
      Draft.size_binding, Draft.binding_binding, hcons, textFrom_append, operands_append]

/-- Clauses are numbered on from each other. -/
theorem writeClauses_apply (d : Dialect) (fss : List (List Fragment)) (w : Draft) :
    writeClauses d fss w = (textsFrom d w.operands.size fss, w.binding (operands fss.flatten)) := by
  induction fss generalizing w with
  | nil => exact congrArg ([], ·) w.binding_nil.symm
  | cons fs rest ih =>
    rw [writeClauses, DraftM.bind_apply, writeClause_apply, DraftM.bind_apply, ih,
      DraftM.pure_apply, Draft.size_binding, Draft.binding_binding, textsFrom, List.flatten_cons,
      operands_append]

/-! ## A select under way -/

/-- The operands of some joins, in order. -/
def joinOperands (d : Dialect) (js : List Join) : List Value :=
  Fragment.operands (js.map (Join.fragments d)).flatten

/-- The operands of some conditions, in order. -/
def conditionOperands (cs : List Condition) : List Value :=
  Fragment.operands (cs.map Condition.fragments).flatten

theorem joinOperands_append (d : Dialect) (js js' : List Join) :
    joinOperands d (js ++ js') = joinOperands d js ++ joinOperands d js' := by
  simp [joinOperands]

theorem conditionOperands_append (cs cs' : List Condition) :
    conditionOperands (cs ++ cs') = conditionOperands cs ++ conditionOperands cs' := by
  simp [conditionOperands]

theorem textsFrom_joins_append {d : Dialect} {k : ℕ} (js js' : List Join) :
    textsFrom d k ((js ++ js').map (Join.fragments d)) =
      textsFrom d k (js.map (Join.fragments d)) ++
        textsFrom d (k + (joinOperands d js).length) (js'.map (Join.fragments d)) := by
  rw [List.map_append, textsFrom_append, joinOperands]

theorem textsFrom_conditions_append {d : Dialect} {k : ℕ} (cs cs' : List Condition) :
    textsFrom d k ((cs ++ cs').map Condition.fragments) =
      textsFrom d k (cs.map Condition.fragments) ++
        textsFrom d (k + (conditionOperands cs).length) (cs'.map Condition.fragments) := by
  rw [List.map_append, textsFrom_append, conditionOperands]

theorem operands_projections (ps : List Projection) :
    Fragment.operands (Projection.clause ps) = [] := by
  rw [operandsLayout.projections ps false]
  exact List.flatMap_eq_nil_iff.mpr fun _ _ ↦ rfl

theorem operands_order (terms : List SortColumn) :
    Fragment.operands (SortColumn.clause terms) = [] := by
  rw [operandsLayout.order terms false]
  exact List.flatMap_eq_nil_iff.mpr fun _ _ ↦ rfl

/-- The conditions that no branch has a partner bind nothing. -/
theorem conditionOperands_absences (js : List Join) :
    conditionOperands (Join.absences js) = [] := by
  rw [conditionOperands, Join.absences, List.map_map]
  exact operands_flatten_of_free (fun _ ↦ rfl) js

/-- The operands of a select are those of its joins and then those of its conditions. -/
theorem Select.operands_fragments (s : Select) (d : Dialect) :
    Fragment.operands (s.fragments d) =
      joinOperands d s.joins ++ conditionOperands s.conditions := by
  have hfrom : Fragment.operands (.text "\nFROM " :: s.table.fragments d) = [] := rfl
  have hclause : Fragment.operands (Condition.clause s.conditions) =
      conditionOperands s.conditions := by
    rw [Condition.clause, conditionOperands]
    split
    · next hempty =>
      rw [List.isEmpty_iff.mp hempty]
      rfl
    · exact operands_separated " AND " _
  rw [fragments, operands_append, operands_append, operands_append, operands_append,
    operands_projections, operands_order, hfrom, hclause, operands_text, List.flatMap_def,
    ← joinOperands, List.append_nil, List.nil_append, List.nil_append]

/-- The text of a select is put together from those of its clauses. -/
theorem selectText_textsFrom (d : Dialect) (k : ℕ) (s : Select) :
    selectText (textsFrom d k (s.projections.map Projection.fragments))
      (textFrom d k (s.table.fragments d ++ [.text (" AS " ++ s.source.name)]))
      (textsFrom d k (s.joins.map (Join.fragments d)))
      (textsFrom d (k + (joinOperands d s.joins).length) (s.conditions.map Condition.fragments))
      (textsFrom d k (s.order.map SortColumn.fragments)) = textFrom d k (s.fragments d) := by
  have hconditions : Condition.clause s.conditions =
      if (s.conditions.map Condition.fragments).isEmpty then []
      else .text "\nWHERE " :: separated " AND " (s.conditions.map Condition.fragments) := by
    rw [List.isEmpty_map]
    rfl
  have horder : SortColumn.clause s.order =
      if (s.order.map SortColumn.fragments).isEmpty then []
      else .text "\nORDER BY " :: separated ", " (s.order.map SortColumn.fragments) := by
    rw [List.isEmpty_map]
    rfl
  have hfrom : Fragment.operands (.text "\nFROM " :: s.table.fragments d) = [] := rfl
  have htable : Fragment.operands (s.table.fragments d) = [] := rfl
  have hjoins :
      Fragment.operands (s.joins.flatMap (Join.fragments d)) = joinOperands d s.joins := by
    rw [joinOperands, List.flatMap_def]
  have hprojections : textFrom d k (Projection.clause s.projections) = "SELECT\n\t" ++
      textFrom d k (separated ",\n\t" (s.projections.map Projection.fragments)) :=
    textFrom_text _ _
  rw [selectText, orderText, clauseText_textsFrom, clauseText_textsFrom, ← hconditions, ← horder,
    intercalate_textsFrom, join_textsFrom, ← List.flatMap_def, Select.fragments]
  -- the sort clause has no operands, so it may be numbered as if it came first
  simp only [textFrom_append, operands_append, operands_projections, hfrom, htable, operands_text,
    hjoins, hprojections, textFrom_text, textFrom_nil, List.nil_append, List.length_nil,
    Nat.add_zero, String.append_empty, String.append_assoc,
    textFrom_of_free (operands_order s.order) k]

namespace Draft

/-- The draft `w` with a select under way, which has these joins and conditions so far. The branches
are numbered from where the select began, and the conditions from behind the branches. -/
def underWay (w : Draft) (d : Dialect) (steps branches members : List Join)
    (conditions : List Condition) : Draft :=
  let n := w.operands.size
  { w.binding (joinOperands d branches ++ conditionOperands conditions) with
    stepJoins := textsFrom d n (steps.map (Join.fragments d))
    branchJoins := textsFrom d n (branches.map (Join.fragments d))
    memberJoins := textsFrom d n (members.map (Join.fragments d))
    conditions := textsFrom d (n + (joinOperands d branches).length)
      (conditions.map Condition.fragments)
    absences := textsFrom d n ((Join.absences branches).map Condition.fragments) }

variable {d : Dialect} {w : Draft} {steps branches members : List Join}
  {conditions : List Condition}

/-- A select starts with its branches bound before its start. -/
theorem openSelect_apply (hsteps : joinOperands d steps = []) :
    openSelect d steps branches conditions w = ((), w.underWay d steps branches [] conditions) := by
  have habsent := conditionOperands_absences branches
  rw [joinOperands] at hsteps
  rw [conditionOperands] at habsent
  simp only [openSelect, DraftM.bind_apply, writeClauses_apply, DraftM.modify_apply, hsteps,
    habsent, binding_nil, size_binding, binding_binding,
    textsFrom_of_free habsent w.operands.size]
  rfl

theorem addCondition_apply (c : Condition) :
    addCondition d c (w.underWay d steps branches members conditions) =
      ((), w.underWay d steps branches members (conditions ++ [c])) := by
  simp only [addCondition, DraftM.bind_apply, writeClause_apply, DraftM.modify_apply, underWay,
    binding, conditionOperands_append, List.map_append, textsFrom_append]
  simp [joinOperands, conditionOperands, textsFrom, Nat.add_assoc]

theorem addMember_apply {j : Join} {cs : List Condition} (hj : joinOperands d [j] = [])
    (hcs : conditionOperands cs = []) (hmembers : joinOperands d members = []) :
    addMember d j cs (w.underWay d steps branches members conditions) =
      ((), w.underWay d steps branches (members ++ [j]) (conditions ++ cs)) := by
  have hcs' : Fragment.operands (cs.map Condition.fragments).flatten = [] := hcs
  have hj' : Fragment.operands (j.fragments d) = [] := by simpa [joinOperands] using hj
  have hmembers' : Fragment.operands (members.map (Join.fragments d)).flatten = [] := hmembers
  simp only [addMember, DraftM.bind_apply, writeClause_apply, writeClauses_apply,
    DraftM.modify_apply, underWay, conditionOperands_append, List.map_append, textsFrom_append,
    hcs, hcs', hj', hmembers', binding_nil, List.append_nil, size_binding, textsFrom,
    textFrom_of_free hj' w.operands.size, List.map_cons, List.map_nil, List.length_nil,
    Nat.add_zero, List.length_append, Nat.add_assoc]
  rfl

/-- A finished select has the text of its fragments, and has bound their operands. -/
theorem closeSelect_apply (s : Select) (hsteps : joinOperands d steps = [])
    (hmembers : joinOperands d members = []) (hjoins : s.joins = steps ++ members ++ branches)
    (hconditions : s.conditions = conditions ++ Join.absences branches) :
    closeSelect d s.projections s.table s.source s.order
        (w.underWay d steps branches members conditions) =
      ((), { w.underWay d steps branches members conditions with
        selects := w.selects ++ [textFrom d w.operands.size (s.fragments d)] }) := by
  have hprojections : Fragment.operands (s.projections.map Projection.fragments).flatten = [] :=
    operands_flatten_of_free (fun _ ↦ rfl) _
  have htable : Fragment.operands (s.table.fragments d ++ [.text (" AS " ++ s.source.name)]) = [] :=
    rfl
  have horder : Fragment.operands (s.order.map SortColumn.fragments).flatten = [] :=
    operands_flatten_of_free (fun _ ↦ rfl) _
  have habsent := conditionOperands_absences branches
  have hfirst : joinOperands d (steps ++ members) = [] := by
    rw [joinOperands_append, hsteps, hmembers, List.append_nil]
  have hbranches : joinOperands d s.joins = joinOperands d branches := by
    rw [hjoins, joinOperands_append, hfirst, List.nil_append]
  -- only what binds nothing is moved: the members before the branches, the absences to the end
  have hmoved : textsFrom d w.operands.size (s.joins.map (Join.fragments d)) =
      textsFrom d w.operands.size (steps.map (Join.fragments d)) ++
        textsFrom d w.operands.size (members.map (Join.fragments d)) ++
        textsFrom d w.operands.size (branches.map (Join.fragments d)) := by
    rw [hjoins, textsFrom_joins_append, textsFrom_joins_append, hfirst, hsteps]
    rfl
  have hlast : textsFrom d (w.operands.size + (joinOperands d branches).length)
        (s.conditions.map Condition.fragments) =
      textsFrom d (w.operands.size + (joinOperands d branches).length)
          (conditions.map Condition.fragments) ++
        textsFrom d w.operands.size ((Join.absences branches).map Condition.fragments) := by
    rw [hconditions, textsFrom_conditions_append, textsFrom_of_free habsent w.operands.size]
  simp only [closeSelect, DraftM.bind_apply, writeClause_apply, writeClauses_apply,
    DraftM.modify_apply, hprojections, htable, horder, binding_nil]
  have htext := selectText_textsFrom d w.operands.size s
  rw [hbranches, hmoved, hlast] at htext
  rw [← htext, textsFrom_of_free hprojections w.operands.size,
    textFrom_of_free htable w.operands.size, textsFrom_of_free horder w.operands.size]
  rfl

/-- A finished select has bound the operands of its fragments. -/
theorem operands_underWay (s : Select) (hsteps : joinOperands d steps = [])
    (hmembers : joinOperands d members = []) (hjoins : s.joins = steps ++ members ++ branches)
    (hconditions : s.conditions = conditions ++ Join.absences branches) :
    (w.underWay d steps branches members conditions).operands =
      (w.binding (Fragment.operands (s.fragments d))).operands := by
  rw [s.operands_fragments, hjoins, hconditions, joinOperands_append, joinOperands_append, hsteps,
    hmembers, conditionOperands_append, conditionOperands_absences, List.append_nil,
    List.append_nil, List.nil_append]
  rfl

end Draft

/-! ## Derived tables -/

/-- The operands of a select, in the order of its text. -/
def Select.operandsIn (d : Dialect) (s : Select) : List Value := Fragment.operands (s.fragments d)

theorem Link.operands_fragments (l : Link) (d : Dialect) (n : ℕ) :
    Fragment.operands (l.fragments d n) = l.select.operandsIn d := by
  have hlink : l.fragments d n = (.text "\nINNER JOIN (\n" :: indentAll (l.select.fragments d)) ++
      (.text ("\n) " ++ (Source.segment n).name ++ " ON ") ::
        (Condition.same l.left l.right).fragments) := rfl
  have htail := operandsLayout.same l.left l.right false
  rw [hlink, operands_append, operands_text, operands_text, operands_indentAll, htail]
  exact List.append_nil _

/-- The text of a further derived table is put together from its select and its condition. -/
theorem linkText_textFrom {d : Dialect} {k m n : ℕ} (l : Link) :
    linkText (Source.segment n).name (textFrom d k (l.select.fragments d))
      (textFrom d m (Condition.same l.left l.right).fragments) =
        textFrom d k (l.fragments d n) := by
  have hcondition : Fragment.operands (Condition.same l.left l.right).fragments = [] :=
    operandsLayout.same l.left l.right false
  have hnumber : textFrom d m (Condition.same l.left l.right).fragments =
      textFrom d (k + (Fragment.operands (indentAll (l.select.fragments d))).length)
        (Condition.same l.left l.right).fragments :=
    textFrom_of_free hcondition _
  unfold linkText
  simp only [Link.fragments, List.cons_append, textFrom_text, textFrom_append,
    textFrom_indentAll, hnumber, String.append_assoc]

/-- The further derived tables of a statement are put together one by one. -/
theorem join_linkTexts {d : Dialect} {k m n : ℕ} (ls : List Link) :
    String.join ((((textsFrom d k (ls.map fun l ↦ l.select.fragments d)).zip (textsFrom d m
        (ls.map fun l ↦ (Condition.same l.left l.right).fragments))).zipIdx n).map
          fun ((select, condition), n) ↦ linkText (Source.segment n).name select condition) =
      textFrom d k ((ls.zipIdx n).flatMap fun (l, n) ↦ l.fragments d n) := by
  induction ls generalizing k m n with
  | nil => simp [textsFrom]
  | cons l ls ih =>
    simp only [List.map_cons, textsFrom, List.zip_cons_cons, List.zipIdx_cons, List.flatMap_cons,
      String.join_cons]
    rw [ih, linkText_textFrom, textFrom_append, l.operands_fragments, Select.operandsIn]

theorem operands_links (d : Dialect) (ls : List Link) (n : ℕ) :
    Fragment.operands ((ls.zipIdx n).flatMap fun (l, n) ↦ l.fragments d n) =
      ls.flatMap (·.select.operandsIn d) := by
  rw [operands_flatMap]
  conv_rhs => rw [← List.zipIdx_map_fst n ls, List.flatMap_map]
  exact List.flatMap_congr fun x _ ↦ x.1.operands_fragments d x.2

/-- The operands of a statement that joins derived tables are those of its selects, in order. -/
theorem SplitSelect.operands_fragments (q : SplitSelect) (d : Dialect) :
    Fragment.operands (q.fragments d) =
      q.first.operandsIn d ++ q.links.flatMap (·.select.operandsIn d) := by
  have hfirst : Fragment.operands (.text "\nFROM (\n" :: indentAll (q.first.fragments d)) =
      q.first.operandsIn d := operands_indentAll _
  rw [fragments, operands_append, operands_append, operands_append, operands_projections,
    operands_order, hfirst, operands_text, operands_links, List.append_nil, List.nil_append]

/-- The text of a statement that joins derived tables is put together from those of its selects. -/
theorem splitText_textsFrom (d : Dialect) (q : SplitSelect) {k m : ℕ} :
    splitText (textsFrom d k (q.projections.map Projection.fragments))
      (textsFrom d 0 (q.first.fragments d :: q.links.map fun l ↦ l.select.fragments d))
      (textsFrom d m (q.links.map fun l ↦ (Condition.same l.left l.right).fragments))
      (textsFrom d k (q.order.map SortColumn.fragments)) = textFrom d 0 (q.fragments d) := by
  have horder : SortColumn.clause q.order = if (q.order.map SortColumn.fragments).isEmpty
      then [] else .text "\nORDER BY " :: separated ", " (q.order.map SortColumn.fragments) := by
    rw [List.isEmpty_map]
    rfl
  have hprojections : textFrom d k (Projection.clause q.projections) = "SELECT\n\t" ++
      textFrom d k (separated ",\n\t" (q.projections.map Projection.fragments)) :=
    textFrom_text _ _
  have hfirst : Fragment.operands (.text "\nFROM (\n" :: indentAll (q.first.fragments d)) =
      Fragment.operands (q.first.fragments d) :=
    operands_indentAll _
  rw [splitText, orderText, clauseText_textsFrom, ← horder, intercalate_textsFrom, textsFrom,
    List.drop_one, List.tail_cons, join_linkTexts, List.headD_cons, SplitSelect.fragments]
  simp only [textFrom_append, operands_append, operands_projections, hfirst, operands_text,
    textFrom_text, textFrom_indentAll, List.nil_append, List.length_nil, Nat.add_zero,
    Nat.zero_add, String.append_assoc, textFrom_of_free (operands_order q.order) 0,
    textFrom_of_free (operands_projections q.projections) k, hprojections]

/-- A finished statement has the text of its fragments. -/
theorem Draft.closeSplit_apply {d : Dialect} {w : Draft} (q : SplitSelect)
    (hselects : w.selects =
      textsFrom d 0 (q.first.fragments d :: q.links.map fun l ↦ l.select.fragments d)) :
    closeSplit d q.projections (q.links.map fun l ↦ (l.left, l.right)) q.order w =
      ((), { w with text := textFrom d 0 (q.fragments d) }) := by
  have hprojections : Fragment.operands (q.projections.map Projection.fragments).flatten = [] :=
    operands_flatten_of_free (fun _ ↦ rfl) _
  have hconditions : Fragment.operands (q.links.map fun l ↦
      (Condition.same l.left l.right).fragments).flatten = [] :=
    operands_flatten_of_free (fun _ ↦ rfl) _
  have horder : Fragment.operands (q.order.map SortColumn.fragments).flatten = [] :=
    operands_flatten_of_free (fun _ ↦ rfl) _
  simp only [closeSplit, DraftM.bind_apply, writeClauses_apply, DraftM.modify_apply, List.map_map,
    Function.comp_def, hprojections, hconditions, horder, binding_nil, hselects,
    splitText_textsFrom]

end PathQuery
