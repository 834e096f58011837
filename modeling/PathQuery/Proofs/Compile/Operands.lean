import PathQuery.Proofs.Compile.Writing
import PathQuery.Proofs.Sql.Weave

/-!
# Which operand a placeholder stands for

A statement binds the identity that a traversal starts from and the operands of filters. Compiling
comes to them select by select, and within a select to the branches first, then to the start, then
to the steps. The conditions they become stand in the text in this same order, although joins,
membership tables and conditions are collected apart and put together later. So scanning the text
meets the operands in the order in which they are bound, each within the condition it belongs to.
-/

namespace PathQuery

open ScanZone

/-! ## What operands belong to -/

/-- The operands that a filter has in a statement; `bulk` allows a membership table. A filter on
the label has none, a list is bound element by element unless it is loaded into a table, a text
comparison binds its pattern, and every other comparison its value. -/
def Filter.operands (d : Dialect) (bulk : Bool) (f : Filter) : List Value :=
  if f.key = labelKey then []
  else match f.predicate with
    | .within | .without => if bulk && f.isBulk d then [] else f.values
    | .startsWith | .endsWith | .contains | .notContains =>
      match f.textOperand with
      | .ok text => [.ofText (f.predicate.pattern text)]
      | .error _ => []
    | _ => [f.value]

/-- The condition of a filter has the operands of the filter. -/
theorem Filter.operands_of_form {d : Dialect} {catalog : Except QueryError Topology} {bulk : Bool}
    {table : Table} {source : Source} {f : Filter} {form : FilterForm}
    (h : f.form d catalog bulk table source = .ok form) :
    (form.condition?.map Condition.operands).getD [] = f.operands d bulk := by
  rw [Filter.form] at h
  rw [Filter.operands]
  split at h
  · next hkey =>
    rw [if_pos hkey]
    obtain rfl := Except.ok.inj h
    split <;> rfl
  · next hkey =>
    rw [if_neg hkey]
    obtain ⟨⟨column, type⟩, -, hform⟩ := bind_eq_ok_iff.mp h
    simp only [formOn] at hform
    cases hp : f.predicate with
    | within =>
      simp only [hp] at hform ⊢
      by_cases hbulk : (bulk && f.isBulk d) = true
      · rw [if_pos hbulk] at hform ⊢
        obtain rfl := Except.ok.inj hform
        rfl
      · rw [if_neg hbulk] at hform ⊢
        obtain rfl := Except.ok.inj hform
        rfl
    | without =>
      simp only [hp] at hform ⊢
      by_cases hempty : f.values.isEmpty
      · rw [if_pos hempty] at hform
        obtain rfl := Except.ok.inj hform
        rw [List.isEmpty_iff.mp hempty, ite_self]
        rfl
      · rw [if_neg hempty] at hform
        by_cases hbulk : (bulk && f.isBulk d) = true
        · rw [if_pos hbulk] at hform ⊢
          obtain rfl := Except.ok.inj hform
          rfl
        · rw [if_neg hbulk] at hform ⊢
          obtain rfl := Except.ok.inj hform
          rfl
    | startsWith | endsWith | contains | notContains =>
      simp only [hp] at hform ⊢
      obtain ⟨text, htext, hform⟩ := bind_eq_ok_iff.mp hform
      obtain rfl := Except.ok.inj hform
      rw [htext]
      rfl
    | other code => simp [hp, Predicate.comparison?] at hform
    | _ =>
      simp only [hp, Predicate.comparison?] at hform ⊢
      obtain rfl := Except.ok.inj hform
      rfl

/-- What an operand belongs to. -/
inductive Binder where
  /-- The identity a traversal starts from. -/
  | start
  /-- A filter; `bulk` allows a membership table. -/
  | filter (x : FilterSite) (bulk : Bool)

namespace Binder

/-- The operands that are bound for it. -/
def operands (t : Tree) (d : Dialect) : Binder → List Value
  | .start => if t.start.isNull then [] else [t.start]
  | .filter x bulk => x.filter.operands d bulk

/-- The condition it is written as, if it is written at all. -/
def condition? (t : Tree) (d : Dialect) (p : Path) : Binder → Option Condition
  | .start => (t.startConditions p).head?
  | .filter x bulk => x.condition? t d bulk

/-- Its condition has its operands. -/
def Faithful (t : Tree) (d : Dialect) (p : Path) (b : Binder) : Prop :=
  ((b.condition? t d p).map Condition.operands).getD [] = b.operands t d

theorem faithful_start (t : Tree) (d : Dialect) (p : Path) : start.Faithful t d p := by
  rw [Faithful, condition?, operands, Tree.startConditions]
  split <;> rfl

theorem faithful_filter {t : Tree} {d : Dialect} {x : FilterSite} {bulk : Bool}
    (h : ∃ form, x.form t d bulk = .ok form) (p : Path) : (filter x bulk).Faithful t d p := by
  obtain ⟨form, hform⟩ := h
  rw [Faithful, condition?, FilterSite.condition?_of_form hform]
  exact Filter.operands_of_form hform

end Binder

namespace Tree

/-- The filters of the optional branches of a path, in order. -/
def branchBinders (t : Tree) (branches : List NodeId) : List Binder :=
  branches.zipIdx.flatMap fun x ↦ (t.sitesFrom (.branch x.2) x.1).map (.filter · false)

/-- What a run binds operands for: the branches, if the path ends with it, then the start, if the
path begins with it, then its steps. -/
def runBinders (t : Tree) (p : Path) (branches : List NodeId) (r : Run) : List Binder :=
  (if r.ends then t.branchBinders branches else []) ++ (if r.starts then [.start] else []) ++
    (r.ids.flatMap (t.sites p)).map (.filter · true)

/-- What a statement binds operands for, in the order in which compiling comes to it. -/
def binders (t : Tree) (p : Path) (branches : List NodeId) : List Binder :=
  (Run.ofSegments true (t.segments p)).flatMap (t.runBinders p branches)

/-- The conditions with operands that some binders are written as. -/
def boundBy (t : Tree) (d : Dialect) (p : Path) (bs : List Binder) : List Condition :=
  (bs.filterMap (Binder.condition? t d p)).filter Condition.binds

variable {t : Tree} {d : Dialect} {p : Path}

theorem boundBy_append (bs bs' : List Binder) :
    t.boundBy d p (bs ++ bs') = t.boundBy d p bs ++ t.boundBy d p bs' := by
  rw [boundBy, List.filterMap_append, List.filter_append]
  rfl

theorem boundBy_flatMap {α : Type} (as : List α) (f : α → List Binder) :
    t.boundBy d p (as.flatMap f) = as.flatMap fun a ↦ t.boundBy d p (f a) := by
  induction as with
  | nil => rfl
  | cons a as ih => rw [List.flatMap_cons, boundBy_append, ih, List.flatMap_cons]

theorem boundBy_filters (xs : List FilterSite) (bulk : Bool) :
    t.boundBy d p (xs.map (.filter · bulk)) =
      (xs.filterMap (FilterSite.condition? t d bulk)).filter Condition.binds := by
  rw [boundBy, List.filterMap_map]
  rfl

theorem boundBy_start : t.boundBy d p [.start] = (t.startConditions p).filter Condition.binds := by
  rw [boundBy, startConditions]
  split <;> simp_all [Binder.condition?, startConditions]

end Tree

/-! ## What a run binds -/

/-- The joins of branches have the conditions of their filters. -/
theorem Tree.bound_branchJoins {t : Tree} {d : Dialect} {p : Path} {branches : List NodeId}
    {js : List Join} (h : t.branchJoins d p branches = .ok js) :
    js.flatMap (fun j ↦ j.conditions.filter Condition.binds) =
        t.boundBy d p (t.branchBinders branches) ∧
      ∀ b ∈ t.branchBinders branches, b.Faithful t d p := by
  obtain ⟨above, habove, h₁⟩ := bind_eq_ok_iff.mp h
  rw [mapM_eq_ok_iff] at h₁
  rw [branchBinders]
  clear h
  generalize branches.zipIdx = xs at h₁ ⊢
  induction h₁ with
  | nil => exact ⟨rfl, List.forall_mem_nil _⟩
  | @cons x j xs js hj _ ih =>
    obtain ⟨hbound, hfaithful⟩ := ih
    obtain ⟨c, -, hformed, rfl⟩ := branchJoin_eq_ok habove hj
    refine ⟨?_, List.forall_mem_append.mpr ⟨fun b hb ↦ ?_, hfaithful⟩⟩
    · rw [List.flatMap_cons, List.flatMap_cons, boundBy_append, boundBy_filters, hbound]
      rfl
    · obtain ⟨site, hsite, rfl⟩ := List.mem_map.mp hb
      exact Binder.faithful_filter (hformed site hsite) p

/-- The joins of steps compare columns only. -/
theorem Tree.bound_stepJoins {t : Tree} {p : Path} {ids : List NodeId} {js : List Join}
    (h : t.stepJoins p ids = .ok js) :
    js.flatMap (fun j ↦ j.conditions.filter Condition.binds) = [] := by
  rw [List.flatMap_eq_nil_iff]
  intro j hj
  obtain ⟨table, l, r, -, hsame⟩ := Tree.exists_of_mem_stepJoins h hj
  rw [hsame]
  rfl

namespace SelectParts.Fit

variable {parts : SelectParts} {c : Compiler} {t : Tree} {p : Path} {branches : List NodeId}
  {tables : List MembershipTable} {r : Run}

/-- What the branches of a run bind. -/
theorem bound_optional (h : parts.Fit c t p branches tables r) :
    parts.optional.flatMap (fun j ↦ j.conditions.filter Condition.binds) =
        t.boundBy c.dialect p (if r.ends then t.branchBinders branches else []) ∧
      ∀ b ∈ (if r.ends then t.branchBinders branches else []), b.Faithful t c.dialect p := by
  have hoptional := h.optional
  by_cases hends : r.ends = true
  · rw [if_pos hends] at hoptional ⊢
    exact Tree.bound_branchJoins hoptional
  · rw [if_neg hends] at hoptional ⊢
    rw [← Except.ok.inj hoptional]
    exact ⟨rfl, List.forall_mem_nil _⟩

/-- The conditions with operands of the select of a run are those of its binders, in order. -/
theorem bound_select (h : parts.Fit c t p branches tables r) (projected : List Projected)
    (order : List SortColumn) :
    (parts.select t p projected r order).bound =
      t.boundBy c.dialect p (t.runBinders p branches r) := by
  obtain ⟨js, hjs, hsame⟩ := h.clauses.joined
  have hmembers : parts.clauses.joins.flatMap (fun j ↦ j.conditions.filter Condition.binds) = [] := by
    rw [hjs, List.nil_append, List.flatMap_eq_nil_iff]
    intro j hj
    obtain ⟨l, r, heq⟩ := hsame j hj
    rw [heq]
    rfl
  have habsent : (Join.absences parts.optional).filter Condition.binds = [] := by
    rw [List.filter_eq_nil_iff]
    intro x hx
    obtain ⟨j, -, rfl⟩ := List.mem_map.mp hx
    exact Bool.false_ne_true
  have hstart : (if r.starts then t.startConditions p else []).filter Condition.binds =
      t.boundBy c.dialect p (if r.starts then [.start] else []) := by
    split
    · exact Tree.boundBy_start.symm
    · rfl
  have hsites := h.clauses.bound
  rw [List.filter_nil, List.nil_append] at hsites
  rw [Select.bound, select, List.flatMap_append, List.flatMap_append, Tree.bound_stepJoins h.chain,
    hmembers, h.bound_optional.1, List.filter_append, List.filter_append, habsent, hstart, hsites,
    Tree.runBinders, Tree.boundBy_append, Tree.boundBy_append, Tree.boundBy_filters]
  simp only [List.nil_append, List.append_nil, List.append_assoc]

theorem faithful (h : parts.Fit c t p branches tables r) :
    ∀ b ∈ t.runBinders p branches r, b.Faithful t c.dialect p := by
  rw [Tree.runBinders]
  refine List.forall_mem_append.mpr ⟨List.forall_mem_append.mpr ⟨h.bound_optional.2, ?_⟩, ?_⟩
  · intro b hb
    split at hb
    · rw [List.mem_singleton.mp hb]
      exact Binder.faithful_start t c.dialect p
    · cases hb
  · intro b hb
    obtain ⟨x, hx, rfl⟩ := List.mem_map.mp hb
    exact Binder.faithful_filter (h.clauses.formed x hx) p

end SelectParts.Fit

/-! ## What a statement binds -/

/-- A statement that joins derived tables has their conditions, one table after the other. -/
theorem bound_ofSegments {leaf : NodeId} {segments : List CompileM.Segment}
    {js : List CompileM.Joint} (hjs : segments.length = js.length + 1)
    (keys : List Tree.SortKey) :
    (Query.split (.ofSegments leaf segments js keys)).bound =
      segments.flatMap (·.select.bound) := by
  have htables : (Query.split (.ofSegments leaf segments js keys)).bound =
      (SplitSelect.ofSegments leaf segments js keys).tables.flatMap Select.bound := by
    rw [SplitSelect.tables, List.flatMap_cons, List.flatMap_map]
    rfl
  rw [htables, SplitSelect.tables_ofSegments hjs, List.flatMap_map]

namespace Compiles

variable {c : Compiler} {t : Tree} {p : Path} {branches : List NodeId} {k : ℕ} {q : Query}
  {tables : List MembershipTable} {slots : List Slot}

/-- **The conditions with operands of a compiled path are those of its binders, in order.** -/
theorem bound_eq (h : Compiles c t p branches k q tables slots) :
    q.bound = t.boundBy c.dialect p (t.binders p branches) ∧
      ∀ b ∈ t.binders p branches, b.Faithful t c.dialect p := by
  cases h with
  | @single keys parts nodes sorted uncut shown fit =>
    have hwhole : Run.ofSegments true (t.segments p) = [Run.whole p] := by
      have hnodes : nodes = p.nodes := by
        have hflatten := t.flatten_segments p
        rwa [uncut, List.flatten_singleton] at hflatten
      rw [uncut, hnodes]
      rfl
    rw [Tree.binders, hwhole, List.flatMap_singleton]
    exact ⟨fit.bound_select _ _, fit.faithful⟩
  | @split keys js segments tables sorted cut joints derived =>
    have hforall := derived.exists_fit
    obtain ⟨seg, segs, hsegs⟩ := List.exists_cons_of_ne_nil (t.segments_ne_nil p)
    have hlength : segments.length = js.length + 1 := by
      rw [← hforall.length_eq, length_ofSegments, hsegs, List.length_cons,
        length_joints (hsegs ▸ joints)]
    rw [bound_ofSegments hlength, Tree.binders, Tree.boundBy_flatMap]
    clear derived hlength
    generalize Run.ofSegments true (t.segments p) = runs at hforall ⊢
    induction hforall with
    | nil => exact ⟨rfl, List.forall_mem_nil _⟩
    | cons hfit _ ih =>
      obtain ⟨k', parts, tables', rfl, fit, -⟩ := hfit
      refine ⟨?_, List.forall_mem_append.mpr ⟨fit.faithful, ih.2⟩⟩
      rw [List.flatMap_cons, List.flatMap_cons, ih.1]
      exact congrArg (· ++ _) (fit.bound_select _ _)

end Compiles

/-! ## Operands follow the text -/

/-- A stretch of a statement's text in which the conditions of some binders stand in order,
together with the operands that are bound in it; the text before it has `k` placeholders. Outside
of the conditions the text is quiet. Up to the condition of a binder the scan has met the operands
of all binders before, and up to the end of the condition those of this binder as well, numbered on
from the others. -/
inductive Woven (t : Tree) (d : Dialect) (p : Path) (g : Fragment → Fragment) :
    List Char → ℕ → List Binder → List Char → List Value → Prop
  /-- Nothing is left to bind. -/
  | done {before : List Char} {k : ℕ} {text : List Char} (quiet : Quiet text) :
      Woven t d p g before k [] text []
  /-- A binder without operands. -/
  | skip {before : List Char} {k : ℕ} {b : Binder} {bs : List Binder} {text : List Char}
      {vs : List Value} (free : b.operands t d = []) (rest : Woven t d p g before k bs text vs) :
      Woven t d p g before k (b :: bs) text vs
  /-- A binder whose condition comes next. -/
  | bind {before : List Char} {k : ℕ} {b : Binder} {bs : List Binder} {glue text : List Char}
      {vs : List Value} {c : Condition} (quiet : Quiet glue)
      (reached : scan .code (before ++ glue) = d.numbered 0 k)
      (written : b.condition? t d p = some c)
      (met : scan .code (before ++ glue ++ c.chars d g k) =
        d.numbered 0 (k + (b.operands t d).length))
      (rest : Woven t d p g (before ++ glue ++ c.chars d g k) (k + (b.operands t d).length) bs
        text vs) :
      Woven t d p g before k (b :: bs) (glue ++ c.chars d g k ++ text) (b.operands t d ++ vs)

/-- A binder without a condition that has operands adds nothing to the text. -/
theorem Binder.Faithful.boundBy_cons_of_not_binds {t : Tree} {d : Dialect} {p : Path} {b : Binder}
    (h : b.Faithful t d p) (hnone : ∀ c, b.condition? t d p = some c → ¬c.binds)
    (bs : List Binder) :
    t.boundBy d p (b :: bs) = t.boundBy d p bs ∧ b.operands t d = [] := by
  rw [← show _ = b.operands t d from h, Tree.boundBy]
  cases hc : b.condition? t d p with
  | none =>
    rw [List.filterMap_cons_none hc]
    exact ⟨rfl, rfl⟩
  | some c =>
    rw [List.filterMap_cons_some hc, List.filter_cons_of_neg (hnone c hc)]
    exact ⟨rfl, Condition.operands_of_not_binds (hnone c hc)⟩

open Fragment in
/-- Fragments in which the conditions of some binders stand have a text woven of these. -/
theorem Fragment.Weave.woven {t : Tree} {d : Dialect} {p : Path} {g : Fragment → Fragment}
    (hg : ∀ fs : List Fragment, operands (fs.map g) = operands fs) {bs : List Binder}
    (hfaithful : ∀ b ∈ bs, b.Faithful t d p) {fs : List Fragment}
    (hweave : Weave g (t.boundBy d p bs) fs) (pre : List Fragment)
    (hspaced : Spaced false (pre ++ fs)) :
    Woven t d p g (chars d 0 pre) (operands pre).length bs
      (chars d (operands pre).length fs) (operands fs) := by
  induction bs generalizing fs pre with
  | nil =>
    cases hweave with
    | done free =>
      rw [free]
      exact .done (quiet_chars d hspaced.of_append.2 free _)
  | cons b bs ih =>
    obtain ⟨hb, hbs⟩ := List.forall_mem_cons.mp hfaithful
    by_cases hbinds : ∃ c, b.condition? t d p = some c ∧ c.binds
    · obtain ⟨c, hc, hbinds⟩ := hbinds
      have hcons : t.boundBy d p (b :: bs) = c :: t.boundBy d p bs := by
        simp [Tree.boundBy, hc, hbinds]
      rw [hcons] at hweave
      cases hweave with
      | @bind glue rest _ _ free hrest =>
        have hoperands : operands (c.fragments.map g) = b.operands t d := by
          rw [hg, c.operands_fragments, ← show _ = b.operands t d from hb, hc]
          rfl
        have hsplit : pre ++ (glue ++ c.fragments.map g ++ rest) =
            pre ++ glue ++ c.fragments.map g ++ rest := by
          simp only [List.append_assoc]
        rw [hsplit] at hspaced
        -- both scans are of a well-spaced beginning of the text, from outside of quotes
        obtain ⟨hcondition, -⟩ := hspaced.of_append
        obtain ⟨hglue, -⟩ := hcondition.of_append
        have hreached := scan_chars d hglue 0 (z := .code) (.inl rfl)
        have hmet := scan_chars d hcondition 0 (z := .code) (.inl rfl)
        have hwoven := ih hbs hrest _ hspaced
        simp only [chars_append, operands_append, free, hoperands, List.nil_append,
          List.append_nil, List.length_append, List.length_nil, Nat.add_zero, Nat.zero_add,
          flush] at hreached hmet hwoven ⊢
        exact .bind (quiet_chars d hglue.of_append.2 free _) hreached hc hmet hwoven
    · obtain ⟨hsame, hfree⟩ := hb.boundBy_cons_of_not_binds
        (fun c hc hbinds' ↦ hbinds ⟨c, hc, hbinds'⟩) bs
      rw [hsame] at hweave
      exact .skip hfree (ih hbs hweave pre hspaced)

/-- **Operands follow the text.** Whatever the path, its branches and the dialect, scanning the text
of a compiled statement outside of quoted names and string literals meets as many placeholders as
there are operands, the `i`-th being the dialect's `i`-th; and the text is woven of the conditions
of the start, the branches and the steps, in each of which the scan meets the operands of the very
filter that the condition has been written for. -/
theorem woven_statement {c : Compiler} {t : Tree} {mode : Mode} {p : Path} {branches : List NodeId}
    {s s' : CompileState} {st : Statement}
    (hst : (CompileM.statement c t mode p branches).Yields s st s') :
    placeholders st.sql = c.dialect.numbered 0 st.operands.length ∧
      Woven t c.dialect p st.query.inset [] 0 (t.binders p branches) st.sql.toList st.operands := by
  obtain ⟨hdialect, -, slots, hcompiles, -⟩ := CompileM.yields_statement hst
  obtain ⟨hsql, hoperands⟩ := CompileM.text_statement hst
  obtain ⟨hbound, hfaithful⟩ := hcompiles.bound_eq
  have hlaid := st.query.laid c.dialect false
  have htext : st.sql.toList = Fragment.chars c.dialect 0 (st.query.fragments c.dialect) := by
    rw [hsql, hdialect, Query.render, Fragment.toList_render]
  have hinset : ∀ fs : List Fragment,
      Fragment.operands (fs.map st.query.inset) = Fragment.operands fs := by
    intro fs
    cases st.query with
    | single q => rw [Query.inset, List.map_id]
    | split q => exact Fragment.operands_indent fs
  rw [placeholders, htext, hoperands, hdialect, Query.operands]
  refine ⟨?_, ?_⟩
  · rw [Fragment.scan_chars c.dialect hlaid.spaced 0 (.inl rfl)]
    rfl
  · rw [hbound] at hlaid
    exact hlaid.woven.woven hinset hfaithful [] hlaid.spaced

/-! ### A mix of operands

Vertices `a` with a name and edges `e` with a note. The path over two edges is cut; it has a list
that is loaded into a table, a shorter one that is not, a pattern and a start. The branch at its end
has a list that is long as well, but branches write all lists inline.
-/

/-- Named vertices and annotated edges. -/
def annotations : Declarations :=
  [("s", some {
    vertices := [("a", some { properties := [⟨"name", .string⟩] })]
    edges := [("e", some { outs := ["a"], ins := ["a"], properties := [⟨"note", .string⟩] })] })]

/-- Two edges in a row from one vertex, and a third that may be missing. -/
def annotationTree : Tree :=
  let graph : Topology := {
    publicSchema := "s"
    declarations := annotations
    tables := match annotations.index with
      | .ok tables => tables
      | .error _ => [] }
  let long := [.str "x", .str "y", .str "z"]
  let root := Tree.ofRoot (some graph) {
    table := ⟨"s", "V_a"⟩, step := .vertex, start := .str "7"
    filters := [⟨"name", .within, .null, long⟩] }
  [(0, { table := ⟨"s", "E_e"⟩, element := .edge, filters := [⟨"note", .contains, .str "?", []⟩] }),
    (1, { table := ⟨"s", "V_a"⟩, filters := [⟨"name", .without, .null, [.str "x", .str "$1"]⟩] }),
    (2, { table := ⟨"s", "E_e"⟩, element := .edge }),
    (3, { table := ⟨"s", "V_a"⟩, filters := [⟨"name", .gt, .str "x", []⟩] }),
    (4, { table := ⟨"s", "E_e"⟩, element := .edge, isOptional := true,
          filters := [⟨"note", .within, .null, long⟩] })].foldl
    (fun t x ↦ (t.addChild? x.1 x.2).getD t) root

/-- The branch, the start and the steps bind eight operands, which follow the text. -/
theorem woven_annotationTree : annotationTree.segments ⟨[1, 2, 3, 4]⟩ = [[1, 2], [3, 4]] ∧
    ⟨⟨[1, 2, 3, 4]⟩, [5]⟩ ∈ annotationTree.optionalPaths ∧ ∃ st s',
      (CompileM.statement { dialect := ⟨.postgres, "s", 2, true⟩ } annotationTree .optional
        ⟨[1, 2, 3, 4]⟩ [5]).Yields {} st s' ∧
      (st.tables.length = 1 ∧ st.operands.length = 8) ∧
      placeholders st.sql = Dialect.numbered ⟨.postgres, "s", 2, true⟩ 0 st.operands.length ∧
      Woven annotationTree ⟨.postgres, "s", 2, true⟩ ⟨[1, 2, 3, 4]⟩ st.query.inset [] 0
        (annotationTree.binders ⟨[1, 2, 3, 4]⟩ [5]) st.sql.toList st.operands := by
  obtain ⟨st, s', hst, hcounts⟩ := CompileM.exists_yields (s := {})
    (m := CompileM.statement { dialect := ⟨.postgres, "s", 2, true⟩ } annotationTree .optional
      ⟨[1, 2, 3, 4]⟩ [5])
    (P := fun st _ ↦ st.tables.length = 1 ∧ st.operands.length = 8) (by decide +kernel)
  exact ⟨by decide +kernel, by decide +kernel, st, s', hst, of_decide_eq_true hcounts,
    woven_statement hst⟩

end PathQuery
