import PathQuery.Proofs.Compile.Writing
import PathQuery.Proofs.Relational.Spelling
import PathQuery.Proofs.Sql.Weave

/-!
# Reading names back from a statement

A database reads a statement character by character: a double quote opens an identifier, the next
one ends it, and two of them in a row inside it are a quote character of the name. The text of a
single select is read here by that rule. Every name comes back as one identifier, whatever is in it,
and the identifiers come in the order in which the select has its names.

Two facts carry this. Fixed texts have no double quotes, and there is always fixed text between two
names; were they adjacent, the quotes where they meet would be read as a quote character. What is
read outside of identifiers comes from fixed texts and placeholders alone, so it is the same for all
selects of one shape.
-/

namespace PathQuery

/-! ## Reading -/

/-- What a text is read as. -/
inductive Lexeme where
  /-- A character outside of quoted identifiers. -/
  | mark (c : Char)
  /-- A quoted identifier. -/
  | name (identifier : String)
  deriving DecidableEq, Repr

namespace Lexeme

/-- The identifiers, in order. -/
def identifiers (ls : List Lexeme) : List String :=
  ls.filterMap fun
    | .mark _ => none
    | .name n => some n

/-- What is outside of the identifiers, with a gap for each of them. -/
def outside (ls : List Lexeme) : List (Option Char) :=
  ls.map fun
    | .mark c => some c
    | .name _ => none

end Lexeme

/-- Where in a text a character stands. -/
inductive LexZone where
  /-- Outside of quotes. -/
  | code
  /-- In a string literal. -/
  | literal
  /-- In a quoted identifier of which these characters are read. -/
  | name (read : List Char)
  /-- Behind a quote that ends an identifier, unless another quote follows. -/
  | closing (read : List Char)
  deriving DecidableEq, Repr

namespace LexZone

/-- What the end of a text completes, if nothing is left open. -/
def finish : LexZone → Option (List Lexeme)
  | .code => some []
  | .closing read => some [.name (String.ofList read)]
  | .literal | .name _ => none

/-- What a character outside of quotes is and leads to. -/
def enter (c : Char) : List Lexeme × LexZone :=
  if c = '"' then ([], .name [])
  else ([.mark c], if c = '\'' then .literal else .code)

/-- What a character completes, and where the next one stands. -/
def step : LexZone → Char → List Lexeme × LexZone
  | .code, c => enter c
  | .literal, c => ([.mark c], if c = '\'' then .code else .literal)
  | .name read, c => ([], if c = '"' then .closing read else .name (read ++ [c]))
  | .closing read, c =>
    if c = '"' then ([], .name (read ++ ['"']))
    else (.name (String.ofList read) :: (enter c).1, (enter c).2)

/-- Reads a text; there is no answer if it ends inside of quotes. -/
def lex : LexZone → List Char → Option (List Lexeme)
  | z, [] => z.finish
  | z, c :: cs => (lex (z.step c).2 cs).map ((z.step c).1 ++ ·)

theorem lex_cons_of_step {z z' : LexZone} {c : Char} {out : List Lexeme} (h : z.step c = (out, z'))
    (cs : List Char) : lex z (c :: cs) = (lex z' cs).map (out ++ ·) := by
  rw [lex, h]

/-- A character that completes nothing is only a step to the next zone. -/
theorem lex_cons_of_silent {z z' : LexZone} {c : Char} (h : z.step c = ([], z'))
    (cs : List Char) : lex z (c :: cs) = lex z' cs := by
  rw [lex_cons_of_step h]
  exact Option.map_id'

end LexZone

open LexZone

/-- The lexemes of a statement's text. -/
def lexed (text : String) : Option (List Lexeme) := lex .code text.toList

/-! ## Names between quotes -/

/-- Inside an identifier, doubled quotes are read as the quotes they stand for. -/
theorem lex_doubleQuotes (read cs rest : List Char) :
    lex (.name read) (doubleQuotes cs ++ rest) = lex (.name (read ++ cs)) rest := by
  induction cs generalizing read with
  | nil => rw [List.append_nil, doubleQuotes, List.nil_append]
  | cons c cs ih =>
    have happend : read ++ c :: cs = read ++ [c] ++ cs := by simp
    rw [doubleQuotes, happend]
    by_cases hc : c = '"'
    · -- the first quote seems to end the name, and the second takes that back
      subst hc
      have hfirst : step (.name read) '"' = ([], .closing read) := rfl
      have hsecond : step (.closing read) '"' = ([], .name (read ++ ['"'])) := rfl
      rw [if_pos rfl, List.cons_append, List.cons_append, lex_cons_of_silent hfirst,
        lex_cons_of_silent hsecond, ih]
    · have hstep : step (.name read) c = ([], .name (read ++ [c])) := by rw [step, if_neg hc]
      rw [if_neg hc, List.cons_append, lex_cons_of_silent hstep, ih]

/-- A quoted name is read up to its last quote. -/
theorem lex_quoteIdentifier (n : String) (rest : List Char) :
    lex .code ((quoteIdentifier n).toList ++ rest) = lex (.closing n.toList) rest := by
  have hopen : step .code '"' = ([], .name []) := rfl
  have hclose : step (.name n.toList) '"' = ([], .closing n.toList) := rfl
  rw [quoteIdentifier, String.toList_ofList, List.cons_append, List.cons_append, List.append_assoc,
    lex_cons_of_silent hopen, lex_doubleQuotes, List.nil_append]
  exact lex_cons_of_silent hclose rest

/-- What is no quote shows that the quote before it has ended an identifier. -/
theorem lex_closing {cs : List Char} (h : cs.head? ≠ some '"') (read : List Char) :
    lex (.closing read) cs = (lex .code cs).map (.name (String.ofList read) :: ·) := by
  cases cs with
  | nil => rfl
  | cons c cs =>
    have hc : c ≠ '"' := fun heq ↦ h (congrArg some heq)
    rw [lex, step, if_neg hc, lex, step, Option.map_map]
    rfl

/-! ## Text without names -/

/-- Every character of the text is outside of identifiers, and reading goes on behind it. -/
def Unquoted (cs : List Char) : Prop :=
  ∀ rest, lex .code (cs ++ rest) = (lex .code rest).map (cs.map .mark ++ ·)

theorem unquoted_of_notMem {cs : List Char} (hname : '"' ∉ cs) (hliteral : '\'' ∉ cs) :
    Unquoted cs := by
  intro rest
  induction cs with
  | nil => exact Option.map_id'.symm
  | cons c cs ih =>
    rw [List.mem_cons, not_or] at hname hliteral
    have hstep : step .code c = ([.mark c], .code) := by
      rw [step, enter, if_neg (Ne.symm hname.1), if_neg (Ne.symm hliteral.1)]
    rw [List.cons_append, lex_cons_of_step hstep, ih hname.2 hliteral.2, Option.map_map]
    rfl

theorem unquoted_of_inert {s : String} (h : inert s) : Unquoted s.toList := by
  rw [inert, List.all_eq_true] at h
  have hfree : ∀ c ∈ s.toList, c ≠ '"' ∧ c ≠ '\'' := by
    intro c hc
    have hinert := h c hc
    simp only [Bool.and_eq_true, decide_eq_true_eq, ne_eq] at hinert
    exact hinert.1.1.1
  exact unquoted_of_notMem (fun hmem ↦ (hfree _ hmem).1 rfl) (fun hmem ↦ (hfree _ hmem).2 rfl)

/-- The only string literal of a statement. -/
theorem unquoted_escape : Unquoted " ESCAPE '\\'".toList := by
  intro rest
  cases hrest : lex .code rest <;> simp [lex, step, enter, hrest]

/-- Whether a text begins with a character that ends a quoted name before it. -/
def endsName (s : String) : Bool := s.toList.head?.any (· ≠ '"')

theorem endsName_of_endsNumber {s : String} (hinert : inert s) (hends : endsNumber s) :
    endsName s := by
  rw [inert] at hinert
  rw [endsNumber] at hends
  rw [endsName]
  cases hs : s.toList with
  | nil => simp [hs] at hends
  | cons c cs =>
    rw [hs] at hinert
    simp_all

/-! ## Fragments that are read back -/

namespace Fragment

/-- What a fragment is read as by itself. -/
def lexemes : Fragment → List Lexeme
  | .text s => s.toList.map .mark
  | .name n => [.name n]
  | .operand _ => [.mark '?']

/-- Fixed texts have no names in them, and no name follows another; `named` tells whether a name
comes before. -/
def Legible : Bool → List Fragment → Prop
  | _, [] => True
  | named, .text s :: rest => Unquoted s.toList ∧ (named → endsName s) ∧ Legible false rest
  | named, .name _ :: rest => ¬named ∧ Legible true rest
  | _, .operand _ :: rest => Legible false rest

section Sqlite

variable {d : Dialect} (hd : d.engine = .sqlite)

include hd

theorem placeholder_sqlite (n : Int) : d.placeholder n = "?" := by
  rw [Dialect.placeholder, hd]

/-- The text behind a name does not go on with a quote. -/
theorem head?_chars_ne {fs : List Fragment} (h : Legible true fs) (k : ℕ) :
    (chars d k fs).head? ≠ some '"' := by
  cases fs with
  | nil => nofun
  | cons x fs =>
    cases x with
    | text s =>
      have hends := h.2.1 rfl
      change (s.toList ++ chars d k fs).head? ≠ some '"'
      rw [endsName] at hends
      cases hs : s.toList with
      | nil => simp [hs] at hends
      | cons c cs => simpa [hs] using hends
    | name n => exact absurd rfl h.1
    | operand v =>
      change ((d.placeholder ((k + 1 : ℕ) : Int)).toList ++ chars d (k + 1) fs).head? ≠ some '"'
      rw [placeholder_sqlite hd]
      simp

/-- Legible fragments are read one by one. -/
theorem lex_chars {named : Bool} {fs : List Fragment} (h : Legible named fs) (k : ℕ) :
    lex .code (chars d k fs) = some (fs.flatMap lexemes) := by
  induction fs generalizing named k with
  | nil => rfl
  | cons x fs ih =>
    rw [List.flatMap_cons]
    cases x with
    | text s =>
      obtain ⟨hunquoted, -, hrest⟩ := h
      change lex .code (s.toList ++ chars d k fs) = _
      rw [hunquoted, ih hrest]
      rfl
    | name n =>
      -- what follows is no quote, so the last quote of the name ends it
      change lex .code ((quoteIdentifier n).toList ++ chars d k fs) = _
      rw [lex_quoteIdentifier, lex_closing (head?_chars_ne hd h.2 k), ih h.2, String.ofList_toList]
      rfl
    | operand v =>
      have hstep : step .code '?' = ([.mark '?'], .code) := rfl
      change lex .code ((d.placeholder ((k + 1 : ℕ) : Int)).toList ++ chars d (k + 1) fs) = _
      rw [placeholder_sqlite hd]
      change lex .code ('?' :: chars d (k + 1) fs) = _
      rw [lex_cons_of_step hstep, ih h]
      rfl

end Sqlite

/-- The identifiers that are read are the names in the fragments. -/
theorem identifiers_lexemes (fs : List Fragment) :
    Lexeme.identifiers (fs.flatMap lexemes) = spelled fs := by
  induction fs with
  | nil => rfl
  | cons x fs ih =>
    have hhead : Lexeme.identifiers x.lexemes = spelled [x] := by
      cases x <;> simp [Lexeme.identifiers, lexemes, spelled]
    rw [List.flatMap_cons, ← List.singleton_append, spelled, List.filterMap_append, ← spelled,
      ← spelled, ← hhead, ← ih, Lexeme.identifiers, List.filterMap_append]
    rfl

/-- Names leave no trace outside of identifiers. -/
theorem outside_map_mapName (f : String → String) (fs : List Fragment) :
    Lexeme.outside ((fs.map (mapName f)).flatMap lexemes) =
      Lexeme.outside (fs.flatMap lexemes) := by
  rw [Lexeme.outside, Lexeme.outside, List.flatMap_map, List.map_flatMap, List.map_flatMap]
  refine List.flatMap_congr fun x _ ↦ ?_
  cases x <;> rfl

/-- Operands leave no trace at all. -/
theorem lexemes_map_mask (fs : List Fragment) :
    (fs.map mask).flatMap lexemes = fs.flatMap lexemes := by
  rw [List.flatMap_map]
  refine List.flatMap_congr fun x _ ↦ ?_
  cases x <;> rfl

namespace Legible

variable {named : Bool} {xs ys fs : List Fragment}

theorem mono (h : Legible true fs) : Legible named fs := by
  cases fs with
  | nil => trivial
  | cons x fs =>
    cases x with
    | text s => exact ⟨h.1, fun _ ↦ h.2.1 rfl, h.2.2⟩
    | name n => exact absurd rfl h.1
    | operand v => exact h

theorem append (hx : Legible named xs) (hy : Legible true ys) : Legible named (xs ++ ys) := by
  induction xs generalizing named with
  | nil => exact hy.mono
  | cons x xs ih =>
    cases x with
    | text s => exact ⟨hx.1, hx.2.1, ih hx.2.2⟩
    | name n => exact ⟨hx.1, ih hx.2⟩
    | operand v => exact @ih false hx

end Legible

/-- Legible fragments with these names. -/
structure Reads (named : Bool) (names : List String) (fs : List Fragment) : Prop where
  /-- The fragments are legible. -/
  legible : Legible named fs
  /-- The names in them are these. -/
  spelled : spelled fs = names

/-- Names are read clause by clause. -/
theorem Reads.layout : FullLayout (fun n ↦ [n]) Reads where
  nil _ := ⟨trivial, rfl⟩
  mono h := ⟨h.legible.mono, h.spelled⟩
  append {_ xs ys fs gs} hx hy := by
    refine ⟨hx.legible.append hy.legible, ?_⟩
    rw [Fragment.spelled, List.filterMap_append]
    exact congrArg₂ (· ++ ·) hx.spelled hy.spelled
  text hinert hends h :=
    ⟨⟨unquoted_of_inert hinert, fun _ ↦ endsName_of_endsNumber hinert hends, h.legible⟩, h.spelled⟩
  name _ := ⟨⟨Bool.false_ne_true, trivial⟩, rfl⟩
  operand _ := ⟨trivial, rfl⟩
  lead hinert := ⟨⟨unquoted_of_inert hinert, nofun, trivial⟩, rfl⟩
  escape := ⟨⟨unquoted_escape, fun _ ↦ by decide, trivial⟩, rfl⟩

end Fragment

open Fragment

/-! ## The names of a select -/

/-- The names in a condition. -/
def Condition.identifiers (c : Condition) : List String := c.columns.map (·.column)

/-- The names of a relation. -/
def Relation.identifiers : Relation → List String
  | .table t => [t.schema, t.name]
  | .temporary n => [n]

/-- The names in a join. -/
def Join.identifiers (j : Join) : List String :=
  j.relation.identifiers ++ j.conditions.flatMap Condition.identifiers

/-- The names in a projected column. -/
def Projection.identifiers (p : Projection) : List String := [p.column.column, p.name]

/-- The names in a select, clause by clause. -/
def Select.identifiers (s : Select) : List String :=
  s.projections.flatMap Projection.identifiers ++ [s.table.schema, s.table.name] ++
    s.joins.flatMap Join.identifiers ++ s.conditions.flatMap Condition.identifiers ++
    s.order.map (·.column.column)

/-- The names in a query of one select. -/
def Query.identifiers? : Query → Option (List String)
  | .single s => some s.identifiers
  | .split _ => none

section Sqlite

variable {d : Dialect} (hd : d.engine = .sqlite)

include hd

theorem Dialect.tablePart_sqlite (n : String) : d.tablePart n = n := by
  rw [tablePart, hd]

theorem Dialect.verbatim_eq : d.verbatim = d := by
  rw [verbatim, ← hd]

/-- A select is legible, and it has the names that it is made of. -/
theorem Select.reads (s : Select) (named : Bool) : Reads named s.identifiers (s.fragments d) := by
  have hrelation : ∀ r, relationItems (fun n ↦ [n]) d r = r.identifiers := by
    intro r
    cases r with
    | table t =>
      rw [relationItems, Dialect.tablePart_sqlite hd, Dialect.tablePart_sqlite hd]
      rfl
    | temporary n => rfl
  have hcondition : ∀ c : Condition, Reads false c.identifiers c.fragments := by
    intro c
    rw [Condition.identifiers, List.map_eq_flatMap]
    exact Reads.layout.condition c
  have hall := Reads.layout.select hcondition s d named
  simp only [hrelation, Dialect.tablePart_sqlite hd] at hall
  rw [identifiers, List.map_eq_flatMap]
  exact hall

end Sqlite

/-! ## The shape of a select -/

/-- The shape of a select: what is left of it without names and operands. -/
def Select.shape (s : Select) : Select := (s.respell ⟨fun _ ↦ "", fun _ ↦ ""⟩).mask

/-- What is read outside of identifiers is the same for a select and its shape. -/
theorem Select.outside_shape {d : Dialect} (hd : d.engine = .sqlite) (s : Select) :
    Lexeme.outside ((s.shape.fragments d).flatMap lexemes) =
      Lexeme.outside ((s.fragments d).flatMap lexemes) := by
  have hblank := s.fragments_respell d fun _ ↦ ""
  rw [Dialect.verbatim_eq hd] at hblank
  -- the shape is the select with its names blanked, up to operands
  rw [shape, fragments_mask, lexemes_map_mask, ← outside_map_mapName (fun _ ↦ "") (s.fragments d),
    ← hblank]
  rfl

/-- The choices that are made for an engine do not show in the text of a select. -/
theorem Select.fragments_eq {d d' : Dialect} (hd : d.engine = .sqlite) (hd' : d'.engine = .sqlite)
    (s : Select) : s.fragments d = s.fragments d' := by
  rw [← Dialect.verbatim_eq hd, ← Dialect.verbatim_eq hd']
  rfl

/-- The text of a select is read as its fragments are. -/
theorem Select.lexed_render {d : Dialect} (hd : d.engine = .sqlite) (s : Select) :
    lexed ((Query.single s).render d) = some ((s.fragments d).flatMap lexemes) := by
  rw [lexed, Query.render, toList_render]
  exact lex_chars hd (s.reads hd false).legible 0

/-! ## Compiled statements -/

/-- **Names are read back as they are meant.** The text of a path that compiles to one select does
not end inside of quotes, the identifiers in it are the names of the select in order, and what is
outside of them is the same for every select of that shape. -/
theorem CompileM.lexed_statement {c : Compiler} {t : Tree} {mode : Mode} {p : Path}
    {branches : List NodeId} {s s' : CompileState} {st : Statement}
    (hst : (CompileM.statement c t mode p branches).Yields s st s')
    (hengine : c.dialect.engine = .sqlite) {q : Select} (hq : st.query = .single q) :
    ∃ ls, lexed st.sql = some ls ∧ Lexeme.identifiers ls = q.identifiers ∧
      ∀ (d : Dialect) (q' : Select), d.engine = .sqlite → q'.shape = q.shape →
        (lexed ((Query.single q').render d)).map Lexeme.outside = some (Lexeme.outside ls) := by
  obtain ⟨hdialect, -⟩ := CompileM.yields_statement hst
  refine ⟨(q.fragments c.dialect).flatMap lexemes, ?_, ?_, ?_⟩
  · rw [(CompileM.text_statement hst).1, hdialect, hq]
    exact q.lexed_render hengine
  · rw [identifiers_lexemes]
    exact (q.reads hengine false).spelled
  · intro d q' hd hshape
    rw [q'.lexed_render hd, Option.map_some, ← Select.outside_shape hd, hshape,
      Select.fragments_eq hd hengine, Select.outside_shape hengine]

/-! ### Names made of quotes and comments -/

/-- One vertex label and edges between such vertices, with names full of characters that mean
something in a statement. -/
def unruly : Declarations :=
  [("a \"b\"", some {
    vertices := [("v;--", some { properties := [⟨"\"", .string⟩] })]
    edges := [("e ?\n", some {
      outs := ["v;--"], ins := ["v;--"], properties := [⟨"/*\"\"", .string⟩] })] })]

/-- An edge from a vertex with a long list, and a vertex at its end that may be missing. -/
def unrulyTree : Tree :=
  let graph : Topology := {
    publicSchema := "s"
    declarations := unruly
    tables := match unruly.index with
      | .ok tables => tables
      | .error _ => [] }
  let root := Tree.ofRoot (some graph) {
    table := .vertex "a \"b\"" "v;--", step := .vertex
    filters := [⟨"\"", .within, .null, [.str "x", .str "y"]⟩] }
  [(0, { table := .edge "a \"b\"" "e ?\n", element := .edge
         filters := [⟨"/*\"\"", .startsWith, .str "\"", []⟩]
         orderings := [{ key := "/*\"\"", order := .descending }] }),
    (1, { table := .vertex "a \"b\"" "v;--", isOptional := true })].foldl
    (fun t x ↦ (t.addChild? x.1 x.2).getD t) root

/-- The names in the statement for edges without such a vertex. -/
def unrulyNames : List String :=
  ["ID", "alias1", "/*\"\"", "alias2", "a \"b\".v;--__O", "alias3", "a \"b\".v;--__I", "alias4",
    "a \"b\"", "V_v;--", "a \"b\"", "E_e ?\n", "ID", "a \"b\".v;--__O",
    "V_BULK_key_0001020304054607", "\"", "within", "a \"b\"", "V_v;--", "a \"b\".v;--__I", "ID",
    "/*\"\"", "ID", "/*\"\""]

/-- The names of all clauses are read back, from the projected columns to the sort column. -/
theorem lexed_unrulyTree : ⟨⟨[1]⟩, [2]⟩ ∈ unrulyTree.optionalPaths ∧ ∃ st s' q ls,
    (CompileM.statement { dialect := ⟨.sqlite, "s", 1, true⟩ } unrulyTree .optional
      ⟨[1]⟩ [2]).Yields {} st s' ∧
    st.query = .single q ∧
    q.identifiers = unrulyNames ∧
    lexed st.sql = some ls ∧ Lexeme.identifiers ls = q.identifiers ∧
    ∀ (d : Dialect) (q' : Select), d.engine = .sqlite → q'.shape = q.shape →
      (lexed ((Query.single q').render d)).map Lexeme.outside = some (Lexeme.outside ls) := by
  obtain ⟨st, s', hst, hnames⟩ := CompileM.exists_yields (s := {})
    (m := CompileM.statement { dialect := ⟨.sqlite, "s", 1, true⟩ } unrulyTree .optional ⟨[1]⟩ [2])
    (P := fun st _ ↦ st.query.identifiers? = some unrulyNames) (by decide +kernel)
  have hnames := of_decide_eq_true hnames
  cases hq : st.query with
  | single q =>
    rw [hq] at hnames
    obtain ⟨ls, hlexed, hidentifiers, houtside⟩ := CompileM.lexed_statement hst rfl hq
    exact ⟨by decide +kernel, st, s', q, ls, hst, hq, Option.some.inj hnames, hlexed,
      hidentifiers, houtside⟩
  | split q =>
    rw [hq] at hnames
    cases hnames

end PathQuery
