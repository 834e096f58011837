import PathQuery.Command.Listing
import PathQuery.Proofs.Sql.Script

/-!
# What a script of statements executes

Every statement of a script stands behind comments that name the plan, the table and the operands.
What they name is written as it is, and a comment ends where its line ends. A name that breaks the
line leaves the rest of itself to be executed.

The comments are followed from left to right. A text that is told in a comment leaves the comment
open behind it exactly if it is *tame*; if it is not, then the fixed text behind it cannot be taken
for a comment any more. So the comments are nothing but comments exactly if all that they tell is
tame, and then the statements of the script are the listed ones.
-/

namespace PathQuery

open LineZone

/-! ## Comments that tell something -/

section Comment

variable {e : Engine} {z : LineZone} {data data' : List Text} {bytes bytes' : List UInt8}

/-- All of these texts can stand in a comment. -/
def Engine.AllTame (e : Engine) (data : List Text) : Prop := ∀ d ∈ data, e.Tame d.bytes

/-- The bytes tell these texts in comments: they lead to a known place if all the texts are tame,
and nowhere otherwise. -/
structure Tells (e : Engine) (data : List Text) (z : LineZone) (bytes : List UInt8) : Prop where
  /-- Tame texts leave the comments what they are. -/
  run_of_tame : e.AllTame data → run e .start bytes = z
  /-- A text that is not tame does not. -/
  run_of_not_tame : ¬e.AllTame data → run e .start bytes = .stray

/-- The bytes tell these texts in comments, the last of them in the comment that is still open. -/
def TellsLast (e : Engine) (data : List Text) (bytes : List UInt8) : Prop :=
  run e .start bytes = .remark ↔ e.AllTame data

/-- Whether a text is neither blank nor can begin a comment, so that behind it nothing but a comment
that was open before it is one. -/
def anchors (s : String) : Bool :=
  [Engine.sqlite, .postgres].all fun e ↦ [LineZone.start, .blank, .dash].all fun z ↦
    decide (run e z (s.toList.flatMap String.utf8EncodeChar) = .stray)

theorem run_of_anchors {s : String} (h : anchors s) {z : LineZone} (hz : z ≠ .remark) :
    run e z (Text.ofString s).bytes = .stray := by
  have he : e ∈ [Engine.sqlite, .postgres] := by
    cases e <;> simp
  rw [anchors, List.all_eq_true] at h
  have hall := List.all_eq_true.mp (h e he)
  rw [Text.bytes_ofString_eq_flatMap]
  cases z with
  | remark => exact absurd rfl hz
  | stray => exact run_stray _
  | _ => exact of_decide_eq_true (hall _ (by simp))

/-- Where a fixed text leads, computed for either engine. -/
theorem run_ofString {s : String} {z z' : LineZone}
    (hsqlite : run .sqlite z (s.toList.flatMap String.utf8EncodeChar) = z')
    (hpostgres : run .postgres z (s.toList.flatMap String.utf8EncodeChar) = z') :
    run e z (Text.ofString s).bytes = z' := by
  rw [Text.bytes_ofString_eq_flatMap]
  cases e with
  | sqlite => exact hsqlite
  | postgres => exact hpostgres

theorem Engine.tame_append_iff {s : String} (hs : anchors s)
    (hz : run e .remark (Text.ofString s).bytes = .remark) :
    e.Tame (bytes ++ (Text.ofString s).bytes) ↔ e.Tame bytes := by
  rw [tame_iff, tame_iff, run_append]
  constructor
  · intro h
    by_contra hopen
    rw [run_of_anchors hs hopen] at h
    cases h
  · intro h
    rw [h, hz]

theorem Engine.allTame_append :
    e.AllTame (data ++ data') ↔ e.AllTame data ∧ e.AllTame data' := List.forall_mem_append

namespace Tells

theorem nil : Tells e [] .start [] := ⟨fun _ ↦ rfl, fun h ↦ absurd (List.forall_mem_nil _) h⟩

/-- Comments that are complete may be followed by others. -/
theorem append (h : Tells e data .start bytes) (h' : Tells e data' z bytes') :
    Tells e (data ++ data') z (bytes ++ bytes') := by
  constructor
  · intro htame
    rw [Engine.allTame_append] at htame
    rw [run_append, h.run_of_tame htame.1, h'.run_of_tame htame.2]
  · intro htame
    rw [Engine.allTame_append, not_and_or] at htame
    rw [run_append]
    by_cases hfirst : e.AllTame data
    · rw [h.run_of_tame hfirst, h'.run_of_not_tame (htame.resolve_left (not_not_intro hfirst))]
    · rw [h.run_of_not_tame hfirst, run_stray]

theorem flatMap {ι : Type*} {told : ι → List Text} {comment : ι → List UInt8}
    (h : ∀ x, Tells e (told x) .start (comment x)) (xs : List ι) :
    Tells e (xs.flatMap told) .start (xs.flatMap comment) := by
  induction xs with
  | nil => exact .nil
  | cons x xs ih => exact (h x).append ih

/-- Two dashes open a comment. -/
theorem opening {s : String} (hs : run e .start (Text.ofString s).bytes = .remark) :
    Tells e [] .remark (Text.ofString s).bytes :=
  ⟨fun _ ↦ hs, fun h ↦ absurd (List.forall_mem_nil _) h⟩

/-- A text is told. -/
theorem datum (h : Tells e data .remark bytes) (d : Text) :
    TellsLast e (data ++ [d]) (bytes ++ d.bytes) := by
  rw [TellsLast, run_append, Engine.allTame_append, Engine.AllTame, Engine.AllTame,
    List.forall_mem_singleton, Engine.tame_iff]
  by_cases htame : e.AllTame data
  · rw [h.run_of_tame htame]
    exact (and_iff_right htame).symm
  · rw [h.run_of_not_tame htame, run_stray]
    exact iff_of_false (by decide) fun hall ↦ htame hall.1

/-- A comment goes on with a text that breaks no line. -/
theorem unbroken (h : Tells e data .remark bytes) (hbytes : ∀ b ∈ bytes', e.endsLine b = false) :
    Tells e data .remark (bytes ++ bytes') :=
  ⟨fun htame ↦ by rw [run_append, h.run_of_tame htame, run_remark hbytes],
    fun htame ↦ by rw [run_append, h.run_of_not_tame htame, run_stray]⟩

/-- A comment ends with its line. -/
theorem line (h : Tells e data .remark bytes) {s : String}
    (hs : run e .remark (Text.ofString s).bytes = .start) :
    Tells e data .start (bytes ++ (Text.ofString s).bytes) :=
  ⟨fun htame ↦ by rw [run_append, h.run_of_tame htame, hs],
    fun htame ↦ by rw [run_append, h.run_of_not_tame htame, run_stray]⟩

theorem congr (h : Tells e data z bytes) (hdata : e.AllTame data ↔ e.AllTame data') :
    Tells e data' z bytes :=
  ⟨fun htame ↦ h.run_of_tame (hdata.mpr htame), fun htame ↦ h.run_of_not_tame (mt hdata.mp htame)⟩

/-- Comments are nothing but comments exactly if all that they tell is tame. -/
theorem remarks_iff (h : Tells e data .start bytes) : e.Remarks bytes ↔ e.AllTame data := by
  rw [LineZone.remarks_iff]
  by_cases htame : e.AllTame data
  · rw [h.run_of_tame htame]
    exact iff_of_true rfl htame
  · rw [h.run_of_not_tame htame]
    exact iff_of_false Bool.false_ne_true htame

end Tells

/-- A fixed text behind what is told. -/
theorem TellsLast.anchor (h : TellsLast e data bytes) {s : String} (hs : anchors s)
    (hz : run e .remark (Text.ofString s).bytes = z) :
    Tells e data z (bytes ++ (Text.ofString s).bytes) := by
  constructor
  · intro htame
    rw [run_append, h.mpr htame, hz]
  · intro htame
    rw [run_append, run_of_anchors hs (mt h.mp htame)]

theorem Engine.not_endsLine_of_mem_bytes {s : String} (hline : '\n' ∉ s.toList)
    (hreturn : '\r' ∉ s.toList) : ∀ b ∈ (Text.ofString s).bytes, e.endsLine b = false := by
  intro b hb
  rw [Text.bytes_ofString_eq_flatMap] at hb
  obtain ⟨c, hc, hbyte⟩ := List.mem_flatMap.mp hb
  have hfeed : b ≠ 0x0A := Text.ne_of_mem_utf8EncodeChar (k := '\n') (by decide)
    (ne_of_mem_of_not_mem hc hline) hbyte
  have hback : b ≠ 0x0D := Text.ne_of_mem_utf8EncodeChar (k := '\r') (by decide)
    (ne_of_mem_of_not_mem hc hreturn) hbyte
  cases e <;> simp [endsLine, hfeed, hback]

/-- A number breaks no line. -/
theorem Engine.not_endsLine_of_mem_toString (n : ℤ) :
    ∀ b ∈ (Text.ofString (toString n)).bytes, e.endsLine b = false := by
  have hdigits {c : Char} (hc : c.isDigit = false) (k : ℕ) : c ∉ (Nat.repr k).toList := by
    intro hmem
    cases hc.symm.trans (isDigit_of_mem_repr k c hmem)
  refine not_endsLine_of_mem_bytes ?_ ?_
  all_goals
    cases n with
    | ofNat k => exact hdigits rfl k
    | negSucc k =>
      change _ ∉ ("-" ++ Nat.repr (k + 1)).toList
      rw [String.toList_append, List.mem_append, not_or]
      exact ⟨by decide, hdigits rfl (k + 1)⟩

end Comment

namespace Command

variable (e : Engine)

/-! ## The comments of a statement -/

/-- The comment that names the plan, the mode and the table. -/
def ListedStatement.heading (plan : String) (s : ListedStatement) (position : ℕ) : Text :=
  "-- " ++ plan ++ " #" ++ toString (position + 1) ++ " " ++ s.mode ++ " -> " ++ s.leaf ++ " [" ++
    s.fingerprint ++ "]\n"

/-- The comments before a statement. -/
def ListedStatement.remarks (plan : String) (s : ListedStatement) (position : ℕ) : Text :=
  Text.join (s.heading plan position :: s.tables.map ListedTable.comment ++
    operandComment s.operands)

/-- What is told of a temporary table. -/
def ListedTable.told (t : ListedTable) : List Text :=
  [Text.ofString t.name, Text.ofString t.column ++ Text.ofString " " ++ Text.ofString t.type]

/-- What is told of a statement. -/
def ListedStatement.told (plan : String) (s : ListedStatement) : List Text :=
  [Text.ofString plan, Text.ofString s.mode, Text.ofString s.leaf, Text.ofString s.fingerprint] ++
    s.tables.flatMap ListedTable.told ++ [(Value.list s.operands).render]

theorem ListedStatement.tells_heading (plan : String) (s : ListedStatement) (position : ℕ) :
    Tells e [Text.ofString plan, Text.ofString s.mode, Text.ofString s.leaf,
      Text.ofString s.fingerprint] .start (s.heading plan position).bytes := by
  have hplan := (Tells.opening (e := e) (s := "-- ") (run_ofString rfl rfl)).datum (.ofString plan)
  have hposition := (hplan.anchor (s := " #") (by decide) (run_ofString rfl rfl)).unbroken
    (Engine.not_endsLine_of_mem_toString ((position + 1 : ℕ) : ℤ))
  have hmode := (hposition.unbroken (Engine.not_endsLine_of_mem_bytes (s := " ") (by decide)
    (by decide))).datum (.ofString s.mode)
  have hleaf := (hmode.anchor (s := " -> ") (by decide) (run_ofString rfl rfl)).datum
    (.ofString s.leaf)
  have hfingerprint := (hleaf.anchor (s := " [") (by decide) (run_ofString rfl rfl)).datum
    (.ofString s.fingerprint)
  exact hfingerprint.anchor (by decide) (run_ofString rfl rfl)

theorem ListedTable.tells_comment (t : ListedTable) : Tells e t.told .start t.comment.bytes := by
  have hname := (Tells.opening (e := e) (s := "-- needs temp table ") (run_ofString rfl rfl)).datum
    (.ofString t.name)
  have hcolumn := (hname.anchor (s := "(") (by decide) (run_ofString rfl rfl)).datum
    (Text.ofString t.column ++ Text.ofString " " ++ Text.ofString t.type)
  have hvalues := (hcolumn.anchor (s := ") with ") (by decide) (run_ofString rfl rfl)).unbroken
    (Engine.not_endsLine_of_mem_toString t.values)
  have hall := hvalues.line (s := " values\n") (run_ofString rfl rfl)
  rw [ListedTable.comment]
  simp only [Text.bytes_append, List.append_assoc] at hall ⊢
  exact hall

theorem tells_operandComment (operands : List Value) :
    Tells e [(Value.list operands).render] .start (Text.join (operandComment operands)).bytes := by
  -- a rendered list ends with a bracket, which tells nothing
  obtain ⟨d, hrender, hnil⟩ : ∃ d : Text, (Value.list operands).render = d ++ Text.ofString "]" ∧
      (operands = [] → e.Tame d.bytes) := by
    refine ⟨_, by rw [Value.render], ?_⟩
    rintro rfl
    rw [Value.renderList, Text.intercalate, Text.bytes_append, List.append_nil, Engine.tame_iff]
    exact run_ofString rfl rfl
  have hdata : e.AllTame [d] ↔ e.AllTame [(Value.list operands).render] := by
    rw [Engine.AllTame, Engine.AllTame, List.forall_mem_singleton, List.forall_mem_singleton,
      hrender, Text.bytes_append, Engine.tame_append_iff (by decide) (run_ofString rfl rfl)]
  cases operands with
  | nil =>
    have htame := hdata.mp (List.forall_mem_singleton.mpr (hnil rfl))
    exact ⟨fun _ ↦ rfl, fun h ↦ absurd htame h⟩
  | cons v vs =>
    have hlist := (Tells.opening (e := e) (s := "-- args: ") (run_ofString rfl rfl)).datum d
    have hbracket := hlist.anchor (s := "]") (by decide) (run_ofString rfl rfl)
    have hall := (hbracket.line (s := "\n") (run_ofString rfl rfl)).congr hdata
    have hbytes : (Text.join (operandComment (v :: vs))).bytes =
        (Text.ofString "-- args: ").bytes ++ d.bytes ++ (Text.ofString "]").bytes ++
          (Text.ofString "\n").bytes := by
      rw [operandComment, hrender]
      simp [Text.join]
    rw [hbytes]
    exact hall

theorem ListedStatement.tells_remarks (plan : String) (s : ListedStatement) (position : ℕ) :
    Tells e (s.told plan) .start (s.remarks plan position).bytes := by
  have htables := Tells.flatMap (fun t ↦ t.tells_comment e) s.tables
  have hall := ((s.tells_heading e plan position).append htables).append
    (tells_operandComment e s.operands)
  have hbytes : (s.remarks plan position).bytes = (s.heading plan position).bytes ++
      s.tables.flatMap (fun t ↦ t.comment.bytes) ++
        (Text.join (operandComment s.operands)).bytes := by
    simp [remarks, Text.join, List.flatMap_map]
  rw [hbytes]
  exact hall

/-! ## The script -/

/-- A statement of a script. -/
structure ScriptEntry where
  /-- The name of its plan. -/
  plan : String
  /-- The statement. -/
  statement : ListedStatement
  /-- Its position in the plan. -/
  position : ℕ

namespace ScriptEntry

variable (x : ScriptEntry)

/-- The comments before it. -/
def remarks : Text := x.statement.remarks x.plan x.position

/-- Its own text. -/
def sql : Text := Text.ofString x.statement.sql

/-- What the comments before it tell. -/
def told : List Text := x.statement.told x.plan

end ScriptEntry

/-- The statements of a script, in order. -/
def scriptEntries (plans : List ListedPlan) : List ScriptEntry :=
  plans.flatMap fun p ↦ p.statements.zipIdx.map fun x ↦ ⟨p.name, x.1, x.2⟩

/-- A script is the statements, each with a semicolon and a blank line behind it and its comments
before it. -/
theorem bytes_scriptText (plans : List ListedPlan) :
    (scriptText plans).bytes = (scriptEntries plans).flatMap fun x ↦
      x.remarks.bytes ++ (x.sql.bytes ++ 0x3B :: [0x0A, 0x0A]) := by
  have hentry (plan : String) (s : ListedStatement) (position : ℕ) :
      (s.writes plan position).flatMap Text.bytes = (s.remarks plan position).bytes ++
        ((Text.ofString s.sql).bytes ++ 0x3B :: [0x0A, 0x0A]) := by
    have hend : (Text.ofString (s.sql ++ ";\n\n")).bytes =
        (Text.ofString s.sql).bytes ++ 0x3B :: [0x0A, 0x0A] := by
      rw [Text.ofString_append, Text.bytes_append, Text.bytes_ofString_eq_flatMap ";\n\n"]
      rfl
    rw [← hend]
    simp [ListedStatement.writes, ListedStatement.remarks, ListedStatement.heading, Text.join]
  rw [scriptText, scriptWrites, scriptEntries, Text.join]
  simp only [List.flatMap_assoc, List.flatMap_map, hentry]
  rfl

/-- Behind comments that are nothing but comments, a script executes the texts of its queries. -/
theorem executed_entries (xs : List ScriptEntry) (htame : ∀ x ∈ xs, e.AllTame x.told)
    (hquery : ∀ x ∈ xs, ∃ (q : Query) (d : Dialect), x.statement.sql = q.render d) :
    e.executed (xs.flatMap fun x ↦ x.remarks.bytes ++ (x.sql.bytes ++ 0x3B :: [0x0A, 0x0A])) =
      some (xs.map fun x ↦ x.sql.bytes) := by
  induction xs with
  | nil => rfl
  | cons x xs ih =>
    obtain ⟨hx, htame⟩ := List.forall_mem_cons.mp htame
    obtain ⟨⟨q, d, hsql⟩, hquery⟩ := List.forall_mem_cons.mp hquery
    have hremarks := (x.statement.tells_remarks e x.plan x.position).run_of_tame hx
    have hblank : LineZone.run e .start [0x0A, 0x0A] = .start := by
      cases e <;> rfl
    have hrest := ih htame hquery
    rw [Engine.executed] at hrest ⊢
    have hsqlBytes : x.sql.bytes = (Text.ofString (q.render d)).bytes := by
      rw [ScriptEntry.sql, hsql]
    rw [List.flatMap_cons, List.append_assoc, List.append_assoc, ScriptEntry.remarks,
      ScriptState.statements_comments hremarks, hsqlBytes, List.cons_append,
      Query.statements_render, ScriptState.statements_comments hblank, hrest, Option.map_some,
      List.map_cons, hsqlBytes]

/-- **A script executes what is listed, unless a name breaks a comment.** A script is its
statements, each with a semicolon and a blank line behind it and with comments before it. All lines
of these are blank or begin with two dashes exactly if every text that is told in them is tame, and
a text is tame if it breaks no line. If all of them are, and the statements are texts of queries, as
compiled statements are, then an engine that executes the script executes these statements in order
and nothing else. -/
theorem scriptText_executed (e : Engine) (plans : List ListedPlan) :
    ((scriptText plans).bytes = (scriptEntries plans).flatMap fun x ↦
      x.remarks.bytes ++ (x.sql.bytes ++ 0x3B :: [0x0A, 0x0A])) ∧
    ((∀ x ∈ scriptEntries plans, e.Remarks x.remarks.bytes) ↔
      ∀ x ∈ scriptEntries plans, ∀ d ∈ x.told, e.Tame d.bytes) ∧
    (∀ d : Text, (∀ b ∈ d.bytes, e.endsLine b = false) → e.Tame d.bytes) ∧
    ((∀ x ∈ scriptEntries plans, ∀ d ∈ x.told, e.Tame d.bytes) →
      (∀ x ∈ scriptEntries plans, ∃ (q : Query) (d : Dialect), x.statement.sql = q.render d) →
      e.executed (scriptText plans).bytes =
        some ((scriptEntries plans).map fun x ↦ x.sql.bytes)) := by
  refine ⟨bytes_scriptText plans, ?_, fun d ↦ Engine.tame_of_unbroken, fun htame hquery ↦ ?_⟩
  · exact forall₂_congr fun x _ ↦ (x.statement.tells_remarks e x.plan x.position).remarks_iff
  · rw [bytes_scriptText]
    exact executed_entries e _ htame hquery

/-- A query over a table of vertices. -/
def plainQuery : Query := .single {
  projections := [⟨⟨.step 0, "ID"⟩, "alias1"⟩], table := ⟨"s", "V_a"⟩, source := .step 0
  joins := [], conditions := [] }

/-- The query under a plan of this name. -/
def planNamed (name : String) : ListedPlan where
  name := name
  source := "x"
  statements := [{
    mode := "regular", leaf := "s.V_a", sql := plainQuery.render ⟨.sqlite, "s", 1, true⟩
    segments := 1, fingerprint := "00" }]

/-- Under a name that breaks the line a script drops a table first; under another it does not. -/
theorem executed_dropTable :
    Engine.sqlite.executed (scriptText [planNamed "p\nDROP TABLE t; --"]).bytes =
      some [(Text.ofString "DROP TABLE t").bytes,
        (Text.ofString (plainQuery.render ⟨.sqlite, "s", 1, true⟩)).bytes] ∧
    (¬∀ x ∈ scriptEntries [planNamed "p\nDROP TABLE t; --"],
      Engine.sqlite.Remarks x.remarks.bytes) ∧
    Engine.sqlite.executed (scriptText [planNamed "p"]).bytes =
      some [(Text.ofString (plainQuery.render ⟨.sqlite, "s", 1, true⟩)).bytes] := by
  refine ⟨by decide +kernel, ?_, ?_⟩
  · rw [(scriptText_executed .sqlite [planNamed "p\nDROP TABLE t; --"]).2.1]
    intro htame
    have hname := htame _ (List.mem_singleton_self _) (Text.ofString "p\nDROP TABLE t; --")
      (List.mem_cons_self ..)
    rw [Engine.tame_iff, Text.bytes_ofString_eq_flatMap] at hname
    revert hname
    decide
  · obtain ⟨-, -, hunbroken, hexecuted⟩ := scriptText_executed .sqlite [planNamed "p"]
    refine hexecuted ?_ ?_
    · intro x hx d hd
      refine hunbroken d ?_
      obtain rfl := List.mem_singleton.mp hx
      have hall : (ScriptEntry.told ⟨"p", (planNamed "p").statements[0], 0⟩).all
          (·.bytes.all fun b ↦ !Engine.sqlite.endsLine b) := by decide +kernel
      have hbytes := List.all_eq_true.mp (List.all_eq_true.mp hall d hd)
      exact fun b hb ↦ Bool.not_eq_true' _ ▸ hbytes b hb
    · intro x hx
      obtain rfl := List.mem_singleton.mp hx
      exact ⟨plainQuery, ⟨.sqlite, "s", 1, true⟩, rfl⟩

end Command

end PathQuery
