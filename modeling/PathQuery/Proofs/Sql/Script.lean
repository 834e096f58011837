import PathQuery.Proofs.Sql.Indentation
import PathQuery.Proofs.Text.Glyphs

/-!
# Scripts

A script is read byte by byte: a semicolon ends a statement, two dashes start a comment that goes on
to the end of the line, and in quotes neither means anything. Which bytes end a line is up to the
engine.

Two things are wanted in a script, and each has a lemma about any script that goes on behind it. A
text whose lines are blank or begin with two dashes is passed over as if it were not there. The text
of a query, with a semicolon behind it, is one statement, to the byte: outside of quotes it has
neither a semicolon nor a dash, whatever names are in it.
-/

namespace PathQuery

/-! ## Lines -/

/-- Whether a byte ends a line, and with it a comment. -/
def Engine.endsLine : Engine → UInt8 → Bool
  | .sqlite, b => b = 0x0A
  | .postgres, b => b = 0x0A || b = 0x0D

/-- Whether a byte is blank: a space, a tab, a form feed or the end of a line. -/
def isBlankByte (b : UInt8) : Bool := b = 0x20 || b = 0x09 || b = 0x0A || b = 0x0C || b = 0x0D

/-- The lines of a text. -/
def Engine.lines (e : Engine) (bytes : List UInt8) : List (List UInt8) := bytes.splitOnP e.endsLine

/-- Whether a line is blank or begins with two dashes. -/
def isRemark (line : List UInt8) : Bool := line.all isBlankByte || [0x2D, 0x2D].isPrefixOf line

/-- Every line of the text is blank or begins with two dashes. -/
def Engine.Remarks (e : Engine) (bytes : List UInt8) : Prop := ∀ line ∈ e.lines bytes, isRemark line

/-- The bytes can stand inside a comment: written in one, with a full stop behind them, they leave
nothing but lines that are blank or begin with two dashes. -/
def Engine.Tame (e : Engine) (bytes : List UInt8) : Prop :=
  e.Remarks (0x2D :: 0x2D :: bytes ++ [0x2E])

theorem Engine.isBlankByte_of_endsLine {e : Engine} {b : UInt8} (h : e.endsLine b) :
    isBlankByte b := by
  cases e <;> simp only [endsLine, isBlankByte, Bool.or_eq_true, decide_eq_true_eq] at h ⊢ <;> tauto

/-- What a line is, as far as it is read. -/
inductive LineZone where
  /-- Nothing is read of it. -/
  | start
  /-- Only blanks are. -/
  | blank
  /-- One dash is. -/
  | dash
  /-- It begins with two dashes. -/
  | remark
  /-- It is neither blank nor does it begin with two dashes, or a line before it was like that. -/
  | stray
  deriving DecidableEq, Repr

namespace LineZone

variable {e : Engine}

/-- What the line is behind a byte. -/
def step (e : Engine) : LineZone → UInt8 → LineZone
  | .stray, _ => .stray
  | .dash, b => if b = 0x2D then .remark else .stray
  | .remark, b => if e.endsLine b then .start else .remark
  | .start, b =>
    if e.endsLine b then .start
    else if isBlankByte b then .blank
    else if b = 0x2D then .dash
    else .stray
  | .blank, b =>
    if e.endsLine b then .start
    else if isBlankByte b then .blank
    else .stray

/-- What the line is behind a text. -/
def run (e : Engine) (z : LineZone) (bytes : List UInt8) : LineZone := bytes.foldl (step e) z

/-- Whether a line may end here. -/
def ends : LineZone → Bool
  | .start | .blank | .remark => true
  | .dash | .stray => false

theorem run_cons (z : LineZone) (b : UInt8) (bytes : List UInt8) :
    run e z (b :: bytes) = run e (step e z b) bytes := rfl

theorem run_append (z : LineZone) (xs ys : List UInt8) :
    run e z (xs ++ ys) = run e (run e z xs) ys := List.foldl_append

@[simp] theorem run_stray (bytes : List UInt8) : run e .stray bytes = .stray := by
  induction bytes with
  | nil => rfl
  | cons b bytes ih => exact ih

/-- A comment goes on over what does not end the line. -/
theorem run_remark {bytes : List UInt8} (h : ∀ b ∈ bytes, e.endsLine b = false) :
    run e .remark bytes = .remark := by
  induction bytes with
  | nil => rfl
  | cons b bytes ih =>
    obtain ⟨hb, hbytes⟩ := List.forall_mem_cons.mp h
    have hstep : step e .remark b = .remark := by rw [step, hb]; rfl
    rw [run_cons, hstep, ih hbytes]

theorem ends_run_blank {bytes : List UInt8} (h : ∀ b ∈ bytes, e.endsLine b = false) :
    (run e .blank bytes).ends = bytes.all isBlankByte := by
  induction bytes with
  | nil => rfl
  | cons b bytes ih =>
    obtain ⟨hb, hbytes⟩ := List.forall_mem_cons.mp h
    rw [run_cons, step, hb, if_neg Bool.false_ne_true, List.all_cons]
    by_cases hblank : isBlankByte b
    · rw [if_pos hblank, hblank, Bool.true_and, ih hbytes]
    · rw [if_neg hblank, Bool.eq_false_iff.mpr hblank, Bool.false_and, run_stray, ends]

/-- A line that is read may end exactly if it is blank or begins with two dashes. -/
theorem ends_run_start {line : List UInt8} (h : ∀ b ∈ line, e.endsLine b = false) :
    (run e .start line).ends = isRemark line := by
  cases line with
  | nil => rfl
  | cons b line =>
    obtain ⟨hb, hline⟩ := List.forall_mem_cons.mp h
    rw [run_cons, step, hb, if_neg Bool.false_ne_true, isRemark, List.all_cons]
    by_cases hblank : isBlankByte b
    · have hdash : (0x2D == b) = false := by
        refine beq_eq_false_iff_ne.mpr fun hb ↦ ?_
        subst hb
        exact absurd hblank (by decide)
      rw [if_pos hblank, hblank, Bool.true_and, List.isPrefixOf, hdash, Bool.false_and,
        Bool.or_false, ends_run_blank hline]
    · rw [if_neg hblank, Bool.eq_false_iff.mpr hblank, Bool.false_and, Bool.false_or]
      by_cases hdash : b = 0x2D
      · subst hdash
        rw [if_pos rfl]
        cases line with
        | nil => rfl
        | cons c line =>
          rw [run_cons, step]
          by_cases hc : c = 0x2D
          · subst hc
            rw [if_pos rfl, run_remark (List.forall_mem_cons.mp hline).2]
            rfl
          · rw [if_neg hc, run_stray]
            simp [List.isPrefixOf, ends, Ne.symm hc]
      · rw [if_neg hdash, run_stray]
        simp [List.isPrefixOf, ends, Ne.symm hdash]

theorem step_of_endsLine {z : LineZone} {b : UInt8} (hz : z.ends) (hb : e.endsLine b) :
    step e z b = .start := by
  cases z with
  | dash | stray => cases hz
  | _ => rw [step, if_pos hb]

theorem step_eq_stray {z : LineZone} {b : UInt8} (hz : z.ends = false) (hb : e.endsLine b) :
    step e z b = .stray := by
  have hdash : b ≠ 0x2D := by
    rintro rfl
    exact absurd (Engine.isBlankByte_of_endsLine hb) (by decide)
  cases z with
  | dash => rw [step, if_neg hdash]
  | stray => rfl
  | _ => cases hz

/-- **Lines are checked in one pass.** -/
theorem remarks_iff (bytes : List UInt8) : e.Remarks bytes ↔ (run e .start bytes).ends := by
  -- the line that is being read is the first of those to come, behind what is read of it
  have hpass : ∀ (bytes line : List UInt8), (∀ b ∈ line, e.endsLine b = false) →
      ((∀ l ∈ (e.lines bytes).modifyHead (line ++ ·), isRemark l) ↔
        (run e .start (line ++ bytes)).ends) := by
    intro bytes
    induction bytes with
    | nil =>
      intro line hline
      rw [Engine.lines, List.splitOnP_nil, List.modifyHead_cons, List.forall_mem_singleton,
        List.append_nil, ends_run_start hline]
    | cons b bytes ih =>
      intro line hline
      rw [Engine.lines, List.splitOnP_cons_eq_if_modifyHead]
      by_cases hb : e.endsLine b
      · have hrest := ih [] (List.forall_mem_nil _)
        rw [show (fun l : List UInt8 ↦ [] ++ l) = id from rfl, List.modifyHead_id] at hrest
        rw [if_pos hb, List.modifyHead_cons, List.append_nil, List.forall_mem_cons,
          ← ends_run_start hline, run_append, run_cons]
        cases hends : (run e .start line).ends with
        | true =>
          rw [step_of_endsLine hends hb]
          exact (and_iff_right rfl).trans hrest
        | false =>
          rw [step_eq_stray hends hb]
          rw [run_stray]
          exact iff_of_false (fun h ↦ Bool.false_ne_true h.1) Bool.false_ne_true
      · have hmore := ih (line ++ [b]) fun x hx ↦ by
          rcases List.mem_append.mp hx with hx | hx
          · exact hline x hx
          · rw [List.mem_singleton.mp hx]
            exact Bool.eq_false_iff.mpr hb
        have hhead : ((fun l ↦ line ++ l) ∘ List.cons b) = fun l ↦ line ++ [b] ++ l := by
          funext l
          exact List.append_cons line b l
        rw [if_neg hb, List.modifyHead_modifyHead, hhead, List.append_cons line b bytes]
        exact hmore
  have hall := hpass bytes [] (List.forall_mem_nil _)
  rw [show (fun l : List UInt8 ↦ [] ++ l) = id from rfl, List.modifyHead_id] at hall
  exact hall

/-- Behind a full stop a comment goes on exactly if it went on before. -/
theorem ends_step_stop (z : LineZone) : (step e z 0x2E).ends ↔ z = .remark := by
  cases e <;> cases z <;> decide

end LineZone

/-- Bytes can stand in a comment exactly if it goes on behind them. -/
theorem Engine.tame_iff {e : Engine} {bytes : List UInt8} :
    e.Tame bytes ↔ LineZone.run e .remark bytes = .remark := by
  have hdashes : LineZone.run e .start [0x2D, 0x2D] = .remark := by
    cases e <;> rfl
  have hcomment : LineZone.run e .start (0x2D :: 0x2D :: bytes) = LineZone.run e .remark bytes := by
    rw [← hdashes, ← LineZone.run_append]
    rfl
  rw [Tame, LineZone.remarks_iff, LineZone.run_append, hcomment]
  exact LineZone.ends_step_stop _

/-- What breaks no line can stand in a comment. -/
theorem Engine.tame_of_unbroken {e : Engine} {bytes : List UInt8}
    (h : ∀ b ∈ bytes, e.endsLine b = false) : e.Tame bytes :=
  tame_iff.mpr (LineZone.run_remark h)

/-! ## Statements -/

/-- Where in a script a byte stands. -/
inductive ScriptZone where
  /-- Outside of quotes and comments. -/
  | code
  /-- Behind a dash outside of quotes. -/
  | dash
  /-- In a comment. -/
  | remark
  /-- In a quoted name. -/
  | name
  /-- In a string literal. -/
  | literal
  /-- Behind what may open a comment or a quote of another kind. -/
  | lost
  deriving DecidableEq, Repr

/-- How far a script is read. -/
structure ScriptState where
  /-- Where the next byte stands. -/
  zone : ScriptZone := .code
  /-- What is read of a statement that is not complete, without comments. -/
  read : List UInt8 := []
  deriving DecidableEq, Repr

namespace ScriptState

/-- The statements that a byte outside of quotes and comments completes, and what it leads to. What
slashes, brackets and backticks open is not read any further. -/
def enter (read : List UInt8) (b : UInt8) : List (List UInt8) × ScriptState :=
  if b = 0x3B then (if read.isEmpty then [] else [read], {})
  else if b = 0x2D then ([], ⟨.dash, read⟩)
  else if b = 0x22 then ([], ⟨.name, read ++ [b]⟩)
  else if b = 0x27 then ([], ⟨.literal, read ++ [b]⟩)
  else if b = 0x2F || b = 0x5B || b = 0x60 then ([], ⟨.lost, read⟩)
  else if isBlankByte b && read.isEmpty then ([], ⟨.code, read⟩)
  else ([], ⟨.code, read ++ [b]⟩)

/-- The statements that a byte completes, and what it leads to. -/
def step (e : Engine) : ScriptState → UInt8 → List (List UInt8) × ScriptState
  | ⟨.code, read⟩, b => enter read b
  | ⟨.dash, read⟩, b => if b = 0x2D then ([], ⟨.remark, read⟩) else enter (read ++ [0x2D]) b
  | ⟨.remark, read⟩, b => if e.endsLine b then enter read b else ([], ⟨.remark, read⟩)
  | ⟨.name, read⟩, b => ([], ⟨if b = 0x22 then .code else .name, read ++ [b]⟩)
  | ⟨.literal, read⟩, b => ([], ⟨if b = 0x27 then .code else .literal, read ++ [b]⟩)
  | ⟨.lost, read⟩, _ => ([], ⟨.lost, read⟩)

/-- The statement that the end of a script completes; there is no answer if quotes are left open. -/
def finish : ScriptState → Option (List (List UInt8))
  | ⟨.code, read⟩ | ⟨.remark, read⟩ => some (if read.isEmpty then [] else [read])
  | ⟨.dash, read⟩ => some [read ++ [0x2D]]
  | ⟨.name, _⟩ | ⟨.literal, _⟩ | ⟨.lost, _⟩ => none

/-- The statements of a script that is read up to here. -/
def statements (e : Engine) : ScriptState → List UInt8 → Option (List (List UInt8))
  | s, [] => s.finish
  | s, b :: bytes => (statements e (s.step e b).2 bytes).map ((s.step e b).1 ++ ·)

end ScriptState

/-- The statements that an engine finds in a script and executes, in order. -/
def Engine.executed (e : Engine) (script : List UInt8) : Option (List (List UInt8)) :=
  ScriptState.statements e {} script

namespace ScriptState

variable {e : Engine}

/-- A byte that completes no statement is only a step to the next state. -/
theorem statements_cons_of_silent {s s' : ScriptState} {b : UInt8} (h : s.step e b = ([], s'))
    (bytes : List UInt8) : statements e s (b :: bytes) = statements e s' bytes := by
  rw [statements, h]
  exact Option.map_id'

/-! ### Passing over comments -/

/-- What is read of a statement when a line is like that: nothing. -/
def ofLine : LineZone → ScriptState
  | .start | .blank => ⟨.code, []⟩
  | .dash => ⟨.dash, []⟩
  | .remark => ⟨.remark, []⟩
  | .stray => ⟨.lost, []⟩

theorem enter_of_isBlankByte {b : UInt8} (h : isBlankByte b) : enter [] b = ([], ⟨.code, []⟩) := by
  simp only [isBlankByte, Bool.or_eq_true, decide_eq_true_eq] at h
  rcases h with (((rfl | rfl) | rfl) | rfl) | rfl <;> rfl

theorem ofLine_step_of_isBlankByte {z : LineZone} {b : UInt8} (hz : ofLine z = ⟨.code, []⟩)
    (hb : isBlankByte b) : ofLine (z.step e b) = ⟨.code, []⟩ := by
  cases z with
  | dash | remark | stray => cases hz
  | start | blank =>
    rw [LineZone.step, if_pos hb]
    by_cases hends : e.endsLine b
    · rw [if_pos hends, ofLine]
    · rw [if_neg hends, ofLine]

/-- A byte that leaves the line no stray one is not read. -/
theorem step_ofLine {z : LineZone} {b : UInt8} (h : z.step e b ≠ .stray) :
    (ofLine z).step e b = ([], ofLine (z.step e b)) := by
  by_cases hskip : ofLine z = ⟨.code, []⟩ ∧ isBlankByte b
  · rw [ofLine_step_of_isBlankByte hskip.1 hskip.2, hskip.1, step, enter_of_isBlankByte hskip.2]
  -- a line that is blank so far goes on with a byte that is not, so it has to begin with a dash
  have hbreak (hz : ofLine z = ⟨.code, []⟩) : ¬e.endsLine b := fun hends ↦
    hskip ⟨hz, Engine.isBlankByte_of_endsLine hends⟩
  cases z with
  | stray => exact absurd rfl h
  | dash =>
    rw [LineZone.step] at h ⊢
    by_cases hdash : b = 0x2D
    · rw [if_pos hdash, ofLine, step, if_pos hdash, ofLine]
    · exact absurd (if_neg hdash) h
  | remark =>
    rw [LineZone.step, ofLine, step]
    by_cases hends : e.endsLine b
    · rw [if_pos hends, if_pos hends, enter_of_isBlankByte (Engine.isBlankByte_of_endsLine hends),
        ofLine]
    · rw [if_neg hends, if_neg hends, ofLine]
  | start =>
    have hblank : ¬isBlankByte b := fun hb ↦ hskip ⟨rfl, hb⟩
    rw [LineZone.step, if_neg (hbreak rfl), if_neg hblank] at h ⊢
    by_cases hdash : b = 0x2D
    · subst hdash
      rfl
    · exact absurd (if_neg hdash) h
  | blank =>
    have hblank : ¬isBlankByte b := fun hb ↦ hskip ⟨rfl, hb⟩
    rw [LineZone.step, if_neg (hbreak rfl), if_neg hblank] at h
    exact absurd rfl h

/-- Reading a script goes on behind lines without a stray one as if they were not there. -/
theorem statements_ofLine (rest : List UInt8) {z : LineZone} {bytes : List UInt8}
    (h : z.run e bytes ≠ .stray) :
    statements e (ofLine z) (bytes ++ rest) = statements e (ofLine (z.run e bytes)) rest := by
  induction bytes generalizing z with
  | nil => rfl
  | cons b bytes ih =>
    rw [LineZone.run_cons] at h ⊢
    have hstep : z.step e b ≠ .stray := fun hstray ↦ by
      rw [hstray, LineZone.run_stray] at h
      exact h rfl
    rw [List.cons_append, statements_cons_of_silent (step_ofLine hstep), ih h]

/-- **Comments are passed over.** -/
theorem statements_comments {bytes : List UInt8} (h : LineZone.run e .start bytes = .start)
    (rest : List UInt8) : statements e {} (bytes ++ rest) = statements e {} rest := by
  have hpass := statements_ofLine rest (h.trans_ne (by decide))
  rw [h] at hpass
  exact hpass

/-! ### Statement texts -/

/-- Whether a byte in this zone neither leads out of it nor is left out. -/
def plain : ScriptZone → UInt8 → Bool
  | .code, b => b ≠ 0x3B && b ≠ 0x2D && b ≠ 0x22 && b ≠ 0x27 && b ≠ 0x2F && b ≠ 0x5B && b ≠ 0x60
  | .name, b => b ≠ 0x22
  | .literal, b => b ≠ 0x27
  | _, _ => false

theorem step_of_plain {zone : ScriptZone} {b : UInt8} (h : plain zone b) {read : List UInt8}
    (hread : read ≠ []) : step e ⟨zone, read⟩ b = ([], ⟨zone, read ++ [b]⟩) := by
  cases zone with
  | dash | remark | lost => cases h
  | name | literal =>
    rw [plain, decide_eq_true_eq] at h
    rw [step, if_neg h]
  | code =>
    simp only [plain, Bool.and_eq_true, decide_eq_true_eq] at h
    simp [step, enter, h, hread]

/-- Plain bytes are read as they are. -/
theorem statements_plain {zone : ScriptZone} {bytes : List UInt8} (h : ∀ b ∈ bytes, plain zone b)
    {read : List UInt8} (hread : read ≠ []) (rest : List UInt8) :
    statements e ⟨zone, read⟩ (bytes ++ rest) = statements e ⟨zone, read ++ bytes⟩ rest := by
  induction bytes generalizing read with
  | nil => rw [List.nil_append, List.append_nil]
  | cons b bytes ih =>
    obtain ⟨hb, hbytes⟩ := List.forall_mem_cons.mp h
    rw [List.cons_append, statements_cons_of_silent (step_of_plain hb hread),
      ih hbytes (List.append_ne_nil_of_left_ne_nil hread _), List.append_assoc,
      List.singleton_append]

/-- The zone of a script in which a character of a statement's text stands. -/
def zoneOf : LexZone → ScriptZone
  | .code | .closing _ => .code
  | .literal => .literal
  | .name _ => .name

section Character

variable {c : Char} {read : List UInt8} (hread : read ≠ []) (rest : List UInt8)

include hread

/-- Outside of quotes a harmless character is read as it is, and a quote opens what it opens. -/
theorem statements_enter (h : ∀ x, .mark x ∈ (LexZone.enter c).1 → harmless x) :
    statements e ⟨.code, read⟩ (String.utf8EncodeChar c ++ rest) =
      statements e ⟨zoneOf (LexZone.enter c).2, read ++ String.utf8EncodeChar c⟩ rest := by
  by_cases hname : c = '"'
  · subst hname
    exact statements_cons_of_silent rfl rest
  · rw [LexZone.enter, if_neg hname] at h ⊢
    by_cases hliteral : c = '\''
    · subst hliteral
      exact statements_cons_of_silent rfl rest
    · have hc := h c (List.mem_singleton_self _)
      simp only [harmless, Bool.and_eq_true, decide_eq_true_eq] at hc
      obtain ⟨⟨⟨⟨hend, hdash⟩, hslash⟩, hbracket⟩, hbacktick⟩ := hc
      rw [if_neg hliteral]
      refine statements_plain (fun b hb ↦ ?_) hread rest
      have hne {k : Char} (hk : k.val.toNat < 0x80) (hck : c ≠ k) : b ≠ UInt8.ofNat k.val.toNat :=
        Text.ne_of_mem_utf8EncodeChar hk hck hb
      simp only [plain, Bool.and_eq_true, decide_eq_true_eq]
      exact ⟨⟨⟨⟨⟨⟨hne (by decide) hend, hne (by decide) hdash⟩, hne (by decide) hname⟩,
        hne (by decide) hliteral⟩, hne (by decide) hslash⟩, hne (by decide) hbracket⟩,
        hne (by decide) hbacktick⟩

/-- A character leads to the same place in a script as in the text of a statement. -/
theorem statements_char {z : LexZone} (h : ∀ x, .mark x ∈ (z.step c).1 → harmless x) :
    statements e ⟨zoneOf z, read⟩ (String.utf8EncodeChar c ++ rest) =
      statements e ⟨zoneOf (z.step c).2, read ++ String.utf8EncodeChar c⟩ rest := by
  cases z with
  | code => exact statements_enter hread rest h
  | closing name =>
    rw [LexZone.step] at h ⊢
    by_cases hc : c = '"'
    · subst hc
      exact statements_cons_of_silent rfl rest
    · rw [if_neg hc] at h ⊢
      exact statements_enter hread rest fun x hx ↦ h x (List.mem_cons_of_mem _ hx)
  | name name =>
    rw [LexZone.step]
    by_cases hc : c = '"'
    · subst hc
      exact statements_cons_of_silent rfl rest
    · rw [if_neg hc]
      have hplain : ∀ b ∈ String.utf8EncodeChar c, plain .name b := fun b hb ↦
        decide_eq_true (Text.ne_of_mem_utf8EncodeChar (k := '"') (by decide) hc hb)
      exact statements_plain hplain hread rest
  | literal =>
    rw [LexZone.step]
    by_cases hc : c = '\''
    · subst hc
      exact statements_cons_of_silent rfl rest
    · rw [if_neg hc]
      have hplain : ∀ b ∈ String.utf8EncodeChar c, plain .literal b := fun b hb ↦
        decide_eq_true (Text.ne_of_mem_utf8EncodeChar (k := '\'') (by decide) hc hb)
      exact statements_plain hplain hread rest

end Character

/-- What can be read by itself and is harmless outside of names is read as it is. -/
theorem statements_lex {z : LexZone} {cs : List Char} {ls : List Lexeme}
    (h : LexZone.lex z cs = some ls) (hharmless : Lexeme.Harmless ls) {read : List UInt8}
    (hread : read ≠ []) (rest : List UInt8) :
    statements e ⟨zoneOf z, read⟩ (cs.flatMap String.utf8EncodeChar ++ rest) =
      statements e ⟨.code, read ++ cs.flatMap String.utf8EncodeChar⟩ rest := by
  induction cs generalizing z ls read with
  | nil =>
    rw [List.flatMap_nil, List.nil_append, List.append_nil]
    cases z with
    | code | closing name => rfl
    | literal | name name => cases h
  | cons c cs ih =>
    rw [LexZone.lex, Option.map_eq_some_iff] at h
    obtain ⟨ls', hls', rfl⟩ := h
    rw [List.flatMap_cons, List.append_assoc, statements_char hread _ fun x hx ↦
        hharmless x (List.mem_append_left _ hx),
      ih hls' (fun x hx ↦ hharmless x (List.mem_append_right _ hx))
        (List.append_ne_nil_of_left_ne_nil hread _), List.append_assoc]

end ScriptState

/-- The text of derived tables can be read by itself. -/
theorem SplitSelect.exists_recited (q : SplitSelect) (d : Dialect) :
    ∃ names, Fragment.Recited d false names (q.fragments d) := by
  obtain ⟨front, lead, trail, back, before, after, hfragments, hbefore, hafter, -⟩ :=
    q.exists_fragments_eq d (n := 0) (s := q.first) rfl
  rw [hfragments]
  exact ⟨_, (hbefore.append (q.first.recited d false).indentAll).append hafter⟩

/-- Outside of names the text of a query is harmless. It begins with a letter. -/
theorem Query.exists_lex (q : Query) (d : Dialect) : ∃ cs ls, (q.render d).toList = 'S' :: cs ∧
    LexZone.lex .code cs = some ls ∧ Lexeme.Harmless ls := by
  obtain ⟨names, hrecited⟩ : ∃ names, Fragment.Recited d false names (q.fragments d) := by
    cases q with
    | single s => exact ⟨_, s.recited d false⟩
    | split s => exact s.exists_recited d
  obtain ⟨ls, hls, -, hharmless, -⟩ := hrecited 0
  obtain ⟨cs, hcs⟩ : ∃ cs, Fragment.chars d 0 (q.fragments d) = 'S' :: cs := by
    cases q <;> exact ⟨_, rfl⟩
  have hstep : LexZone.step .code 'S' = ([.mark 'S'], .code) := rfl
  rw [hcs, LexZone.lex_cons_of_step hstep, Option.map_eq_some_iff] at hls
  obtain ⟨ls', hls', rfl⟩ := hls
  exact ⟨cs, ls', (Fragment.toList_render d _).trans hcs, hls',
    fun c hc ↦ hharmless c (List.mem_cons_of_mem _ hc)⟩

/-- **The text of a query is one statement of a script.** -/
theorem Query.statements_render (e : Engine) (q : Query) (d : Dialect) (rest : List UInt8) :
    ScriptState.statements e {} ((Text.ofString (q.render d)).bytes ++ 0x3B :: rest) =
      (ScriptState.statements e {} rest).map ((Text.ofString (q.render d)).bytes :: ·) := by
  obtain ⟨cs, ls, hcs, hls, hharmless⟩ := q.exists_lex d
  have hbytes : (Text.ofString (q.render d)).bytes =
      [0x53] ++ cs.flatMap String.utf8EncodeChar := by
    rw [Text.bytes_ofString_eq_flatMap, hcs]
    rfl
  have hopen : ScriptState.step e {} 0x53 = ([], ⟨.code, [0x53]⟩) := rfl
  have hnonempty : ([0x53] : List UInt8) ≠ [] := List.cons_ne_nil _ _
  have hread := ScriptState.statements_lex (e := e) hls hharmless hnonempty (0x3B :: rest)
  rw [hbytes, List.append_assoc, List.singleton_append,
    ScriptState.statements_cons_of_silent hopen]
  exact hread

end PathQuery
