import Mathlib.Data.List.Nodup
import PathQuery.Toml.Document

/-!
# Documents written line by line

A document of assignments and of sections, each a header with assignments below it, every one of
them on a line of its own, is read back as what was written. Reading takes the text apart line by
line, provided that each value is read as itself when its line ends behind it. Carrying out the
lines puts each entry at the end of the table that is open, provided that no key comes twice.
-/

namespace PathQuery.Toml

/-! ## Blanks and comments -/

/-- A character between statements. -/
def isBlank (c : Char) : Bool := isSpace c || isBreak c

section
variable {c : Char} {cs rest lead line : List Char} {fuel : ℕ}

theorem skipLines_succ : skipLines (fuel + 1) cs =
    match cs.dropWhile isBlank with
    | '#' :: rest => skipLines fuel (skipComment rest)
    | rest => rest := rfl

/-- Lines are skipped up to a character that starts no comment and is no blank. -/
theorem skipLines_of_blank (hlead : ∀ c ∈ lead, isBlank c = true) (hc : isBlank c = false)
    (hhash : c ≠ '#') (fuel : ℕ) (rest : List Char) :
    skipLines (fuel + 1) (lead ++ c :: rest) = c :: rest := by
  rw [skipLines_succ, List.dropWhile_append_of_pos hlead, List.dropWhile_cons_of_neg (by simp [hc])]
  split
  · next h =>
    cases h
    exact absurd rfl hhash
  · rfl

theorem skipLines_of_all_blank (hlead : ∀ c ∈ lead, isBlank c = true) :
    skipLines (fuel + 1) lead = [] := by
  have hdrop : (lead ++ []).dropWhile isBlank = [] := List.dropWhile_append_of_pos hlead
  rw [List.append_nil] at hdrop
  rw [skipLines_succ, hdrop]

/-- A comment is skipped up to the end of its line. -/
theorem skipLines_comment (hlead : ∀ c ∈ lead, isBlank c = true)
    (hline : ∀ c ∈ line, isBreak c = false) (fuel : ℕ) (rest : List Char) :
    skipLines (fuel + 1) (lead ++ '#' :: line ++ '\n' :: rest) = skipLines fuel ('\n' :: rest) := by
  have hcomment : skipComment (line ++ '\n' :: rest) = '\n' :: rest := by
    rw [skipComment, List.dropWhile_append_of_pos (by simpa using hline),
      List.dropWhile_cons_of_neg (by decide)]
  rw [List.append_assoc, skipLines_succ, List.dropWhile_append_of_pos hlead, List.cons_append,
    List.dropWhile_cons_of_neg (by decide)]
  exact congrArg (skipLines fuel) hcomment

/-- Lines of comments with an empty line below them are skipped. -/
theorem skipLines_preface {comments : List (List Char)}
    (hlines : ∀ line ∈ comments, ∀ c ∈ line, isBreak c = false)
    (hlead : ∀ c ∈ lead, isBlank c = true) (hc : isBlank c = false) (hhash : c ≠ '#') (fuel : ℕ)
    (rest : List Char) :
    skipLines (comments.length + fuel + 1)
      (lead ++ (comments.flatMap fun line ↦ '#' :: (line ++ ['\n'])) ++ '\n' :: c :: rest) =
        c :: rest := by
  induction comments generalizing lead with
  | nil =>
    have hblank : ∀ d ∈ lead ++ ['\n'], isBlank d = true := fun d hd ↦
      (List.mem_append.mp hd).elim (hlead d) fun hd ↦ List.mem_singleton.mp hd ▸ rfl
    have hskip := skipLines_of_blank hblank hc hhash fuel rest
    simpa using hskip
  | cons line comments ih =>
    obtain ⟨hline, hrest⟩ := List.forall_mem_cons.mp hlines
    have hskip := skipLines_comment hlead hline (comments.length + fuel + 1)
      ((comments.flatMap fun line ↦ '#' :: (line ++ ['\n'])) ++ '\n' :: c :: rest)
    have hnext := ih hrest (show ∀ d ∈ ['\n'], isBlank d = true from List.forall_mem_singleton.mpr rfl)
    rw [List.length_cons, Nat.add_right_comm comments.length 1 fuel]
    simp only [List.flatMap_cons, List.append_assoc, List.cons_append, List.nil_append] at hskip hnext ⊢
    rw [hskip, hnext]

theorem skipSpaces_of_not (h : isSpace c = false) : skipSpaces (c :: rest) = c :: rest := by
  rw [skipSpaces, List.dropWhile_cons_of_neg (by simp [h])]

end

/-! ## Keys, headers and assignments -/

/-- A key that needs no quotes. -/
def IsBare (key : String) : Prop := key ≠ "" ∧ ∀ c ∈ key.toList, isBareKey c = true

/-- A text that is read as a value when its line ends behind it. -/
def ReadsAs (text : List Char) (value : Literal) : Prop :=
  ∀ fuel rest, readValue (fuel + 1) (' ' :: (text ++ '\n' :: rest)) = some (value, '\n' :: rest)

section
variable {key : String} {c d : Char} {rest rest' text : List Char} {fuel : ℕ} {value : Literal}

theorem not_quote_of_isBareKey (h : isBareKey c = true) : c ≠ '"' ∧ c ≠ '\'' := by
  constructor <;> rintro rfl <;> exact absurd h (by decide)

theorem readKeyPart_bare (hkey : IsBare key) (hc : isBareKey c = false) :
    readKeyPart (key.toList ++ c :: rest) = some (key, c :: rest) := by
  obtain ⟨first, more, hchars⟩ :=
    List.exists_cons_of_ne_nil (mt String.toList_eq_nil_iff.mp hkey.1)
  have hquote := not_quote_of_isBareKey (hkey.2 first (hchars ▸ List.mem_cons_self))
  have hrun : (key.toList ++ c :: rest).takeWhile isBareKey = key.toList := by
    rw [List.takeWhile_append_of_pos hkey.2, List.takeWhile_cons_of_neg (by simp [hc]),
      List.append_nil]
  have hne : key.toList.isEmpty = false := by rw [hchars]; rfl
  rw [readKeyPart.eq_def]
  split
  · next h =>
    rw [hchars, List.cons_append] at h
    exact absurd (List.cons.inj h).1 hquote.1
  · next h =>
    rw [hchars, List.cons_append] at h
    exact absurd (List.cons.inj h).1 hquote.2
  · simp [hrun, hne]

/-- A key without quotes and points is read up to what follows it. -/
theorem readKey_bare (hkey : IsBare key) (hc : isBareKey c = false)
    (hnext : skipSpaces (c :: rest) = d :: rest') (hd : d ≠ '.') (fuel : ℕ) :
    readKey (fuel + 1) (key.toList ++ c :: rest) = some ([key], d :: rest') := by
  have hskip : skipSpaces (key.toList ++ c :: rest) = key.toList ++ c :: rest := by
    obtain ⟨first, more, hchars⟩ :=
      List.exists_cons_of_ne_nil (mt String.toList_eq_nil_iff.mp hkey.1)
    have hfirst := hkey.2 first (hchars ▸ List.mem_cons_self)
    rw [hchars]
    refine skipSpaces_of_not (Bool.eq_false_iff.mpr fun hspace ↦ ?_)
    simp only [isSpace, Bool.or_eq_true, decide_eq_true_eq] at hspace
    obtain rfl | rfl := hspace <;> exact absurd hfirst (by decide)
  simp only [readKey, hskip, readKeyPart_bare hkey hc, hnext, Option.bind_eq_bind,
    Option.bind_some]
  split
  · next h =>
    cases h
    exact absurd rfl hd
  · rfl

theorem readAssignment_eq (hkey : IsBare key) (hvalue : ReadsAs text value) (rest : List Char) :
    readAssignment (key.toList ++ ' ' :: '=' :: ' ' :: (text ++ '\n' :: rest)) =
      some (.assign [key] value, '\n' :: rest) := by
  have hnext : skipSpaces (' ' :: '=' :: ' ' :: (text ++ '\n' :: rest)) =
    '=' :: ' ' :: (text ++ '\n' :: rest) := rfl
  have hread := readKey_bare hkey (by decide) hnext (by decide)
    (key.toList ++ ' ' :: '=' :: ' ' :: (text ++ '\n' :: rest)).length
  rw [readAssignment, hread]
  simp only [Option.bind_eq_bind, Option.bind_some, hvalue _ rest]
  rfl

theorem readHeader_eq (hkey : IsBare key) :
    readHeader (key.toList ++ ']' :: '\n' :: rest) = some (.header [key] false, '\n' :: rest) := by
  have hnext : skipSpaces (']' :: '\n' :: rest) = ']' :: '\n' :: rest := rfl
  have hread := readKey_bare hkey (by decide) hnext (by decide)
    (key.toList ++ ']' :: '\n' :: rest).length
  rw [readHeader.eq_def]
  split
  · next h =>
    obtain ⟨first, more, hchars⟩ :=
      List.exists_cons_of_ne_nil (mt String.toList_eq_nil_iff.mp hkey.1)
    rw [hchars, List.cons_append] at h
    have hfirst := hkey.2 first (hchars ▸ List.mem_cons_self)
    rw [(List.cons.inj h).1] at hfirst
    exact absurd hfirst (by decide)
  · rw [hread]
    rfl

end

/-! ## Lines -/

/-- A statement on a line of its own, behind blanks. -/
structure Line where
  /-- The blanks before it, which may be lines without a statement. -/
  lead : List Char
  /-- The statement as it is written. -/
  text : List Char
  /-- The statement. -/
  statement : Statement

namespace Line

/-- The line with its end. -/
def chars (l : Line) : List Char := l.lead ++ (l.text ++ ['\n'])

/-- The line of a header, below an empty one. -/
def header (name : String) : Line :=
  ⟨['\n'], '[' :: (name.toList ++ [']']), .header [name] false⟩

/-- The line of an assignment, so far from the margin. -/
def assignment (margin : ℕ) (key : String) (text : List Char) (value : Literal) : Line :=
  ⟨List.replicate margin ' ', key.toList ++ ' ' :: '=' :: ' ' :: text, .assign [key] value⟩

/-- A line that is read as its statement. -/
structure Fits (l : Line) : Prop where
  /-- What is before the statement is skipped. -/
  lead : ∀ c ∈ l.lead, isBlank c = true
  /-- What is read at the start of the statement is the statement, up to the end of the line. -/
  text : ∃ c more, l.text = c :: more ∧ isBlank c = false ∧ c ≠ '#' ∧ ∀ rest,
    (if c = '[' then readHeader (more ++ '\n' :: rest)
      else readAssignment (c :: more ++ '\n' :: rest)) = some (l.statement, '\n' :: rest)

theorem not_blank_of_isBareKey {c : Char} (h : isBareKey c = true) :
    isBlank c = false ∧ c ≠ '#' ∧ c ≠ '[' := by
  refine ⟨Bool.eq_false_iff.mpr fun hblank ↦ ?_, ?_, ?_⟩
  · simp only [isBlank, isSpace, isBreak, Bool.or_eq_true, decide_eq_true_eq] at hblank
    obtain (rfl | rfl) | rfl | rfl := hblank <;> exact absurd h (by decide)
  all_goals rintro rfl; exact absurd h (by decide)

theorem fits_header {name : String} (hname : IsBare name) : (header name).Fits where
  lead := by simp [header, isBlank, isBreak]
  text := by
    refine ⟨'[', name.toList ++ [']'], rfl, by decide, by decide, fun rest ↦ ?_⟩
    rw [if_pos rfl, List.append_assoc]
    exact readHeader_eq hname

theorem fits_assignment {margin : ℕ} {key : String} {text : List Char} {value : Literal}
    (hkey : IsBare key) (hvalue : ReadsAs text value) :
    (assignment margin key text value).Fits where
  lead c hc := by rw [List.eq_of_mem_replicate hc]; rfl
  text := by
    obtain ⟨first, more, hchars⟩ :=
      List.exists_cons_of_ne_nil (mt String.toList_eq_nil_iff.mp hkey.1)
    obtain ⟨hblank, hhash, hbracket⟩ :=
      not_blank_of_isBareKey (hkey.2 first (hchars ▸ List.mem_cons_self))
    refine ⟨first, more ++ ' ' :: '=' :: ' ' :: text, ?_, hblank, hhash, fun rest ↦ ?_⟩
    · rw [assignment, hchars, List.cons_append]
    · have hread := readAssignment_eq hkey hvalue rest
      rw [if_neg hbracket]
      rw [hchars] at hread
      simpa [assignment] using hread

end Line

/-- A statement is read off its line, and reading goes on at the end of the line. -/
theorem readStatements_line {l : Line} (h : l.Fits) {lead rest : List Char} {fuel : ℕ}
    (hlead : ∀ c ∈ lead, isBlank c = true) :
    readStatements (fuel + 1) (lead ++ l.chars ++ rest) =
      (readStatements fuel ('\n' :: rest)).map (l.statement :: ·) := by
  obtain ⟨c, more, htext, hblank, hhash, hread⟩ := h.text
  have hall : ∀ d ∈ lead ++ l.lead, isBlank d = true := fun d hd ↦
    (List.mem_append.mp hd).elim (hlead d) (h.lead d)
  have hchars : lead ++ l.chars ++ rest = (lead ++ l.lead) ++ c :: (more ++ '\n' :: rest) := by
    simp [Line.chars, htext]
  rw [readStatements, hchars, skipLines_of_blank hall hblank hhash]
  have hstatement := hread rest
  rw [List.cons_append] at hstatement
  dsimp only
  have hend : skipSpaces ('\n' :: rest) = '\n' :: rest := skipSpaces_of_not (by decide)
  have hbreak : (decide ('\n' = '#') || isBreak '\n') = true := by decide
  split_ifs at hstatement ⊢ <;>
    simp only [hstatement, Option.bind_eq_bind, Option.bind_some, hend, if_pos hbreak] <;>
    rcases readStatements fuel ('\n' :: rest) with _ | statements <;> rfl

/-- Lines are read one after the other. -/
theorem readStatements_lines {ls : List Line} (h : ∀ l ∈ ls, l.Fits) {lead : List Char}
    (hlead : ∀ c ∈ lead, isBlank c = true) {fuel : ℕ} (hfuel : ls.length < fuel) :
    readStatements fuel (lead ++ ls.flatMap Line.chars) = some (ls.map (·.statement)) := by
  induction ls generalizing lead fuel with
  | nil =>
    obtain ⟨fuel, rfl⟩ := Nat.exists_eq_succ_of_ne_zero (Nat.ne_zero_of_lt hfuel)
    rw [List.flatMap_nil, List.append_nil, readStatements, skipLines_of_all_blank hlead]
    rfl
  | cons l ls ih =>
    obtain ⟨hl, hls⟩ := List.forall_mem_cons.mp h
    obtain ⟨fuel, rfl⟩ := Nat.exists_eq_succ_of_ne_zero (Nat.ne_zero_of_lt hfuel)
    rw [List.length_cons] at hfuel
    -- the end of the line is the first blank before the next one
    have hrest : readStatements fuel ('\n' :: ls.flatMap Line.chars) =
        some (ls.map (·.statement)) :=
      ih hls (show ∀ c ∈ ['\n'], isBlank c = true from List.forall_mem_singleton.mpr rfl) (by omega)
    rw [List.flatMap_cons, ← List.append_assoc, readStatements_line hl hlead, hrest]
    rfl

/-! ## Carrying out lines -/

/-- A value that is no array and no table. -/
inductive Scalar where
  | string (s : String)
  | integer (n : Int)
  | bool (b : Bool)

/-- The value as it is written. -/
def Scalar.literal : Scalar → Literal
  | .string s => .string s
  | .integer n => .integer n
  | .bool b => .bool b

/-- The value in a document. -/
def Scalar.item : Scalar → Item
  | .string s => .string s
  | .integer n => .integer n
  | .bool b => .bool b

/-- The entries of a table that holds values only. -/
def entries (values : List (String × Scalar)) : Table := values.map fun (key, v) ↦ (key, v.item)

/-- The assignments of values. -/
def assignments (values : List (String × Scalar)) : List Statement :=
  values.map fun (key, v) ↦ .assign [key] v.literal

/-- A header with the assignments below it. -/
structure Section where
  /-- The name in the header. -/
  name : String
  /-- The values by their keys. -/
  values : List (String × Scalar)

/-- The statements of a section. -/
def Section.statements (s : Section) : List Statement :=
  .header [s.name] false :: assignments s.values

/-- What a section comes to in a document. -/
def Section.entry (s : Section) : String × Item := (s.name, .table (entries s.values))

/-- A document under construction in which no array and no table without a header came about. -/
def plain (root : Table) (context : List String) : Builder := { root, context }

/-- A path leads to the table that a document is built around. -/
structure LeadsTo (context : List String) (around : Table → Table) : Prop where
  /-- The table is found. -/
  tableAt? : ∀ t, (around t).tableAt? context = some t
  /-- The table is changed in its place. -/
  updateAt : ∀ f t, Table.updateAt f context (around t) = (f t).map around

namespace Table

variable {t : Table} {key : String} {item : Item}

theorem get?_eq_none (h : key ∉ t.map (·.1)) : t.get? key = none := by
  rw [get?, Option.map_eq_none_iff, List.find?_eq_none]
  intro entry hentry heq
  exact h (List.mem_map.mpr ⟨entry, hentry, by simpa using heq⟩)

theorem put_of_notMem (h : key ∉ t.map (·.1)) : t.put key item = t ++ [(key, item)] := by
  rw [put, if_neg]
  rw [List.any_eq_true]
  rintro ⟨entry, hentry, heq⟩
  exact h (List.mem_map.mpr ⟨entry, hentry, by simpa using heq⟩)

theorem get?_append_self (h : key ∉ t.map (·.1)) : get? (t ++ [(key, item)]) key = some item := by
  have hnone : t.find? (·.1 == key) = none := by
    simpa [get?] using get?_eq_none h
  rw [get?, List.find?_append, hnone]
  simp

theorem put_append_self (h : key ∉ t.map (·.1)) (item' : Item) :
    put (t ++ [(key, item)]) key item' = t ++ [(key, item')] := by
  have hany : (t ++ [(key, item)]).any (·.1 == key) = true := by simp
  rw [put, if_pos hany, List.map_append]
  congr 1
  · refine (List.map_congr_left fun entry hentry ↦ ?_).trans (List.map_id t)
    have hne : (entry.1 == key) = false := by
      refine beq_eq_false_iff_ne.mpr ?_
      rintro rfl
      exact h (List.mem_map_of_mem hentry)
    simp [hne]
  · simp

end Table

namespace LeadsTo

theorem nil : LeadsTo [] id := ⟨fun _ ↦ rfl, fun _ _ ↦ Option.map_id.symm ▸ rfl⟩

/-- A table that was put at the end of a document. -/
theorem last {t : Table} {name : String} (h : name ∉ t.map (·.1)) :
    LeadsTo [name] fun inner ↦ t ++ [(name, Item.table inner)] where
  tableAt? inner := by
    rw [Table.tableAt?, Table.get?_append_self h]
    rfl
  updateAt f inner := by
    rw [Table.updateAt, Table.get?_append_self h]
    simp only [Table.updateAt, Table.put_append_self h]
    cases f inner <;> rfl

end LeadsTo

namespace BuildM

section
variable {context : List String} {around : Table → Table} {t : Table}

/-- A new key is given a value at the end of the table that a path leads to. -/
theorem setValue_new (hleads : LeadsTo context around) {key : String} (hkey : key ∉ t.map (·.1))
    (item : Item) (opened : List String) :
    (setValue context key item).run (plain (around t) opened) =
      some ((), plain (around (t ++ [(key, item)])) opened) := by
  have hget : (itemAt context key).run (plain (around t) opened) =
      some (none, plain (around t) opened) := by
    simp [itemAt, plain, hleads.tableAt?, Table.get?_eq_none hkey]
  have hput : (putAt context key item).run (plain (around t) opened) =
      some ((), plain (around (t ++ [(key, item)])) opened) := by
    simp [putAt, change, plain, hleads.updateAt, Table.put_of_notMem hkey]
  simp [setValue, hget, hput]

/-- Assigning a value to a new key puts it at the end of the table that is open. -/
theorem perform_assign (hleads : LeadsTo context around) {key : String} (hkey : key ∉ t.map (·.1))
    (v : Scalar) :
    (perform (.assign [key] v.literal)).run (plain (around t) context) =
      some ((), plain (around (t ++ [(key, v.item)])) context) := by
  have hset := setValue_new hleads hkey v.item context
  unfold perform
  cases v <;> simp_all [openWay, build, Scalar.literal, Scalar.item, markArray, plain]

/-- A header of a new name opens an empty table at the end of the document. -/
theorem perform_header {name : String} (hname : name ∉ t.map (·.1)) :
    (perform (.header [name] false)).run (plain t context) =
      some ((), plain (t ++ [(name, Item.table [])]) [name]) := by
  have hset := setValue_new LeadsTo.nil hname (.table []) context
  unfold perform
  simp_all [openTable, makeWay, markArray, plain]

theorem run_forM_cons {first : Statement} {more : List Statement} {b b' b'' : Builder}
    (hfirst : (perform first).run b = some ((), b'))
    (hmore : (more.forM perform).run b' = some ((), b'')) :
    ((first :: more).forM perform).run b = some ((), b'') := by
  change (perform first >>= fun _ ↦ more.forM perform).run b = _
  rw [StateT.run_bind, hfirst]
  exact hmore

theorem run_forM_append {first more : List Statement} {b b' b'' : Builder}
    (hfirst : (first.forM perform).run b = some ((), b'))
    (hmore : (more.forM perform).run b' = some ((), b'')) :
    ((first ++ more).forM perform).run b = some ((), b'') := by
  rw [show (first ++ more).forM perform = (do first.forM perform; more.forM perform) by simp,
    StateT.run_bind, hfirst]
  exact hmore

/-- Assignments of new keys put their values at the end of the table that is open, in order. -/
theorem forM_assignments (hleads : LeadsTo context around) {values : List (String × Scalar)}
    (hkeys : (t.map (·.1) ++ values.map (·.1)).Nodup) :
    ((assignments values).forM perform).run (plain (around t) context) =
      some ((), plain (around (t ++ entries values)) context) := by
  induction values generalizing t with
  | nil =>
    rw [entries, List.map_nil, List.append_nil]
    rfl
  | cons value values ih =>
    obtain ⟨key, v⟩ := value
    have hkey : key ∉ t.map (·.1) := fun hmem ↦
      List.disjoint_of_nodup_append hkeys hmem List.mem_cons_self
    have hrest := ih (t := t ++ [(key, v.item)]) (by simpa using hkeys)
    rw [List.append_assoc] at hrest
    exact run_forM_cons (perform_assign hleads hkey v) hrest

/-- Sections of new names are put at the end of the document, in order. -/
theorem forM_sections {sections : List Section}
    (hnames : (t.map (·.1) ++ sections.map (·.name)).Nodup)
    (hkeys : ∀ s ∈ sections, (s.values.map (·.1)).Nodup) :
    ∃ last, ((sections.flatMap Section.statements).forM perform).run (plain t context) =
      some ((), plain (t ++ sections.map Section.entry) last) := by
  induction sections generalizing t context with
  | nil =>
    rw [List.map_nil, List.append_nil]
    exact ⟨context, rfl⟩
  | cons s sections ih =>
    obtain ⟨hvalues, hsections⟩ := List.forall_mem_cons.mp hkeys
    have hname : s.name ∉ t.map (·.1) := fun hmem ↦
      List.disjoint_of_nodup_append hnames hmem List.mem_cons_self
    obtain ⟨last, hrest⟩ : ∃ last, ((sections.flatMap Section.statements).forM perform).run
        (plain (t ++ [s.entry]) [s.name]) =
          some ((), plain (t ++ [s.entry] ++ sections.map Section.entry) last) :=
      ih (by simpa [Section.entry] using hnames) hsections
    rw [List.append_assoc] at hrest
    have hbody := forM_assignments (LeadsTo.last hname)
      (show (([] : Table).map (·.1) ++ s.values.map (·.1)).Nodup from hvalues)
    exact ⟨last, run_forM_append (run_forM_cons (perform_header hname) hbody) hrest⟩

end

end BuildM

/-! ## Documents -/

/-- All characters may stand where they do if each may and none is a carriage return. -/
theorem allAllowed_of_forall {cs : List Char} (h : ∀ c ∈ cs, isAllowed c = true ∧ c ≠ '\r') :
    allAllowed cs = true := by
  fun_induction allAllowed cs with
  | case1 => rfl
  | case2 => exact absurd rfl (h _ List.mem_cons_self).2
  | case3 c d rest ih =>
    obtain ⟨⟨hc, hreturn⟩, hrest⟩ := List.forall_mem_cons.mp h
    simp [hc, hreturn, ih hrest]
  | case4 c => exact (h c List.mem_cons_self).1

section
variable (write : Scalar → List Char)

/-- The lines of assignments, each so far from the margin. -/
def valueLines (margin : ℕ) (values : List (String × Scalar)) : List Line :=
  values.map fun (key, v) ↦ Line.assignment margin key (write v) v.literal

/-- The lines of a section. -/
def Section.lines (s : Section) : List Line := Line.header s.name :: valueLines write 2 s.values

/-- The lines of a document. -/
def documentLines (values : List (String × Scalar)) (sections : List Section) : List Line :=
  valueLines write 0 values ++ sections.flatMap (Section.lines write)

theorem statements_valueLines (margin : ℕ) (values : List (String × Scalar)) :
    (valueLines write margin values).map (·.statement) = assignments values := by
  simp [valueLines, assignments, Line.assignment]

theorem statements_documentLines (values : List (String × Scalar)) (sections : List Section) :
    (documentLines write values sections).map (·.statement) =
      assignments values ++ sections.flatMap Section.statements := by
  rw [documentLines, List.map_append, statements_valueLines, List.map_flatMap]
  congr 2
  funext s
  rw [Section.lines, List.map_cons, statements_valueLines]
  rfl

/-- Values that are read as themselves, under keys that need no quotes, none of them twice. -/
structure Legible (values : List (String × Scalar)) : Prop where
  /-- The keys need no quotes. -/
  isBare : ∀ entry ∈ values, IsBare entry.1
  /-- No key comes twice. -/
  nodup : (values.map (·.1)).Nodup
  /-- The values are read as themselves. -/
  readsAs : ∀ entry ∈ values, ReadsAs (write entry.2) entry.2.literal

variable {write} {values : List (String × Scalar)} {sections : List Section}

theorem Legible.fits (h : Legible write values) (margin : ℕ) :
    ∀ l ∈ valueLines write margin values, l.Fits := by
  intro l hl
  obtain ⟨entry, hentry, rfl⟩ := List.mem_map.mp hl
  exact Line.fits_assignment (h.isBare entry hentry) (h.readsAs entry hentry)

theorem fits_documentLines (hvalues : Legible write values)
    (hsections : ∀ s ∈ sections, IsBare s.name ∧ Legible write s.values) :
    ∀ l ∈ documentLines write values sections, l.Fits := by
  intro l hl
  obtain hl | hl := List.mem_append.mp hl
  · exact hvalues.fits 0 l hl
  · obtain ⟨s, hs, hl⟩ := List.mem_flatMap.mp hl
    obtain rfl | hl := List.mem_cons.mp hl
    · exact Line.fits_header (hsections s hs).1
    · exact (hsections s hs).2.fits 2 l hl

theorem length_le_length_flatMap {α : Type} {f : α → List Char} (hf : ∀ a, f a ≠ [])
    (xs : List α) : xs.length ≤ (xs.flatMap f).length := by
  induction xs with
  | nil => exact Nat.le_refl 0
  | cons a xs ih =>
    have hpos := List.length_pos_iff.mpr (hf a)
    rw [List.length_cons, List.flatMap_cons, List.length_append]
    omega

/-- Statements are read from where the blanks and comments before them end. -/
theorem readStatements_congr {cs cs' : List Char}
    (h : skipLines (cs.length + 1) cs = skipLines (cs'.length + 1) cs') (fuel : ℕ) :
    readStatements (fuel + 1) cs = readStatements (fuel + 1) cs' := by
  rw [readStatements.eq_def, readStatements.eq_def]
  simp only [h]

/-- A document starts with the first key. -/
theorem exists_flatMap_chars_eq_cons (hne : values ≠ []) (hvalues : Legible write values) :
    ∃ c rest, (documentLines write values sections).flatMap Line.chars = c :: rest ∧
      isBareKey c = true := by
  obtain ⟨⟨key, v⟩, more, rfl⟩ := List.exists_cons_of_ne_nil hne
  have hbare : IsBare key := hvalues.isBare _ List.mem_cons_self
  obtain ⟨c, cs, hchars⟩ := List.exists_cons_of_ne_nil (mt String.toList_eq_nil_iff.mp hbare.1)
  have hline : (Line.assignment 0 key (write v) v.literal).chars =
      c :: (cs ++ (' ' :: '=' :: ' ' :: write v ++ ['\n'])) := by
    simp [Line.chars, Line.assignment, hchars]
  rw [documentLines, valueLines, List.map_cons, List.cons_append, List.flatMap_cons, hline,
    List.cons_append]
  exact ⟨c, _, rfl, hbare.2 c (hchars ▸ List.mem_cons_self)⟩

/-- A document of comments, values and sections is read back as the values and the sections. -/
theorem parse_document {text : String} {comments : List (List Char)}
    (htext : text.toList = (comments.flatMap fun line ↦ '#' :: (line ++ ['\n'])) ++
      '\n' :: (documentLines write values sections).flatMap Line.chars)
    (hallowed : ∀ c ∈ text.toList, isAllowed c = true ∧ c ≠ '\r')
    (hcomments : ∀ line ∈ comments, ∀ c ∈ line, isBreak c = false)
    (hne : values ≠ []) (hvalues : Legible write values)
    (hsections : ∀ s ∈ sections, IsBare s.name ∧ Legible write s.values)
    (hnames : (values.map (·.1) ++ sections.map (·.name)).Nodup) :
    parse text = some (entries values ++ sections.map Section.entry) := by
  set ls := documentLines write values sections with hls
  obtain ⟨c, rest, hbody, hbare⟩ : ∃ c rest, ls.flatMap Line.chars = c :: rest ∧ isBareKey c = true :=
    exists_flatMap_chars_eq_cons hne hvalues
  obtain ⟨hblank, hhash, -⟩ := Line.not_blank_of_isBareKey hbare
  have hmark : skipMark text.toList = text.toList := by
    rw [htext]
    cases comments <;> rfl
  have hlength : comments.length + ls.length ≤ text.toList.length := by
    have hlines : ls.length ≤ (ls.flatMap Line.chars).length :=
      length_le_length_flatMap (fun l ↦ by simp [Line.chars]) ls
    have hpreface := length_le_length_flatMap (f := fun line ↦ '#' :: (line ++ ['\n']))
      (fun _ ↦ List.cons_ne_nil _ _) comments
    rw [htext, List.length_append, List.length_cons]
    omega
  have hskip : skipLines (text.toList.length + 1) text.toList =
      skipLines ((ls.flatMap Line.chars).length + 1) (ls.flatMap Line.chars) := by
    have hfirst := skipLines_of_blank (List.forall_mem_nil _) hblank hhash (c :: rest).length rest
    have hpreface := skipLines_preface hcomments (List.forall_mem_nil _) hblank hhash
      (text.toList.length - comments.length) rest
    rw [show comments.length + (text.toList.length - comments.length) = text.toList.length by omega,
      List.nil_append, ← hbody, ← htext] at hpreface
    rw [hpreface, hbody]
    exact hfirst.symm
  have hstatements : statements text = some (ls.map (·.statement)) := by
    have hfits : ∀ l ∈ ls, l.Fits := fits_documentLines hvalues hsections
    have hread : readStatements (text.toList.length + 1) (ls.flatMap Line.chars) =
        some (ls.map (·.statement)) :=
      readStatements_lines hfits (List.forall_mem_nil _) (by omega)
    rw [statements, hmark, if_pos (allAllowed_of_forall hallowed), readStatements_congr hskip]
    exact hread
  obtain ⟨last, hsectionsRun⟩ : ∃ last, ((sections.flatMap Section.statements).forM
      BuildM.perform).run (plain (entries values) []) =
        some ((), plain (entries values ++ sections.map Section.entry) last) :=
    BuildM.forM_sections (by simpa [entries, Function.comp_def] using hnames)
      fun s hs ↦ (hsections s hs).2.nodup
  have hvaluesRun : ((assignments values).forM BuildM.perform).run {} =
      some ((), plain (entries values) []) :=
    BuildM.forM_assignments LeadsTo.nil (t := []) hvalues.nodup
  have hrun := BuildM.run_forM_append hvaluesRun hsectionsRun
  rw [parse, hstatements, hls, statements_documentLines]
  simp only [Option.bind_eq_bind, Option.bind_some, hrun]
  rfl

end

end PathQuery.Toml
