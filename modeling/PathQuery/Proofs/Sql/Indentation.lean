import PathQuery.Proofs.Compile.Created
import PathQuery.Proofs.Sql.Lexing

/-!
# Derived tables as they are read

A derived table is written like any other select, and its text is then indented line by line. The
indentation does not know about quotes. Read by the rule for identifiers, an indented text has the
lexemes of the text before, with a tab behind every line break; outside of identifiers that means
nothing, but a line break in a name makes another name of it.

So the identifiers of a derived table, read where it stands in the statement, are those of its own
select exactly when none of them has a line break.
-/

namespace PathQuery

open LexZone Fragment

/-! ## Reading an indented text -/

namespace Lexeme

@[simp] theorem identifiers_append (xs ys : List Lexeme) :
    identifiers (xs ++ ys) = identifiers xs ++ identifiers ys := List.filterMap_append

@[simp] theorem identifiers_marks (cs : List Char) : identifiers (cs.map .mark) = [] := by
  rw [identifiers, List.filterMap_map]
  exact List.filterMap_eq_nil_iff.mpr fun _ _ ↦ rfl

/-- All characters outside of names are harmless. -/
def Harmless (ls : List Lexeme) : Prop := ∀ c, .mark c ∈ ls → harmless c

theorem Harmless.append {xs ys : List Lexeme} (h : Harmless xs) (h' : Harmless ys) :
    Harmless (xs ++ ys) :=
  fun c hc ↦ (List.mem_append.mp hc).elim (h c) (h' c)

theorem harmless_marks {cs : List Char} (h : cs.all harmless) : Harmless (cs.map .mark) := by
  intro c hc
  obtain ⟨d, hd, heq⟩ := List.mem_map.mp hc
  cases heq
  exact List.all_eq_true.mp h _ hd

/-- What a lexeme is read as when its text is indented. -/
def inset : Lexeme → List Lexeme
  | .mark c => (breakChar c).map .mark
  | .name n => [.name (indentBreaks n)]

theorem Harmless.inset {ls : List Lexeme} (h : Harmless ls) : Harmless (ls.flatMap inset) := by
  intro c hc
  obtain ⟨l, hl, hc⟩ := List.mem_flatMap.mp hc
  cases l with
  | name n => simp [Lexeme.inset] at hc
  | mark d =>
    obtain ⟨x, hx, heq⟩ := List.mem_map.mp hc
    cases heq
    rw [breakChar] at hx
    split_ifs at hx
    · have hbreak : ['\n', '\t'].all harmless := by decide
      exact List.all_eq_true.mp hbreak _ hx
    · rw [List.mem_singleton.mp hx]
      exact h d hl

/-- Indenting respells the identifiers and adds none. -/
theorem identifiers_flatMap_inset (ls : List Lexeme) :
    identifiers (ls.flatMap inset) = (identifiers ls).map indentBreaks := by
  induction ls with
  | nil => rfl
  | cons l ls ih =>
    rw [List.flatMap_cons, identifiers_append, ih]
    cases l with
    | mark c => rw [inset, identifiers_marks, List.nil_append]; rfl
    | name n => rfl

end Lexeme

namespace LexZone

/-- Where a character stands in the indented text. -/
def inset : LexZone → LexZone
  | .name read => .name (read.flatMap breakChar)
  | .closing read => .closing (read.flatMap breakChar)
  | z => z

/-- An indented character completes what the character does, indented, and leads to the same
zone. -/
theorem lex_breakChar (z : LexZone) (c : Char) (rest : List Char) :
    lex z.inset (breakChar c ++ rest) =
      (lex (z.step c).2.inset rest).map ((z.step c).1.flatMap Lexeme.inset ++ ·) := by
  by_cases hc : c = '\n'
  · subst hc
    have hchars : breakChar '\n' ++ rest = '\n' :: '\t' :: rest := rfl
    rw [hchars]
    cases z <;>
      simp [lex, step, enter, inset, Lexeme.inset, breakChar, indentBreaks_ofList,
        Function.comp_def]
  · rw [breakChar_of_ne hc, List.singleton_append]
    cases z <;> by_cases hquote : c = '"' <;> by_cases hliteral : c = '\'' <;>
      simp_all [lex, step, enter, inset, Lexeme.inset, breakChar, indentBreaks_ofList]

/-- An indented text is read as the text is, indented. -/
theorem lex_flatMap_breakChar (z : LexZone) (cs : List Char) :
    lex z.inset (cs.flatMap breakChar) = (lex z cs).map (·.flatMap Lexeme.inset) := by
  induction cs generalizing z with
  | nil => cases z <;> simp [lex, finish, inset, Lexeme.inset, indentBreaks_ofList]
  | cons c cs ih =>
    rw [List.flatMap_cons, lex_breakChar, ih, lex, Option.map_map, Option.map_map]
    congr 1
    funext ls
    exact List.flatMap_append.symm

/-- A text that is complete is read by itself, if no quote follows it. -/
theorem lex_append {z : LexZone} {xs rest : List Char} {ls : List Lexeme} (h : lex z xs = some ls)
    (hrest : rest.head? ≠ some '"') : lex z (xs ++ rest) = (lex .code rest).map (ls ++ ·) := by
  induction xs generalizing z ls with
  | nil =>
    cases z with
    | code =>
      cases h
      exact Option.map_id'.symm
    | closing read =>
      cases h
      exact lex_closing hrest read
    | literal => cases h
    | name read => cases h
  | cons c xs ih =>
    rw [lex, Option.map_eq_some_iff] at h
    obtain ⟨ls', hls', rfl⟩ := h
    rw [List.cons_append, lex, ih hls', Option.map_map]
    congr 1
    funext ls
    exact (List.append_assoc _ _ _).symm

end LexZone

/-- The lexemes of an indented text. -/
theorem lexed_indent {text : String} {ls : List Lexeme} (h : lexed text = some ls) :
    lexed (indent text) = some (.mark '\t' :: ls.flatMap Lexeme.inset) := by
  have htab : step .code '\t' = ([.mark '\t'], .code) := rfl
  have hchars : (indent text).toList = '\t' :: text.toList.flatMap breakChar := by
    rw [indent, String.toList_append, toList_indentBreaks]
    rfl
  rw [lexed, hchars, lex_cons_of_step htab]
  have hread := lex_flatMap_breakChar .code text.toList
  rw [lexed] at h
  rw [h] at hread
  rw [show lex .code (text.toList.flatMap breakChar) = _ from hread]
  rfl

/-- **Indenting changes what a text names exactly where a name breaks a line.** -/
theorem identifiers_indent_iff {text : String} {ls inner : List Lexeme} (h : lexed text = some ls)
    (hinner : lexed (indent text) = some inner) :
    Lexeme.identifiers inner = (Lexeme.identifiers ls).map indentBreaks ∧
      (Lexeme.identifiers inner = Lexeme.identifiers ls ↔
        ∀ n ∈ Lexeme.identifiers ls, '\n' ∉ n.toList) := by
  rw [lexed_indent h, Option.some.injEq] at hinner
  have hnames : Lexeme.identifiers inner = (Lexeme.identifiers ls).map indentBreaks := by
    rw [← hinner, ← Lexeme.identifiers_flatMap_inset]
    rfl
  refine ⟨hnames, ?_⟩
  have hsame := List.map_inj_left (f := indentBreaks) (g := id) (l := Lexeme.identifiers ls)
  rw [List.map_id] at hsame
  rw [hnames, hsame]
  exact forall₂_congr fun n _ ↦ indentBreaks_eq_self_iff

namespace Fragment

/-! ## Fragments that are read by themselves -/

/-- The text of the fragments is complete after any number of placeholders, these are the
identifiers in it, and what is outside of them is harmless; `named` tells whether the text ends a
name that comes before. -/
def Recited (d : Dialect) (named : Bool) (names : List String) (fs : List Fragment) : Prop :=
  ∀ k, ∃ ls, lex .code (chars d k fs) = some ls ∧ Lexeme.identifiers ls = names ∧
    Lexeme.Harmless ls ∧ (named → (chars d k fs).head? ≠ some '"')

namespace Recited

variable {d : Dialect} {named : Bool} {names names' : List String} {fs gs : List Fragment}

theorem append (h : Recited d named names fs) (h' : Recited d true names' gs) :
    Recited d named (names ++ names') (fs ++ gs) := by
  intro k
  obtain ⟨ls, hls, hnames, hharmless, hends⟩ := h k
  obtain ⟨ls', hls', hnames', hharmless', hends'⟩ := h' (k + (operands fs).length)
  have hread := lex_append hls (hends' rfl)
  rw [hls', Option.map_some] at hread
  refine ⟨ls ++ ls', ?_, ?_, hharmless.append hharmless', fun hnamed ↦ ?_⟩
  · rw [chars_append, hread]
  · rw [Lexeme.identifiers_append, hnames, hnames']
  · rw [chars_append, List.head?_append]
    have hfirst := hends hnamed
    cases hhead : (chars d k fs).head? with
    | none => exact hends' rfl
    | some c => rwa [hhead] at hfirst

/-- An unquoted text goes before what can be read by itself. -/
theorem cons_text {s : String} (hs : Unquoted s.toList) (hall : s.toList.all harmless)
    (hends : named → endsName s) (h : Recited d false names fs) :
    Recited d named names (.text s :: fs) := by
  intro k
  obtain ⟨ls, hls, hnames, hharmless, -⟩ := h k
  have hchars : chars d k (.text s :: fs) = s.toList ++ chars d k fs := rfl
  refine ⟨s.toList.map .mark ++ ls, ?_, ?_, (Lexeme.harmless_marks hall).append hharmless,
    fun hnamed ↦ ?_⟩
  · rw [hchars, hs, hls, Option.map_some]
  · rw [Lexeme.identifiers_append, Lexeme.identifiers_marks, hnames, List.nil_append]
  · have hhead := hends hnamed
    rw [endsName] at hhead
    rw [hchars]
    cases hs : s.toList with
    | nil => simp [hs] at hhead
    | cons c cs => simpa [hs] using hhead

theorem nil (named : Bool) : Recited d named [] [] := fun _ ↦ ⟨[], rfl, rfl, nofun, nofun⟩

theorem mono (h : Recited d true names fs) : Recited d named names fs := by
  intro k
  obtain ⟨ls, hls, hnames, hharmless, hends⟩ := h k
  exact ⟨ls, hls, hnames, hharmless, fun _ ↦ hends rfl⟩

/-- Fragments are recited clause by clause. -/
theorem layout (d : Dialect) : FullLayout (fun n ↦ [n]) (Recited d) where
  nil := nil
  mono := mono
  append := append
  text hinert hends h :=
    cons_text (unquoted_of_inert hinert) (all_harmless_of_inert hinert)
      (fun _ ↦ endsName_of_endsNumber hinert hends) h
  name n := by
    intro k
    have hchars : chars d k [.name n] = (quoteIdentifier n).toList ++ [] := rfl
    refine ⟨[.name n], ?_, rfl, fun c hc ↦ ?_, fun hnamed ↦ absurd hnamed Bool.false_ne_true⟩
    · rw [hchars, lex_quoteIdentifier, lex, finish, String.ofList_toList]
    · cases List.mem_singleton.mp hc
  operand v := by
    intro k
    have hchars : chars d k [.operand v] = (d.placeholder ((k + 1 : ℕ) : Int)).toList ++ [] := rfl
    have hunquoted : Unquoted (d.placeholder ((k + 1 : ℕ) : Int)).toList :=
      unquoted_of_notMem (d.notMem_placeholder (k + 1) rfl (by decide) (by decide))
        (d.notMem_placeholder (k + 1) rfl (by decide) (by decide))
    have hall : (d.placeholder ((k + 1 : ℕ) : Int)).toList.all harmless := by
      refine List.all_eq_true.mpr fun c hc ↦ ?_
      have hne {e : Char} (he : e.isDigit = false) (hmark : e ≠ '?') (hdollar : e ≠ '$') : c ≠ e :=
        ne_of_mem_of_not_mem hc (d.notMem_placeholder (k + 1) he hmark hdollar)
      simp only [harmless, Bool.and_eq_true, decide_eq_true_eq]
      refine ⟨⟨⟨⟨?_, ?_⟩, ?_⟩, ?_⟩, ?_⟩ <;> exact hne rfl (by decide) (by decide)
    refine ⟨(d.placeholder ((k + 1 : ℕ) : Int)).toList.map .mark, ?_,
      Lexeme.identifiers_marks _, Lexeme.harmless_marks hall,
      fun hnamed ↦ absurd hnamed Bool.false_ne_true⟩
    rw [hchars, hunquoted, lex, finish, Option.map_some, List.append_nil]
  lead hinert := cons_text (unquoted_of_inert hinert) (all_harmless_of_inert hinert)
    (fun hnamed ↦ absurd hnamed Bool.false_ne_true) (nil false)
  escape := cons_text unquoted_escape (by decide) (fun _ ↦ by decide) (nil false)

/-- Indented fragments are recited with the names respelled. -/
theorem indentAll (h : Recited d false names fs) :
    Recited d named (names.map indentBreaks) (indentAll fs) := by
  intro k
  obtain ⟨ls, hls, hnames, hharmless, -⟩ := h k
  have hlexed : lexed (String.ofList (chars d k fs)) = some ls := by
    rw [lexed, String.toList_ofList, hls]
  have hindent := lexed_indent hlexed
  rw [lexed, ← chars_indentAll] at hindent
  refine ⟨_, hindent, ?_, ?_, fun _ ↦ ?_⟩
  · rw [← hnames, ← Lexeme.identifiers_flatMap_inset]
    rfl
  · have htab : Lexeme.Harmless (['\t'].map .mark) := Lexeme.harmless_marks (by decide)
    exact htab.append hharmless.inset
  · rw [chars_indentAll, indent, String.toList_append]
    exact fun hquote ↦ absurd (Option.some.inj hquote) (by decide)

end Recited

end Fragment

/-! ## Derived tables in a statement -/

/-- The names in a select as the dialect takes them, clause by clause. -/
def Select.takenNames (d : Dialect) (s : Select) : List String :=
  (s.respell (d.spelling id)).identifiers

/-- The text of a select behind `k` placeholders. -/
def Select.textFrom (d : Dialect) (k : ℕ) (s : Select) : String :=
  String.ofList (Fragment.chars d k (s.fragments d))

/-- A select has the names that it is made of. -/
theorem Select.recited (s : Select) (d : Dialect) (named : Bool) :
    Recited d named (s.takenNames d) (s.fragments d) := by
  have hcondition : ∀ c : Condition, Recited d false (c.respell (d.spelling id)).identifiers
      c.fragments := by
    intro c
    have hnames : (c.respell (d.spelling id)).identifiers = c.columns.flatMap ([·.column]) := by
      rw [← List.map_eq_flatMap]
      cases c <;> rfl
    rw [hnames]
    exact (Recited.layout d).condition c
  have hrelation : ∀ r, relationItems (fun n ↦ [n]) d r =
      (r.respell (d.spelling id)).identifiers := by
    intro r
    cases r <;> rfl
  have hall := (Recited.layout d).select hcondition s d named
  have hnames : s.takenNames d =
      (s.projections.flatMap fun p ↦ [p.column.column] ++ [p.name]) ++
        ([d.tablePart s.table.schema] ++ [d.tablePart s.table.name]) ++
        (s.joins.flatMap fun j ↦ relationItems (fun n ↦ [n]) d j.relation ++
          j.conditions.flatMap fun c ↦ (c.respell (d.spelling id)).identifiers) ++
        (s.conditions.flatMap fun c ↦ (c.respell (d.spelling id)).identifiers) ++
        s.order.flatMap fun t ↦ [t.column.column] := by
    have hjoin : ∀ j : Join, (j.respell (d.spelling id)).identifiers =
        (j.relation.respell (d.spelling id)).identifiers ++
          j.conditions.flatMap fun c ↦ (c.respell (d.spelling id)).identifiers := by
      intro j
      rw [Join.identifiers, Join.respell, List.flatMap_map]
    simp only [hrelation, takenNames, identifiers, respell, List.flatMap_map, List.map_map,
      ← List.map_eq_flatMap, hjoin]
    rfl
  rw [hnames]
  exact hall

/-- The names in a further derived table and in the condition that joins it. -/
def Link.takenNames (d : Dialect) (l : Link) : List String :=
  (l.select.takenNames d).map indentBreaks ++ ([l.left.column] ++ [l.right.column])

theorem Link.recited (l : Link) (d : Dialect) (n : ℕ) :
    Recited d true (l.takenNames d) (l.fragments d n) := by
  have layout := (Recited.layout d).toLayout
  have hhead : Recited d true ((l.select.takenNames d).map indentBreaks)
      (.text "\nINNER JOIN (\n" :: indentAll (l.select.fragments d)) :=
    layout.text (by decide) (by decide) (.indentAll (l.select.recited d false))
  exact layout.append hhead (layout.text (inert_between (by decide) (by decide) _)
    (endsNumber_append (endsNumber_append (by decide) _) _) (layout.same l.left l.right false))

namespace SplitSelect

variable (q : SplitSelect) (d : Dialect)

theorem links_recited (ls : List Link) (n : ℕ) :
    Recited d true ((ls.zipIdx n).flatMap fun x ↦ x.1.takenNames d)
      ((ls.zipIdx n).flatMap fun x ↦ x.1.fragments d x.2) :=
  (Recited.layout d).flatMap fun x _ ↦ x.1.recited d x.2

/-- A derived table stands between parentheses. What comes before and behind it can be read by
itself, and what comes before has the operands of the derived tables before. -/
theorem exists_fragments_eq {n : ℕ} {s : Select} (h : q.tables[n]? = some s) :
    ∃ front lead trail back before after,
      q.fragments d = (front ++ [Fragment.text (lead ++ "(\n")]) ++ indentAll (s.fragments d) ++
        Fragment.text ("\n) " ++ (Source.segment (n + 1)).name ++ trail) :: back ∧
      Recited d false before (front ++ [Fragment.text (lead ++ "(\n")]) ∧
      Recited d true after
        (Fragment.text ("\n) " ++ (Source.segment (n + 1)).name ++ trail) :: back) ∧
      Fragment.operands front = (q.tables.take n).flatMap (Select.operandsIn d) := by
  have layout := (Recited.layout d).toLayout
  have hprojections := layout.projections q.projections false
  have horder := layout.order q.order true
  have hclosing (n : ℕ) (trail : String) {names : List String} {fs : List Fragment}
      (htrail : inert trail) (hfs : Recited d false names fs) :
      Recited d true names (Fragment.text ("\n) " ++ (Source.segment n).name ++ trail) :: fs) :=
    layout.text (inert_between (by decide) htrail _)
      (endsNumber_append (endsNumber_append (by decide) _) _) hfs
  cases n with
  | zero =>
    obtain rfl : q.first = s := by simpa [tables] using h
    refine ⟨Projection.clause q.projections, "\nFROM ", "", _, _, _, ?_,
      layout.append hprojections (layout.text (by decide) (by decide) (.nil false)),
      hclosing 1 _ (by decide) (layout.mono (layout.append (links_recited d q.links 2) horder)), ?_⟩
    · simp [fragments]
    · rw [operands_projections]
      rfl
  | succ m =>
    obtain ⟨l, hl, rfl⟩ : ∃ l, q.links[m]? = some l ∧ l.select = s := by
      simpa [tables] using h
    obtain ⟨pre, post, hlinks, rfl⟩ : ∃ pre post, q.links = pre ++ l :: post ∧ pre.length = m := by
      obtain ⟨hlt, hget⟩ := List.getElem?_eq_some_iff.mp hl
      refine ⟨q.links.take m, q.links.drop (m + 1), ?_, List.length_take_of_le hlt.le⟩
      rw [← hget, List.getElem_cons_drop, List.take_append_drop]
    have hzip : q.links.zipIdx 2 = pre.zipIdx 2 ++ (l, pre.length + 1 + 1) ::
        post.zipIdx (pre.length + 1 + 1 + 1) := by
      rw [hlinks, List.zipIdx_append, List.zipIdx_cons, Nat.add_comm 2]
    have hfirst : Recited d true ((q.first.takenNames d).map indentBreaks)
        (.text "\nFROM (\n" :: indentAll (q.first.fragments d)) :=
      layout.text (by decide) (by decide) (.indentAll (q.first.recited d false))
    have hbefore := layout.append (layout.append hprojections hfirst)
      (hclosing 1 "" (by decide) (layout.mono (links_recited d pre 2)))
    refine ⟨_, "\nINNER JOIN ", " ON ",
      (Condition.same l.left l.right).fragments ++
        (post.zipIdx (pre.length + 1 + 1 + 1)).flatMap (fun x ↦ x.1.fragments d x.2) ++
          SortColumn.clause q.order, _, _, ?_,
      layout.append hbefore (layout.text (by decide) (by decide) (.nil false)),
      hclosing _ _ (by decide) (layout.append (layout.append (layout.same l.left l.right false)
        (links_recited d post _)) horder), ?_⟩
    · rw [fragments, hzip]
      simp [Link.fragments]
    · have htake : q.tables.take (pre.length + 1) = q.first :: pre.map (·.select) := by
        rw [tables, hlinks, List.take_succ_cons, List.map_append, List.take_left' (by simp)]
      rw [operands_append, operands_append, operands_projections, operands_text, operands_text,
        operands_indentAll, operands_links, htake, List.flatMap_cons, List.flatMap_map]
      rfl

end SplitSelect

/-- The text of the derived table behind `n` others, before it is indented. -/
def SplitSelect.ownText (q : SplitSelect) (d : Dialect) (n : ℕ) (s : Select) : String :=
  s.textFrom d ((q.tables.take n).flatMap (Select.operandsIn d)).length

/-- The text of a derived table is read, where it stands in the text of its query, as it is read by
itself. -/
theorem SplitSelect.exists_lexed_render (q : SplitSelect) (d : Dialect) {n : ℕ} {s : Select}
    (h : q.tables[n]? = some s) :
    ∃ front back before inner after ls,
      (Query.split q).render d = front ++ "(\n" ++ indent (q.ownText d n s) ++
        ("\n) " ++ (Source.segment (n + 1)).name ++ back) ∧
      lexed (q.ownText d n s) = some ls ∧ Lexeme.identifiers ls = s.takenNames d ∧
      lexed (indent (q.ownText d n s)) = some inner ∧
      lexed (front ++ "(\n") = some before ∧
      lexed ("\n) " ++ (Source.segment (n + 1)).name ++ back) = some after ∧
      lexed ((Query.split q).render d) = some (before ++ inner ++ after) := by
  obtain ⟨front, lead, trail, back, _, _, hfragments, hbefore, hafter, hoperands⟩ :=
    q.exists_fragments_eq d h
  generalize hclosing : Fragment.text ("\n) " ++ (Source.segment (n + 1)).name ++ trail) :: back =
    closing at hfragments hafter
  generalize hk : ((q.tables.take n).flatMap (Select.operandsIn d)).length = k
  have hcount : (operands (front ++ [Fragment.text (lead ++ "(\n")])).length = k := by
    rw [operands_append, hoperands, operands_text, ← hk]
    simp [operands]
  -- the three stretches of the text, as strings
  have hown : q.ownText d n s = String.ofList (chars d k (s.fragments d)) := by
    rw [ownText, Select.textFrom, hk]
  have hopen : chars d 0 (front ++ [Fragment.text (lead ++ "(\n")]) =
      (String.ofList (chars d 0 front) ++ lead ++ "(\n").toList := by
    have hlead (j : ℕ) :
        chars d j [Fragment.text (lead ++ "(\n")] = (lead ++ "(\n").toList ++ [] := rfl
    rw [chars_append, hlead]
    simp
  have hinner : chars d k (Fragment.indentAll (s.fragments d)) =
      (indent (q.ownText d n s)).toList := by
    rw [chars_indentAll, hown]
  obtain ⟨m, hchars⟩ : ∃ m, chars d 0 (q.fragments d) =
      chars d 0 (front ++ [Fragment.text (lead ++ "(\n")]) ++
        chars d k (Fragment.indentAll (s.fragments d)) ++ chars d m closing := by
    rw [hfragments, chars_append, chars_append, Nat.zero_add, hcount]
    exact ⟨_, rfl⟩
  have hclose : chars d m closing = ("\n) " ++ (Source.segment (n + 1)).name ++
      (trail ++ String.ofList (chars d m back))).toList := by
    rw [← hclosing]
    simp [chars, renderFrom]
  -- each of them is read by itself, and none begins with a quote
  obtain ⟨before, hreadBefore, -⟩ := hbefore 0
  obtain ⟨ls, hls, hnames, -⟩ := s.recited d false k
  have hindented : Recited d true _ (Fragment.indentAll (s.fragments d)) :=
    (s.recited d false).indentAll
  obtain ⟨inner, hreadInner, -, -, hheadInner⟩ := hindented k
  obtain ⟨after, hreadAfter, -, -, hheadAfter⟩ := hafter m
  have hrender : ((Query.split q).render d).toList = chars d 0 (q.fragments d) := by
    rw [Query.render, toList_render]
    rfl
  refine ⟨String.ofList (chars d 0 front) ++ lead, trail ++ String.ofList (chars d m back), before,
    inner, after, ls, ?_, ?_, hnames, ?_, ?_, ?_, ?_⟩
  · rw [← String.toList_inj, hrender, hchars, hopen, hinner, hclose, ← String.toList_append,
      ← String.toList_append]
  · rw [lexed, hown, String.toList_ofList, hls]
  · rw [lexed, ← hinner, hreadInner]
  · rw [lexed, ← hopen, hreadBefore]
  · rw [lexed, ← hclose, hreadAfter]
  · rw [lexed, hrender, hchars, List.append_assoc, lex_append hreadBefore, lex_append hreadInner
      (hheadAfter rfl), hreadAfter, Option.map_some, Option.map_some, List.append_assoc]
    rw [List.head?_append_of_ne_nil]
    · exact hheadInner rfl
    · rw [hinner, indent]
      simp

/-! ## Compiled statements -/

/-- A path that is cut has a derived table for each of its segments. -/
theorem Compiles.length_tables {c : Compiler} {t : Tree} {p : Path} {branches : List NodeId} {k : ℕ}
    {q : SplitSelect} {tables : List MembershipTable} {slots : List Slot}
    (h : Compiles c t p branches k (.split q) tables slots) :
    q.tables.length = (t.segments p).length := by
  cases h with
  | split sorted cut joints derived =>
    obtain ⟨seg, segs, hsegs⟩ := List.exists_cons_of_ne_nil (t.segments_ne_nil p)
    have hlength := derived.forall₂.length_eq
    rw [length_ofSegments] at hlength
    have hjoints := length_joints (hsegs ▸ joints)
    rw [SplitSelect.tables_ofSegments (by rw [← hlength, hsegs, hjoints, List.length_cons]),
      List.length_map, hlength]

/-- **A derived table names what its select names, but for line breaks.** The text of a statement
over a path that is cut has one derived table for each segment. Each stands in it between
parentheses, indented, and is read there as its own text is read by itself. The identifiers in the
own text are the names of the select in order. Indented, they are these names with a tab behind
every line break, so they are the same exactly when no name breaks a line. -/
theorem CompileM.lexed_derivedTables {c : Compiler} {t : Tree} {mode : Mode} {p : Path}
    {branches : List NodeId} {s s' : CompileState} {st : Statement}
    (hst : (CompileM.statement c t mode p branches).Yields s st s') {q : SplitSelect}
    (hq : st.query = .split q) :
    q.tables.length = (t.segments p).length ∧ ∀ n select, q.tables[n]? = some select →
      ∃ front back before inner after ls,
        st.sql = front ++ "(\n" ++ indent (q.ownText c.dialect n select) ++
          ("\n) " ++ (Source.segment (n + 1)).name ++ back) ∧
        lexed (q.ownText c.dialect n select) = some ls ∧
        Lexeme.identifiers ls = select.takenNames c.dialect ∧
        lexed (indent (q.ownText c.dialect n select)) = some inner ∧
        lexed (front ++ "(\n") = some before ∧
        lexed ("\n) " ++ (Source.segment (n + 1)).name ++ back) = some after ∧
        lexed st.sql = some (before ++ inner ++ after) ∧
        Lexeme.identifiers inner = (Lexeme.identifiers ls).map indentBreaks ∧
        (Lexeme.identifiers inner = Lexeme.identifiers ls ↔
          ∀ name ∈ Lexeme.identifiers ls, '\n' ∉ name.toList) := by
  obtain ⟨hdialect, -, slots, hcompiles, -⟩ := CompileM.yields_statement hst
  rw [hq] at hcompiles
  refine ⟨hcompiles.length_tables, fun n select hselect ↦ ?_⟩
  have hsql : st.sql = (Query.split q).render c.dialect := by
    rw [(CompileM.text_statement hst).1, hdialect, hq]
  obtain ⟨front, back, before, inner, after, ls, hrender, hown, hnames, hinner, hbefore, hafter,
    hall⟩ := q.exists_lexed_render c.dialect hselect
  obtain ⟨hrespelled, hsame⟩ := identifiers_indent_iff hown hinner
  exact ⟨front, back, before, inner, after, ls, hsql.trans hrender, hown, hnames, hinner, hbefore,
    hafter, hsql ▸ hall, hrespelled, hsame⟩

/-- The derived table of the second edge, whose property breaks a line, names another column once it
is indented. -/
theorem lexed_brokenTree : ∃ st s' q select,
    (CompileM.statement inlineCompiler brokenTree .regular ⟨[1, 2, 3]⟩ []).Yields {} st s' ∧
      st.query = .split q ∧ q.tables[1]? = some select ∧ ∃ ls inner,
        lexed (q.ownText inlineCompiler.dialect 1 select) = some ls ∧
        lexed (indent (q.ownText inlineCompiler.dialect 1 select)) = some inner ∧
        "x\ny" ∈ Lexeme.identifiers ls ∧ "x\n\ty" ∈ Lexeme.identifiers inner ∧
        Lexeme.identifiers inner ≠ Lexeme.identifiers ls := by
  obtain ⟨st, s', hst, hP⟩ := CompileM.exists_yields (s := {})
    (m := CompileM.statement inlineCompiler brokenTree .regular ⟨[1, 2, 3]⟩ [])
    (P := fun st _ ↦ match st.query with
      | .split q => q.tables[1]?.any fun select ↦
          (select.takenNames inlineCompiler.dialect).contains "x\ny"
      | .single _ => false) (by decide +kernel)
  cases hq : st.query with
  | single q => simp [hq] at hP
  | split q =>
    rw [hq] at hP
    cases hselect : q.tables[1]? with
    | none => simp [hselect] at hP
    | some select =>
      have hbreak : "x\ny" ∈ select.takenNames inlineCompiler.dialect := by
        simpa [hselect] using hP
      obtain ⟨-, htables⟩ := CompileM.lexed_derivedTables hst hq
      obtain ⟨_, _, _, inner, _, ls, -, hown, hnames, hinner, -, -, -, hrespelled, hsame⟩ :=
        htables 1 select hselect
      refine ⟨st, s', q, select, hst, hq, hselect, ls, inner, hown, hinner, ?_, ?_, fun heq ↦ ?_⟩
      · rw [hnames]
        exact hbreak
      · rw [hrespelled, hnames]
        exact List.mem_map.mpr ⟨_, hbreak, by decide +kernel⟩
      · exact hsame.mp heq _ (hnames ▸ hbreak) (by decide)

end PathQuery
