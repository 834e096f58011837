import PathQuery.Proofs.Sql.Numbering

/-!
# Scanning a statement for placeholders

A database finds the placeholders of a statement by scanning its text, and does not look for them
in quoted names and in string literals. A numbered placeholder ends where its digits end, so what
it is depends on the character after it. The text of fragments is scanned here as it is written:
names are quiet whatever is in them, fixed texts are, and every operand is met once, under its
number.
-/

namespace PathQuery

/-! ## Scanning -/

/-- Where in a text a character stands. -/
inductive ScanZone where
  /-- Outside of quotes. -/
  | code
  /-- In a quoted name. -/
  | name
  /-- In a string literal. -/
  | literal
  /-- After a dollar sign and these digits. -/
  | number (digits : List Char)
  deriving DecidableEq, Repr

namespace ScanZone

/-- The numbered placeholder that ends here, if there is one. -/
def flush : ScanZone → List String
  | .number (c :: cs) => [String.ofList ('$' :: c :: cs)]
  | _ => []

/-- What a character outside of quotes is and leads to. -/
def enter (c : Char) : List String × ScanZone :=
  if c = '"' then ([], .name)
  else if c = '\'' then ([], .literal)
  else if c = '?' then (["?"], .code)
  else if c = '$' then ([], .number [])
  else ([], .code)

/-- The placeholders that a character completes, and where the next one stands. A quote that is
written twice leaves a name and enters it again. -/
def step : ScanZone → Char → List String × ScanZone
  | .code, c => enter c
  | .name, c => ([], if c = '"' then .code else .name)
  | .literal, c => ([], if c = '\'' then .code else .literal)
  | .number digits, c =>
    if c.isDigit then ([], .number (digits ++ [c]))
    else ((ScanZone.number digits).flush ++ (enter c).1, (enter c).2)

/-- The placeholders met in a text, in order. -/
def scan : ScanZone → List Char → List String
  | z, [] => z.flush
  | z, c :: cs => (z.step c).1 ++ scan (z.step c).2 cs

end ScanZone

open ScanZone

/-- The placeholders of a statement's text outside of quoted names and string literals, in
order. -/
def placeholders (text : String) : List String := scan .code text.toList

/-! ## Quiet text -/

/-- Scanning goes on behind the text as if it were not there. -/
def Quiet (cs : List Char) : Prop := ∀ rest, scan .code (cs ++ rest) = scan .code rest

theorem Quiet.nil : Quiet [] := fun _ ↦ rfl

theorem Quiet.append {xs ys : List Char} (hx : Quiet xs) (hy : Quiet ys) : Quiet (xs ++ ys) := by
  intro rest
  rw [List.append_assoc, hx, hy]

/-- Whether a character can neither end a statement nor open a comment or a quote of a kind that no
statement has. -/
def harmless (c : Char) : Bool := c ≠ ';' && c ≠ '-' && c ≠ '/' && c ≠ '[' && c ≠ '`'

/-- Whether no character of a text means anything to the scan, and all of them are harmless. -/
def inert (s : String) : Bool :=
  s.toList.all fun c ↦ (c ≠ '"' && c ≠ '\'' && c ≠ '?' && c ≠ '$') && harmless c

theorem inert_append (s s' : String) : inert (s ++ s') = (inert s && inert s') := by
  rw [inert, String.toList_append, List.all_append]
  rfl

theorem quiet_of_inert {s : String} (h : inert s) : Quiet s.toList := by
  intro rest
  rw [inert, List.all_eq_true] at h
  generalize s.toList = cs at h
  induction cs with
  | nil => rfl
  | cons c cs ih =>
    obtain ⟨hc, hcs⟩ := List.forall_mem_cons.mp h
    simp only [Bool.and_eq_true, decide_eq_true_eq, ne_eq] at hc
    have hstep : step .code c = ([], .code) := by
      obtain ⟨⟨⟨⟨hname, hliteral⟩, hmark⟩, hdollar⟩, -⟩ := hc
      rw [step, enter, if_neg hname, if_neg hliteral, if_neg hmark, if_neg hdollar]
    rw [List.cons_append, scan, hstep, List.nil_append, ih hcs]

theorem all_harmless_of_inert {s : String} (h : inert s) : s.toList.all harmless := by
  rw [inert, List.all_eq_true] at h
  refine List.all_eq_true.mpr fun c hc ↦ ?_
  exact (Bool.and_eq_true_iff.mp (h c hc)).2

/-- A quoted name is quiet, whatever is in it. -/
theorem quiet_quoteIdentifier (name : String) : Quiet (quoteIdentifier name).toList := by
  -- a doubled quote leaves the name and enters it again, so inside nothing ends it
  have hinside : ∀ (cs rest : List Char),
      scan .name (doubleQuotes cs ++ rest) = scan .name rest := by
    intro cs rest
    induction cs with
    | nil => rfl
    | cons c cs ih =>
      rw [doubleQuotes]
      split
      · exact ih
      · next hc =>
        rw [List.cons_append, scan, step, if_neg hc]
        exact ih
  intro rest
  rw [quoteIdentifier, String.toList_ofList, List.cons_append, List.cons_append, List.append_assoc]
  change scan .name (doubleQuotes name.toList ++ ('"' :: rest)) = _
  rw [hinside]
  rfl

/-- A line break is followed by an indentation without anything changing for the scan. -/
theorem scan_indentBreaks (z : ScanZone) (s : String) (rest : List Char) :
    scan z ((indentBreaks s).toList ++ rest) = scan z (s.toList ++ rest) := by
  have htab : ∀ (z : ScanZone) (cs : List Char),
      scan (z.step '\n').2 ('\t' :: cs) = scan (z.step '\n').2 cs := by
    intro z cs
    cases z <;> rfl
  rw [indentBreaks, String.toList_ofList]
  generalize s.toList = cs
  induction cs generalizing z with
  | nil => rfl
  | cons c cs ih =>
    rw [List.flatMap_cons, List.append_assoc, List.cons_append, scan]
    split
    · next hc =>
      subst hc
      rw [List.cons_append, List.cons_append, List.nil_append, scan, htab, ih]
    · rw [List.cons_append, List.nil_append, scan, ih]

theorem Quiet.indentBreaks {s : String} (h : Quiet s.toList) : Quiet (indentBreaks s).toList := by
  intro rest
  rw [scan_indentBreaks, h]

/-! ## The text of fragments -/

/-- The placeholders after the first `k`, `n` of them. -/
def Dialect.numbered (d : Dialect) (k n : ℕ) : List String :=
  (List.range' (k + 1) n).map fun i ↦ d.placeholder (i : Int)

/-- Whether a text begins with a character that ends a number. -/
def endsNumber (s : String) : Bool := s.toList.head?.any fun c ↦ !c.isDigit

theorem endsNumber_append {s : String} (h : endsNumber s) (s' : String) : endsNumber (s ++ s') := by
  rw [endsNumber] at h ⊢
  rw [String.toList_append]
  cases hs : s.toList with
  | nil => simp [hs] at h
  | cons c cs => simpa [hs] using h

theorem endsNumber_indentBreaks {s : String} (h : endsNumber s) : endsNumber (indentBreaks s) := by
  rw [endsNumber] at h ⊢
  rw [indentBreaks, String.toList_ofList]
  cases hs : s.toList with
  | nil => simp [hs] at h
  | cons c cs =>
    rw [hs] at h
    by_cases hc : c = '\n'
    · simp [hc]
    · simpa [hc] using h

/-- Outside of quotes, the placeholder before a text ends with it, and the text is quiet. -/
theorem scan_of_endsNumber {s : String} (hquiet : Quiet s.toList) (hends : endsNumber s)
    (digits rest : List Char) : scan (.number digits) (s.toList ++ rest) =
      (ScanZone.number digits).flush ++ scan .code rest := by
  rw [← hquiet rest]
  rw [endsNumber] at hends
  cases hs : s.toList with
  | nil => simp [hs] at hends
  | cons c cs =>
    have hdigit : c.isDigit = false := by simpa [hs] using hends
    have hstep : step (.number digits) c =
        ((ScanZone.number digits).flush ++ (step .code c).1, (step .code c).2) := by
      simp [step, hdigit]
    rw [List.cons_append, scan, scan, hstep, List.append_assoc]

/-- Outside of quotes, a quiet text ends the number that may come before it and does nothing
else. -/
theorem scan_quiet {s : String} (hquiet : Quiet s.toList) {bound : Bool}
    (hends : bound → endsNumber s) {z : ScanZone}
    (hz : z = .code ∨ bound ∧ ∃ digits, z = .number digits) (rest : List Char) :
    scan z (s.toList ++ rest) = z.flush ++ scan .code rest := by
  rcases hz with rfl | ⟨hbound, digits, rfl⟩
  · exact hquiet rest
  · exact scan_of_endsNumber hquiet (hends hbound) digits rest

namespace Fragment

/-- Fixed texts are quiet, and one behind an operand ends its number; `bound` tells whether an
operand comes before. -/
def Spaced : Bool → List Fragment → Prop
  | _, [] => True
  | bound, .text s :: rest => Quiet s.toList ∧ (bound → endsNumber s) ∧ Spaced false rest
  | _, .name _ :: rest => Spaced false rest
  | _, .operand _ :: rest => Spaced true rest

section Placeholder

variable {z : ScanZone} (hz : z = .code ∨ ∃ digits, z = .number digits)

include hz

theorem scan_mark (cs : List Char) : scan z ('?' :: cs) = z.flush ++ "?" :: scan .code cs := by
  rcases hz with rfl | ⟨digits, rfl⟩
  · rfl
  · rw [scan, step, if_neg (by decide), List.append_assoc]
    rfl

theorem scan_dollar (cs : List Char) : scan z ('$' :: cs) = z.flush ++ scan (.number []) cs := by
  rcases hz with rfl | ⟨digits, rfl⟩
  · rfl
  · rw [scan, step, if_neg (by decide), List.append_assoc]
    rfl

end Placeholder

theorem scan_digits {ds : List Char} (hds : ∀ c ∈ ds, c.isDigit) (digits rest : List Char) :
    scan (.number digits) (ds ++ rest) = scan (.number (digits ++ ds)) rest := by
  induction ds generalizing digits with
  | nil => rw [List.nil_append, List.append_nil]
  | cons c ds ih =>
    obtain ⟨hc, hds⟩ := List.forall_mem_cons.mp hds
    rw [List.cons_append, scan, step, if_pos hc, List.nil_append, ih hds, List.append_assoc]
    rfl

/-- Behind its digits a numbered placeholder is complete. -/
theorem flush_repr (n : ℕ) : (ScanZone.number (Nat.repr n).toList).flush =
    [String.ofList ('$' :: (Nat.repr n).toList)] := by
  rw [Nat.toList_repr]
  cases hdigits : Nat.toDigits 10 n with
  | nil => exact absurd hdigits Nat.toDigits_ne_nil
  | cons c cs => rfl

/-- Scanning fragments meets their operands, each under its number. -/
theorem scan_chars (d : Dialect) {bound : Bool} {fs : List Fragment} (h : Spaced bound fs) (k : ℕ)
    {z : ScanZone} (hz : z = .code ∨ bound ∧ ∃ digits, z = .number digits) :
    scan z (chars d k fs) = z.flush ++ d.numbered k (operands fs).length := by
  induction fs generalizing bound k z with
  | nil => simp [chars, renderFrom, operands, scan, Dialect.numbered]
  | cons x fs ih =>
    cases x with
    | text s =>
      obtain ⟨hquiet, hends, hrest⟩ := h
      change scan z (s.toList ++ chars d k fs) = _
      rw [scan_quiet hquiet hends hz, ih hrest k (.inl rfl)]
      rfl
    | name n =>
      have hends : endsNumber (quoteIdentifier n) := by
        simp [endsNumber, quoteIdentifier]
      change scan z ((quoteIdentifier n).toList ++ chars d k fs) = _
      rw [scan_quiet (quiet_quoteIdentifier n) (fun _ ↦ hends) hz, ih h k (.inl rfl)]
      rfl
    | operand v =>
      have hnumbered : d.numbered k (operands (.operand v :: fs)).length =
          d.placeholder ((k + 1 : ℕ) : Int) :: d.numbered (k + 1) (operands fs).length := rfl
      change scan z ((d.placeholder ((k + 1 : ℕ) : Int)).toList ++ chars d (k + 1) fs) = _
      have hopen : z = .code ∨ ∃ digits, z = .number digits := hz.imp_right And.right
      rw [hnumbered]
      cases hengine : d.engine with
      | sqlite =>
        have hmark : d.placeholder ((k + 1 : ℕ) : Int) = "?" := by
          rw [Dialect.placeholder, hengine]
        rw [hmark]
        change scan z ('?' :: chars d (k + 1) fs) = _
        rw [scan_mark hopen, ih h (k + 1) (.inl rfl)]
        rfl
      | postgres =>
        -- the digits are met one by one, and the fragments behind them complete the placeholder
        rw [placeholder_postgres hengine, String.toList_ofList, List.cons_append,
          scan_dollar hopen, scan_digits (isDigit_of_mem_repr (k + 1)), List.nil_append,
          ih h (k + 1) (.inr ⟨rfl, _, rfl⟩), flush_repr]
        rfl

/-- Fragments without operands are quiet. -/
theorem quiet_chars (d : Dialect) {bound : Bool} {fs : List Fragment} (h : Spaced bound fs)
    (hfree : operands fs = []) (k : ℕ) : Quiet (chars d k fs) := by
  induction fs generalizing bound with
  | nil => exact .nil
  | cons x fs ih =>
    cases x with
    | text s => exact h.1.append (ih h.2.2 hfree)
    | name n => exact (quiet_quoteIdentifier n).append (@ih false h hfree)
    | operand v => cases hfree

end Fragment

end PathQuery
