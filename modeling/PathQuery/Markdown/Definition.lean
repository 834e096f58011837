import PathQuery.Markdown.Line
import PathQuery.Text.Blank

/-!
# Link definitions

A paragraph may start with definitions, each of which gives a label a destination and perhaps a
title. They may go over several lines, and they are no part of the text. A label is compared
without regard to letter case and to how much blank there is between its words.
-/

namespace PathQuery.Markdown

/-- What a label stands for. -/
structure Definition where
  /-- The label in the form in which it is compared. -/
  label : String
  /-- The destination as it is written. -/
  destination : String
  deriving Inhabited

/-- Writes every row of blanks as one. -/
def collapseBlanks : List Char → List Char
  | [] => []
  | c :: cs =>
    match collapseBlanks cs with
    | ' ' :: rest => if isBlankChar c then ' ' :: rest else c :: ' ' :: rest
    | rest => if isBlankChar c then ' ' :: rest else c :: rest

/-- A label in the form in which it is compared. -/
def normalLabel (cs : List Char) : String :=
  let trimmed := trimRight (cs.dropWhile isBlankChar)
  String.ofList (collapseBlanks (trimmed.flatMap fullFold))

/-! ## Destinations -/

/-- How many characters stand before the closing angle bracket of a destination. -/
def angledLength? : List Char → Option Nat
  | [] => none
  | '>' :: _ => some 0
  | '\\' :: d :: cs =>
    if isPunctuation d then (angledLength? cs).map (· + 2) else (angledLength? (d :: cs)).map (· + 1)
  | _ :: cs => (angledLength? cs).map (· + 1)

/-- The length of a destination without angle brackets: up to a blank, or to a parenthesis that
closes more than are open. -/
def bareLength : Nat → List Char → Nat
  | _, [] => 0
  | depth, '\\' :: d :: cs =>
    if isPunctuation d then bareLength depth cs + 2 else bareLength depth (d :: cs) + 1
  | depth, c :: cs =>
    if c = '(' then bareLength (depth + 1) cs + 1
    else if c = ')' then (if depth = 0 then 0 else bareLength (depth - 1) cs + 1)
    else if isBlankChar c then 0
    else bareLength depth cs + 1

/-- Reads a destination. -/
def destination? (p : Passage) : Option (List Char × Passage) :=
  let p := p.skipBlanks.2
  match p.rest with
  | '<' :: cs => (angledLength? cs).map fun n ↦ (cs.take n, p.advance (n + 2))
  | cs =>
    let n := bareLength 0 cs
    if n = 0 then none else some (cs.take n, p.advance n)

/-- The character that closes a title. -/
def titleCloser? : Char → Option Char
  | '"' => some '"'
  | '\'' => some '\''
  | '(' => some ')'
  | _ => none

/-! ## Definitions -/

/-- A definition that was read: its first line, the line after its last, and the place behind. -/
structure ReadDefinition where
  /-- The definition. -/
  definition : Definition
  /-- Its first line. -/
  first : Nat
  /-- The line after its last. -/
  stop : Nat
  /-- Where reading goes on. -/
  after : Passage

/-- Reads a definition. A title that is none of it leaves the definition without one, if it starts
on a line of its own. -/
def definition? (p : Passage) : Option ReadDefinition := do
  let p := p.skipBlanks.2
  if p.peek ≠ some '[' then none
  let first := p.line
  let (p, label) := (p.advance 1).close '[' ']'
  let label ← label
  if label.all isBlankChar || p.peek ≠ some ':' then none
  let (target, p) ← destination? (p.advance 1).skipBlanks.2
  let definition : Definition := ⟨normalLabel label, String.ofList target⟩
  let alone := p.restIsBlank
  let last := p.line
  let (gap, p) := p.skipBlanks
  match p.peek.bind fun c ↦ (titleCloser? c).map (c, ·) with
  | none => if alone then some ⟨definition, first, last + 1, p⟩ else none
  | some (opener, closer) =>
    if gap = 0 then none
    match (p.advance 1).close opener closer with
    | (p, none) => if alone then some ⟨definition, first, last + 1, p.nextLine⟩ else none
    | (p, some _) =>
      if p.restIsBlank then some ⟨definition, first, p.line + 1, p⟩
      else if alone then some ⟨definition, first, max last (first + 1), p⟩
      else none

/-- Reads definitions one after the other: what they are, and the first line and the line after
the last of each. -/
def definitionsFrom : Nat → Passage → List ReadDefinition
  | 0, _ => []
  | fuel + 1, p =>
    match definition? p with
    | some d => d :: definitionsFrom fuel d.after
    | none => []

/-- Splits the definitions off the head of a paragraph. -/
def splitDefinitions (lines : List Line) : List Definition × List Line :=
  let found := definitionsFrom (2 * lines.length + 1) (.ofLines lines)
  let kept := found.foldl (fun (lines, dropped) d ↦
    if lines.isEmpty then (lines, dropped)
    else (lines.take (d.first - dropped) ++ lines.drop (d.stop - dropped), d.stop)) (lines, 0)
  (found.map (·.definition), kept.1)

end PathQuery.Markdown
