/-!
# Lines of markdown

Indentation is measured in columns, and a tab reaches to the next multiple of four. A line knows
the column its text starts at and how many blanks a tab has left that was only partly used up by
the blocks around it, so that they still count for the rest.
-/

namespace PathQuery.Markdown

/-! ## Characters -/

/-- Whether a character counts as blank. -/
def isBlankChar (c : Char) : Bool :=
  c = ' ' || c = '\t' || c = '\r' || c = '\n' || c.toNat = 11 || c.toNat = 12

/-- Whether a character is ASCII punctuation. -/
def isPunctuation (c : Char) : Bool :=
  let n := c.toNat
  (33 ≤ n && n ≤ 47) || (58 ≤ n && n ≤ 64) || (91 ≤ n && n ≤ 96) || (123 ≤ n && n ≤ 126)

/-- Some characters without the blanks at their end. -/
def trimRight (cs : List Char) : List Char := (cs.reverse.dropWhile isBlankChar).reverse

/-- The longest run of a character at the head of a text. -/
def runLength (c : Char) (cs : List Char) : Nat := (cs.takeWhile (· = c)).length

/-! ## Columns -/

/-- The width of a tab at a column. -/
def tabWidth (column : Nat) : Nat := 4 - column % 4

/-- The columns of leading blanks from a column on, and how many characters they are. -/
def indentation (column : Nat) : List Char → Nat × Nat
  | ' ' :: cs => let (w, n) := indentation (column + 1) cs; (w + 1, n + 1)
  | '\t' :: cs =>
    let (w, n) := indentation (column + tabWidth column) cs
    (w + tabWidth column, n + 1)
  | _ => (0, 0)

/-- How many leading blanks reach to a width, and by how much the last reaches beyond it. -/
def indentPosition? (column width : Nat) : List Char → Option (Nat × Nat)
  | cs => go 0 0 cs
where
  /-- The same, when so many characters reach to a width already. -/
  go (count reached : Nat) : List Char → Option (Nat × Nat)
    | ' ' :: cs => if reached < width then go (count + 1) (reached + 1) cs else done count reached
    | '\t' :: cs =>
      if reached < width then go (count + 1) (reached + tabWidth (column + reached)) cs
      else done count reached
    | _ => done count reached
  /-- The answer for so many characters. -/
  done (count reached : Nat) : Option (Nat × Nat) :=
    if width ≤ reached then some (count, reached - width) else none

/-! ## Lines -/

/-- The rest of a line. -/
structure Line where
  /-- The blanks that a tab has left. -/
  padding : Nat := 0
  /-- The characters after them, with the line feed if there is one. -/
  chars : List Char
  /-- The column of the first of them. -/
  column : Nat := 0
  /-- The character before the first of them in the document. -/
  before : Char := '\n'
  deriving Inhabited

namespace Line

/-- The text of a line with the blanks that a tab has left. -/
def value (l : Line) : List Char := List.replicate l.padding ' ' ++ l.chars

/-- The column at which the text starts. -/
def offset (l : Line) : Nat := l.column - l.padding

/-- The columns by which a line is indented, and the characters that do so. -/
def indent (l : Line) : Nat × Nat := indentation l.offset l.value

/-- Whether a line has nothing but blanks. -/
def isBlank (l : Line) : Bool := l.chars.all isBlankChar

/-- Moves over `n` characters of the text. -/
def advance : Nat → Line → Line
  | 0, l => l
  | n + 1, l =>
    if l.padding > 0 then advance n { l with padding := l.padding - 1 }
    else match l.chars with
      | c :: cs =>
        let column := l.column + if c = '\t' then tabWidth l.column else c.utf8Size
        advance n { chars := cs, column, before := c }
      | [] => l

/-- Moves over `n` characters, the last of which leaves some blanks. -/
def advancePadded (l : Line) (n padding : Nat) : Line :=
  let l := l.advance n
  { l with padding := max padding l.padding }

/-- What is left behind the text of a line: its line feed. -/
def atEnd (l : Line) : Line := { l with padding := 0, chars := l.chars.filter (· = '\n') }

/-- A line without its leading blanks. -/
def trimLeft (l : Line) : Line :=
  let n := (l.chars.takeWhile isBlankChar).length
  if n = l.chars.length then { l with padding := 0, chars := [] }
  else { l with padding := 0 }.advance n

end Line

/-- The lines of a document, each with its line feed. -/
def splitLines (text : String) : List Line :=
  let parts := text.toList.splitOn '\n'
  let ended := parts.dropLast.map fun p ↦ ({ chars := p ++ ['\n'] } : Line)
  match parts.getLast? with
  | some [] | none => ended
  | some p => ended ++ [{ chars := p }]

/-! ## Passages -/

/-- A place in the lines of a block. Except at the end, there is a character left on its line. -/
structure Passage where
  /-- The number of the line. -/
  line : Nat := 0
  /-- The character before the place. -/
  before : Char := '\n'
  /-- The rest of the line. -/
  rest : List Char
  /-- The lines after it. -/
  more : List Line := []
  deriving Inhabited

namespace Passage

/-- The start of some lines. -/
def ofLines : List Line → Passage
  | [] => { rest := [] }
  | l :: ls => { before := '\n', rest := l.value, more := ls }

/-- The next character. -/
def peek (p : Passage) : Option Char := p.rest.head?

/-- Moves to the next line. -/
def nextLine (p : Passage) : Passage :=
  match p.more with
  | l :: ls =>
    { line := p.line + 1, before := if l.padding > 0 then ' ' else l.before, rest := l.value, more := ls }
  | [] => { p with line := p.line + 1, rest := [] }

/-- Moves over `n` characters. -/
def advance : Nat → Passage → Passage
  | 0, p => p
  | n + 1, p =>
    match p.rest with
    | [] => p
    | [c] => if p.more.isEmpty then { p with before := c, rest := [] } else advance n p.nextLine
    | c :: cs => advance n { p with before := c, rest := cs }

/-- Everything that is left. -/
def flat (p : Passage) : List Char := p.rest ++ p.more.flatMap Line.value

/-- The text from one place to a later one. -/
def upTo (p q : Passage) : List Char := p.flat.take (p.flat.length - q.flat.length)

/-- How many blanks are at the head of everything that is left. -/
def skipBlanks (p : Passage) : Nat × Passage :=
  let n := (p.flat.takeWhile isBlankChar).length
  (n, p.advance n)

/-- Whether the rest of the line is blank. -/
def restIsBlank (p : Passage) : Bool := p.rest.all isBlankChar

/-- Reads up to a closing character, with what has been read in front. -/
def closeFrom (opener closer : Char) : Nat → List Char → Passage → Passage × Option (List Char)
  | 0, _, p => (p, none)
  | fuel + 1, acc, p =>
    match p.rest with
    | [] => (p, none)
    | c :: cs =>
      let escapes := c = '\\' && (cs.head?.map isPunctuation).getD false
      if escapes then closeFrom opener closer fuel (cs.take 1 ++ c :: acc) (p.advance 2)
      else if c = closer then (p.advance 1, some acc.reverse)
      else if c = opener then (p, none)
      else closeFrom opener closer fuel (c :: acc) (p.advance 1)

/-- Reads up to a closing character. One that opens another ends the search, and so does the end
of the lines; the place where it ended is told either way. -/
def close (opener closer : Char) (p : Passage) : Passage × Option (List Char) :=
  closeFrom opener closer (p.flat.length + 1) [] p

end Passage

end PathQuery.Markdown
