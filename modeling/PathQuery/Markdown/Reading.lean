import PathQuery.Markdown.Address
import PathQuery.Markdown.Definition
import PathQuery.Markdown.Html
import PathQuery.Markdown.Inline

/-!
# Reading the text of a block

The lines of a block are read from left to right. A sign that is not protected by a backslash may
start something; what has been passed over before it is plain text then. If nothing starts there,
the sign belongs to the plain text that follows. At the end of a line the rest of it is a plain text
of its own, without the blanks at its end.

There are two manners of reading: the basic one, and an extended one for pages, where text may also
be struck through, items of lists may start with a box to be ticked, and addresses are found without
brackets.
-/

namespace PathQuery.Markdown

/-- How text is read. -/
structure Manner where
  /-- Whether the extended manner is used. -/
  extended : Bool := false
  /-- The link definitions. -/
  definitions : List Definition := []
  /-- Whether the text is the first of a list item. -/
  startsItem : Bool := false

/-- What an attempt comes to: the pieces, the last of which stands first, and the place behind what
has been read, if something has. -/
abbrev Attempt := List Piece × Option Passage

/-! ## Code -/

/-- The text up to the next run of exactly `n` backticks, and how many characters lie up to the end
of the run. -/
def codeEnd (n : Nat) : Nat → List Char → List Char → Option (List Char × Nat)
  | 0, _, _ => none
  | _, _, [] => none
  | fuel + 1, acc, c :: rest =>
    if c.toNat = 0x60 then
      let m := runLength c (c :: rest)
      if m = n then some (acc.reverse, acc.length + m)
      else codeEnd n fuel (List.replicate m c ++ acc) (rest.drop (m - 1))
    else codeEnd n fuel (c :: acc) rest

/-- The text of code: one blank at each end is left out when both ends have one and there is more
than blanks. -/
def codeText (cs : List Char) : String :=
  let isSpace (c : Option Char) : Bool := c = some ' ' || c = some '\n'
  if isSpace cs.head? && isSpace cs.getLast? && !cs.all isBlankChar then
    String.ofList ((cs.drop 1).dropLast)
  else String.ofList cs

/-- Reads code. Backticks that nothing closes are plain text. -/
def readCode (pieces : List Piece) (p : Passage) (tick : Char) : Attempt :=
  let n := runLength tick p.rest
  let start := p.advance n
  let body := start.flat
  match codeEnd n (body.length + 1) [] body with
  | some (text, length) => (.done (.code (codeText text)) :: pieces, some (start.advance length))
  | none => (.done (.text (String.ofList (p.rest.take n)) .none) :: pieces, some start)

/-! ## Links -/

/-- The pieces after the nearest opening bracket, the bracket, and the pieces before it, the last
first. -/
def splitBracket : List Piece → List Piece → Option (List Piece × Bool × Passage × List Piece)
  | _, [] => none
  | inside, .bracket image start :: rest => some (inside, image, start, rest)
  | inside, p :: rest => splitBracket (p :: inside) rest

/-- Reads a destination in parentheses, with a title perhaps, from behind the opening one. -/
def inlineTarget? (p : Passage) : Option (String × Passage) := do
  let p := p.skipBlanks.2
  if p.peek = some ')' then return ("", p.advance 1)
  let (target, p) ← destination? p
  let p := p.skipBlanks.2
  let target := String.ofList target
  if p.peek = some ')' then return (target, p.advance 1)
  let opener ← p.peek
  let closer ← titleCloser? opener
  let (p, title) := (p.advance 1).close opener closer
  let _ ← title
  let p := p.skipBlanks.2
  if p.peek = some ')' then some (target, p.advance 1) else none

/-- What a label stands for. Labels of more than 999 bytes stand for nothing. -/
def lookUp (definitions : List Definition) (label : List Char) : Option String :=
  let bytes := label.foldl (fun n c ↦ n + c.utf8Size) 0
  if bytes > 999 then none
  else (definitions.find? (·.label = normalLabel label)).map (·.destination)

/-- What a bracket with a text links to, and the place behind: a target in parentheses, what a label
in brackets stands for, or what the text itself stands for. -/
def linkTarget? (definitions : List Definition) (text : List Char) (p : Passage) :
    Option (String × Passage) :=
  let shortcut := (lookUp definitions text).map (·, p)
  match p.peek with
  | some '(' => (inlineTarget? (p.advance 1)).orElse fun _ ↦ shortcut
  | some '[' =>
    match (p.advance 1).close '[' ']' with
    | (after, some label) =>
      (lookUp definitions (if label.all isBlankChar then text else label)).map (·, after)
    | (_, none) => shortcut
  | _ => shortcut

/-- Reads a closing bracket. The bracket that it belongs to is plain text if there is no link; there
is none in the text of another. -/
def readCloser (definitions : List Definition) (pieces : List Piece) (p : Passage) : Attempt :=
  match splitBracket [] pieces with
  | none => (pieces, none)
  | some (inside, image, start, outside) =>
    let target :=
      if !image && inside.any Piece.holdsLink then none
      else linkTarget? definitions (start.upTo p) (p.advance 1)
    match target with
    | some (target, after) =>
      (.done (.link image target (pairRuns inside)) :: outside, some after)
    | none => (inside.reverse ++ addText outside (Piece.bracketText image), none)

/-- Whether a bracket is open. -/
def hasBracket (pieces : List Piece) : Bool :=
  pieces.any fun
    | .bracket .. => true
    | _ => false

/-! ## Attempts -/

/-- Reads something between angle brackets. -/
def readAngled (pieces : List Piece) (p : Passage) : Attempt :=
  match angledAddress? p.rest with
  | some (mailbox, a) =>
    let isPlain := !mailbox || lowerName (a.take 7) = "mailto:"
    (.done (.address (if isPlain then "" else "mailto:") (String.ofList a)) :: pieces,
      some (p.advance (a.length + 2)))
  | none =>
    match afterHtml? p.flat with
    | some rest => (.done .html :: pieces, some (p.advance (p.flat.length - rest.length)))
    | none => (pieces, none)

/-- Reads an address without brackets, which a sign or blank may precede. -/
def readBare (pieces : List Piece) (p : Passage) : Attempt :=
  if hasBracket pieces then (pieces, none)
  else
    let lead := p.rest.take 1
    let skips : Bool := lead.any fun c ↦ c = ' ' || c = '~' || c = '('
    match bareAddress? (if skips then p.rest.drop 1 else p.rest) with
    | some (scheme, a) =>
      let pieces := if skips then addText pieces (String.ofList lead) else pieces
      (.done (.address scheme (String.ofList a)) :: pieces,
        some (p.advance (a.length + if skips then 1 else 0)))
    | none => (pieces, none)

/-- Reads a run of signs. -/
def readRun (pieces : List Piece) (p : Passage) (sign : Char) : Attempt :=
  let r := Run.ofChars p.before sign p.rest
  (.run r :: pieces, some (p.advance r.count))

/-- Reads signs that strike text through: one or two of them. -/
def readStrike (pieces : List Piece) (p : Passage) : Attempt :=
  if runLength '~' p.rest > 2 || p.before = '~' then readBare pieces p else readRun pieces p '~'

/-- The length of a box to be ticked, and whether it is ticked. -/
def checkbox? (cs : List Char) : Option (Nat × Bool) :=
  let isSpace (c : Char) : Bool := isBlankChar c && c.toNat ≠ 11
  match cs with
  | '[' :: c :: ']' :: rest =>
    if isSpace c || c = 'x' || c = 'X' then
      some (3 + (rest.takeWhile isSpace).length, c = 'x' || c = 'X')
    else none
  | _ => none

/-- Reads an opening bracket, or a box to be ticked. -/
def readBracket (m : Manner) (pieces : List Piece) (p : Passage) : Attempt :=
  let box := if m.extended && m.startsItem && pieces.isEmpty then checkbox? p.rest else none
  match box with
  | some (length, ticked) => (.done (.checkbox ticked) :: pieces, some (p.advance length))
  | none => (.bracket false (p.advance 1) :: pieces, some (p.advance 1))

/-- Whether something may start with a character; a blank stands for the head of a line too. -/
def Manner.starts (m : Manner) (c : Char) : Bool :=
  c.toNat = 0x60 || c = '!' || c = '[' || c = ']' || c = '<' || c = '*' || c = '_' ||
    (m.extended && (c = ' ' || c = '~' || c = '('))

/-- Tries to read what may start with a character. -/
def Manner.attempt (m : Manner) (pieces : List Piece) (p : Passage) (c : Char) : Attempt :=
  if c.toNat = 0x60 then readCode pieces p c
  else if c = '!' then
    if "![".toList.isPrefixOf p.rest then
      (.bracket true (p.advance 2) :: pieces, some (p.advance 2))
    else (pieces, none)
  else if c = '[' then readBracket m pieces p
  else if c = ']' then readCloser m.definitions pieces p
  else if c = '<' then readAngled pieces p
  else if c = '*' || c = '_' then readRun pieces p c
  else if c = '~' then readStrike pieces p
  else readBare pieces p

/-! ## Lines -/

/-- Splits a line into its text and how it ends; the flag tells whether blanks at the end of the
text count. -/
def splitEnding (line : List Char) : List Char × Ending × Bool :=
  match line.reverse with
  | '\n' :: back =>
    let endsSlash : List Char → Bool
      | '\\' :: c :: _ => c ≠ '\\'
      | ['\\'] => true
      | _ => false
    let unreturned := match back with
      | '\r' :: rest => rest
      | rest => rest
    if endsSlash unreturned then ((unreturned.drop 1).reverse, .hard, true)
    else if "  ".toList.isPrefixOf unreturned then ((unreturned.drop 2).reverse, .hard, false)
    else (back.reverse, .soft, false)
  | _ => (line, .none, false)

/-- What reading a line comes to. -/
inductive LineRead where
  /-- Something has been read, and the line goes on behind it. -/
  | found (pieces : List Piece) (p : Passage) (escaped : Bool)
  /-- The line has ended; some characters have been passed over before. -/
  | ended (pieces : List Piece) (passed : List Char) (escaped : Bool)

/-- Reads on in a line up to the next thing that starts. The characters passed over stand the last
first. -/
def readOn (m : Manner) (pieces : List Piece) (passed : List Char) (escaped atHead : Bool)
    (p : Passage) : List Char → LineRead
  | [] => .ended pieces passed.reverse escaped
  | c :: cs =>
    let isSpace := isBlankChar c && c ≠ '\r'
    let isSign := isPunctuation c
    let trigger := if isSpace || (atHead && !isSign) then ' ' else c
    let tries := ((isSign && !escaped) || isSpace || atHead) && m.starts trigger
    let found :=
      if !tries then (pieces, none)
      else if passed.isEmpty then m.attempt pieces p trigger
      else m.attempt (addText pieces (String.ofList passed.reverse)) p trigger
    match found with
    | (pieces, some after) => .found pieces after escaped
    | (pieces, none) =>
      let escaped := escaped && !tries
      readOn m pieces (if tries then [c] else c :: passed) (!escaped && c = '\\') false (p.advance 1) cs

/-- Reads lines into pieces, the last of which stands first. -/
def readPieces (m : Manner) : Nat → List Piece → Bool → Passage → List Piece
  | 0, pieces, _, _ => pieces
  | fuel + 1, pieces, escaped, p =>
    if p.rest.isEmpty then pieces
    else
      let (body, ending, keeps) := splitEnding p.rest
      match readOn m pieces [] escaped true p body with
      | .found pieces p escaped => readPieces m fuel pieces escaped p
      | .ended pieces passed escaped =>
        let text := if keeps then passed else trimRight passed
        readPieces m fuel (.done (.text (String.ofList text) ending) :: pieces) escaped p.nextLine

/-- The pieces of the lines of a heading or paragraph. -/
def inlines (m : Manner) (lines : List Line) : List Inline :=
  let p := Passage.ofLines lines
  pairRuns (readPieces m (p.flat.length + lines.length + 1) [] false p).reverse

/-- The plain text of a heading, outside of emphasis, code and links. -/
def outerText (is : List Inline) : String :=
  String.join (is.map fun
    | .text s _ => s
    | _ => "")

end PathQuery.Markdown
