import PathQuery.Yaml.Token.Scalar

/-!
# Scanning tokens

A token is what the scanner finds in the text: an indicator, a scalar, or one of the marks that
the scanner puts in where indentation opens and closes a collection. Only the line a token starts
on is kept of its place.

The scanner turns a text into tokens. Indentation is turned into tokens that open and close
collections. A key need not be marked: a scalar, or a collection in brackets, may turn out to be
one when a colon follows it on the same line, and the token that says so is put in front of it
then. The place of the last candidate is remembered for every level of brackets.

Tokens are scanned as they are asked for. A token is handed out only when two more stand behind it,
and when it can no longer turn out to be a key, so a fault shows before the token in front of it.
-/

namespace PathQuery.Yaml

/-! ## Tokens -/

/-- What a token is. -/
inductive TokenKind where
  /-- A version directive. -/
  | version (major minor : Nat)
  /-- A directive that gives a tag handle its meaning. -/
  | handle (name meaning : String)
  /-- The mark `---`. -/
  | documentStart
  /-- The mark `...`. -/
  | documentEnd
  /-- The end of the text. -/
  | streamEnd
  /-- An indented sequence opens. -/
  | blockSequence
  /-- An indented mapping opens. -/
  | blockMapping
  /-- An indented collection closes. -/
  | blockEnd
  /-- An opening bracket. -/
  | flowSequence
  /-- A closing bracket. -/
  | flowSequenceEnd
  /-- An opening brace. -/
  | flowMapping
  /-- A closing brace. -/
  | flowMappingEnd
  /-- A dash. -/
  | blockEntry
  /-- A comma. -/
  | flowEntry
  /-- A key follows. -/
  | key
  /-- A value follows. -/
  | value
  /-- A reference to an anchor. -/
  | alias (name : String)
  /-- An anchor. -/
  | anchor (name : String)
  /-- A tag: a handle and what follows it. -/
  | tag (handle rest : String)
  /-- A scalar; only a plain one is open to interpretation. -/
  | scalar (text : String) (plain : Bool)
  deriving DecidableEq, Repr, Inhabited

/-- A token and the line it starts on, counted from one. -/
structure Token where
  /-- What it is. -/
  kind : TokenKind
  /-- The line. -/
  line : Nat
  deriving DecidableEq, Repr, Inhabited

/-! ## The scanner -/

/-- A token that may turn out to be a key. -/
structure KeyCandidate where
  /-- Whether anything but a key would be wrong here. -/
  required : Bool
  /-- Its number among the tokens of the text. -/
  number : Nat
  /-- Where it starts. -/
  start : Cursor

/-- The state of the scanner. -/
structure Scanner where
  /-- The place in the text. -/
  cursor : Cursor
  /-- How long the text is. -/
  size : Nat
  /-- Whether the text cannot be read to its end. -/
  spoilt : Bool := false
  /-- Where the effect of a second byte order mark ends. -/
  markReach : Nat := 0
  /-- The tokens that were found and not handed out. -/
  pending : Array Token := #[]
  /-- How many tokens were handed out. -/
  handedOut : Nat := 0
  /-- The column of the innermost indented collection, -1 outside all. -/
  indent : Int := -1
  /-- The columns of the collections around it. -/
  indents : List Int := []
  /-- Whether a key may start here without a mark. -/
  keyAllowed : Bool := true
  /-- Whether the last token reaches beyond its line. -/
  lineEnded : Bool := false
  /-- The candidates, one for every level of brackets, innermost first. -/
  candidates : List (Option KeyCandidate) := [none]

namespace Scanner

/-- Whether the scanner is inside brackets. -/
def inFlow (s : Scanner) : Bool := s.candidates.length > 1

/-- How deeply collections may be nested, inside and outside brackets. -/
def maxDepth : Nat := 10000

/-- Adds a token. -/
def push (s : Scanner) (kind : TokenKind) (line : Nat) : Scanner :=
  { s with pending := s.pending.push ⟨kind, line + 1⟩ }

/-- Adds a token that starts here. -/
def pushHere (s : Scanner) (kind : TokenKind) : Scanner := s.push kind s.cursor.line

/-- Adds a token of `n` characters and moves over them. -/
def pushMark (s : Scanner) (kind : TokenKind) (n : Nat) : Scanner :=
  { s.pushHere kind with cursor := s.cursor.advance n }

/-- Puts a token in front of the one with a number. -/
def insertAt (s : Scanner) (number : Nat) (kind : TokenKind) (line : Nat) : Scanner :=
  let place := number - s.handedOut
  { s with pending :=
      s.pending.extract 0 place ++ #[⟨kind, line + 1⟩] ++ s.pending.extract place s.pending.size }

/-- Opens an indented collection at a column, unless one is open there. The token goes in front of
the one with a number, or to the end. -/
def openAt (s : Scanner) (column : Nat) (number : Option Nat) (kind : TokenKind) (line : Nat) :
    Option Scanner :=
  if s.inFlow || (column : Int) ≤ s.indent then some s
  else if s.indents.length ≥ maxDepth then none
  else
    let s := { s with indents := s.indent :: s.indents, indent := column }
    match number with
    | some n => some (s.insertAt n kind line)
    | none => some (s.push kind line)

/-- Closes the collections in a list of columns that lie deeper than a column. -/
def closeLoop (s : Scanner) (column : Int) : List Int → Scanner
  | [] => s
  | outer :: rest =>
    if s.indent > column then
      closeLoop { s.pushHere .blockEnd with indent := outer, indents := rest } column rest
    else s

/-- Closes the indented collections that lie deeper than a column. -/
def closeTo (s : Scanner) (column : Int) : Scanner :=
  if s.inFlow then s else s.closeLoop column s.indents

/-- Drops the candidate of this level. One that had to be a key is an error. -/
def dropCandidate (s : Scanner) : Option Scanner :=
  match s.candidates with
  | some k :: rest => if k.required then none else some { s with candidates := none :: rest }
  | _ => some s

/-- Makes the next token a candidate, if a key may start here. -/
def markCandidate (s : Scanner) : Option Scanner :=
  if !s.keyAllowed then some s
  else do
    let s ← s.dropCandidate
    let k : KeyCandidate := {
      required := !s.inFlow && s.indent = s.cursor.column
      number := s.handedOut + s.pending.size
      start := s.cursor }
    some { s with candidates := some k :: s.candidates.drop 1 }

/-- Whether a candidate can still be a key: a key lies on one line and is no longer than 1024
characters. -/
def isOpen (s : Scanner) (k : KeyCandidate) : Bool :=
  s.cursor.line ≤ k.start.line && s.cursor.index ≤ k.start.index + 1024

/-- The candidate of this level, if it can still be a key. One that had to be is an error. -/
def candidate? (s : Scanner) : Option (Option KeyCandidate) :=
  match s.candidates with
  | some k :: _ =>
    if s.isOpen k then some (some k) else if k.required then none else some none
  | _ => some none

/-! ## Between tokens -/

/-- Moves over blanks, comments and line breaks. A tab may not stand where a key may. A text that
still starts with a byte order mark loses the first character of every line in its first piece. -/
def skipGap : Nat → Scanner → Scanner
  | 0, s => s
  | fuel + 1, s =>
    let c := s.cursor
    let c := if c.column = 0 && c.index + 4 ≤ s.markReach then c.advance 1 else c
    let tabs := s.inFlow || !s.keyAllowed
    let c := (c.takeWhile fun ch ↦ ch = ' ' || (tabs && ch = '\t')).2
    let c := if c.peek = some '#' then c.skipComments (s.size + 1) else c
    match c.peek with
    | some ch =>
      if isBreak ch then
        skipGap fuel { s with cursor := c.readBreak.2, keyAllowed := s.keyAllowed || !s.inFlow }
      else { s with cursor := c }
    | none => { s with cursor := c }

/-! ## Indicators -/

/-- Reads a mark of the document structure. -/
def documentMark (s : Scanner) (kind : TokenKind) : Option Scanner := do
  let s ← (s.closeTo (-1)).dropCandidate
  some { s.pushMark kind 3 with keyAllowed := false }

/-- Reads an opening bracket. -/
def flowStart (s : Scanner) (kind : TokenKind) : Option Scanner := do
  let s ← s.markCandidate
  if s.candidates.length > maxDepth then none
  some { s.pushMark kind 1 with keyAllowed := true, candidates := none :: s.candidates }

/-- Reads a closing bracket. -/
def flowEnd (s : Scanner) (kind : TokenKind) : Option Scanner := do
  let s ← s.dropCandidate
  let candidates := if s.inFlow then s.candidates.drop 1 else s.candidates
  some { s.pushMark kind 1 with keyAllowed := false, candidates }

/-- Reads a comma. -/
def flowEntry (s : Scanner) : Option Scanner := do
  let s ← s.dropCandidate
  some { s.pushMark .flowEntry 1 with keyAllowed := true }

/-- Reads the mark of an item or a key. Outside brackets it may open a collection, where a key may
start. -/
def blockMark (s : Scanner) (opening kind : TokenKind) (keyAfter : Bool) : Option Scanner := do
  if !s.inFlow && !s.keyAllowed then none
  let s ← s.openAt s.cursor.column none opening s.cursor.line
  let s ← s.dropCandidate
  some { s.pushMark kind 1 with keyAllowed := keyAfter }

/-- Reads a colon. -/
def valueMark (s : Scanner) : Option Scanner := do
  match ← s.candidate? with
  | some k =>
    let s := s.insertAt k.number .key k.start.line
    let s ← s.openAt k.start.column (some k.number) .blockMapping k.start.line
    let s := { s with candidates := none :: s.candidates.drop 1 }
    some { s.pushMark .value 1 with keyAllowed := false }
  | none =>
    let s := { s with candidates := none :: s.candidates.drop 1 }
    if s.inFlow then some { s.pushMark .value 1 with keyAllowed := false }
    else if !s.keyAllowed then none
    else do
      let s ← s.openAt s.cursor.column none .blockMapping s.cursor.line
      some { s.pushMark .value 1 with keyAllowed := true }

/-! ## Names and tags -/

/-- Reads an anchor, or a reference to one. -/
def anchorMark (s : Scanner) (kind : String → TokenKind) : Option Scanner := do
  let s ← s.markCandidate
  let line := s.cursor.line
  let (name, c) := (s.cursor.advance 1).takeWhile isNameChar
  let ends := isGap c.peek || (c.peek.map ("?:,]\x7d%@`".toList.contains ·)).getD false
  if name.isEmpty || !ends then none
  some { s.push (kind (String.ofList name)) line with cursor := c, keyAllowed := false }

/-- Whether a character may stand in a tag. -/
def isTagChar (c : Char) : Bool := isNameChar c || ";/?:@&=+$,.!~*'()[]%".toList.contains c

/-- How many bytes the character has that starts with a byte, as far as this byte tells. -/
def leadWidth? (b : Nat) : Option Nat :=
  if b < 0x80 then some 1
  else if b / 32 = 6 then some 2
  else if b / 16 = 14 then some 3
  else if b / 8 = 30 then some 4
  else none

/-- Reads the escapes in a tag. They come in rows, each the bytes of a character, of which `more`
are to follow. -/
def unescapeTag : Nat → List Char → Option (List UInt8)
  | 0, [] => some []
  | more, '%' :: a :: b :: rest => do
    let n := (← hexValue? a) * 16 + (← hexValue? b)
    let more ← if more = 0 then (leadWidth? n).map (· - 1)
      else if n / 64 = 2 then some (more - 1) else none
    return UInt8.ofNat n :: (← unescapeTag more rest)
  | 0, c :: rest =>
    if c = '%' then none
    else (unescapeTag 0 rest).map ((String.singleton c).toUTF8.toList ++ ·)
  | _, _ => none

/-- The text of a tag. -/
def tagText (cs : List Char) : Option String := (unescapeTag 0 cs).map fun bs ↦ (⟨bs⟩ : Text).scrub

/-- Reads a tag after its exclamation mark: a handle and the rest. -/
def tagParts (c : Cursor) : Option (String × String × Cursor) :=
  if c.peek = some '<' then do
    let (body, c) := (c.advance 1).takeWhile isTagChar
    if body.isEmpty || c.peek ≠ some '>' then none
    some ("", ← tagText body, c.advance 1)
  else
    let (name, after) := c.takeWhile isNameChar
    if after.peek = some '!' then do
      let handle := "!" ++ String.ofList name ++ "!"
      let (body, c) := (after.advance 1).takeWhile isTagChar
      if body.isEmpty then none
      some (handle, ← tagText body, c)
    else do
      let (body, c) := c.takeWhile isTagChar
      if body.isEmpty then some ("", "!", c) else some ("!", ← tagText body, c)

/-- Reads a tag. -/
def tagMark (s : Scanner) : Option Scanner := do
  let s ← s.markCandidate
  let line := s.cursor.line
  let (handle, rest, c) ← tagParts (s.cursor.advance 1)
  if !isGap c.peek then none
  some { s.push (.tag handle rest) line with cursor := c, keyAllowed := false }

/-- Reads a decimal number of at most two digits. -/
def versionNumber (c : Cursor) : Option (Nat × Cursor) :=
  let (digits, c) := c.takeWhile Char.isDigit
  if digits.isEmpty || digits.length > 2 then none
  else some (digits.foldl (fun n d ↦ n * 10 + (d.toNat - 48)) 0, c)

/-- Reads what a directive says after its name. -/
def directiveBody (name : String) (c : Cursor) : Option (TokenKind × Cursor) :=
  let c := (c.takeWhile isSpace).2
  match name with
  | "YAML" => do
    let (major, c) ← versionNumber c
    if c.peek ≠ some '.' then none
    let (minor, c) ← versionNumber (c.advance 1)
    some (.version major minor, c)
  | "TAG" => do
    if c.peek ≠ some '!' then none
    let (word, after) := (c.advance 1).takeWhile isNameChar
    let (handle, c) ←
      if after.peek = some '!' then some ("!" ++ String.ofList word ++ "!", after.advance 1)
      else if word.isEmpty then some ("!", after) else none
    if !((c.peek.map isSpace).getD false) then none
    let (body, c) := ((c.takeWhile isSpace).2).takeWhile isTagChar
    if body.isEmpty || !isGap c.peek then none
    some (.handle handle (← tagText body), c)
  | _ => none

/-- Reads a directive. -/
def directive (s : Scanner) : Option Scanner := do
  let s ← (s.closeTo (-1)).dropCandidate
  let line := s.cursor.line
  let (name, c) := (s.cursor.advance 1).takeWhile isNameChar
  if name.isEmpty || !isGap c.peek then none
  let (kind, c) ← directiveBody (String.ofList name) c
  let c := (c.takeWhile isSpace).2
  let c := if c.peek = some '#' then (c.takeWhile (!isBreak ·)).2 else c
  if !isBreakOrEnd c.peek then none
  some { s.push kind line with cursor := c.readBreak.2, keyAllowed := false }

/-! ## Scalars -/

/-- Reads a plain scalar. -/
def plain (s : Scanner) : Option Scanner := do
  let s ← s.markCandidate
  let line := s.cursor.line
  let (text, broken, c) ←
    plainWords s.inFlow (s.indent + 1).toNat (s.size + 1) [] {} s.cursor
  some { s.push (.scalar (String.ofList text) true) line with
    cursor := c, keyAllowed := broken, lineEnded := broken }

/-- Reads a quoted scalar. -/
def quotedScalar (s : Scanner) (single : Bool) : Option Scanner := do
  let s ← s.markCandidate
  let line := s.cursor.line
  let (text, c) ← quotedBody single (s.size + 1) [] (s.cursor.advance 1)
  some { s.push (.scalar (String.ofList text) false) line with cursor := c, keyAllowed := false }

/-- Reads a block scalar. -/
def block (s : Scanner) (literal : Bool) : Option Scanner := do
  let s ← s.dropCandidate
  let line := s.cursor.line
  let (text, c) ← blockScalar literal s.indent (s.cursor.advance 1)
  some { s.push (.scalar (String.ofList text) false) line with
    cursor := c, keyAllowed := true, lineEnded := true }

/-! ## The next token -/

/-- The characters that start no plain scalar. -/
def indicators : List Char := "-?:,[]\x7b\x7d#&*!|>'\"%@`".toList

/-- Reads the token that starts with a character. -/
def token (s : Scanner) (ch : Char) : Option Scanner :=
  let c := s.cursor
  let gapAhead := isGap (c.peekAt 1)
  if c.column = 0 && ch = '%' then s.directive
  else if c.atMarks '-' then s.documentMark .documentStart
  else if c.atMarks '.' then s.documentMark .documentEnd
  else if ch = '[' then s.flowStart .flowSequence
  else if ch = '\x7b' then s.flowStart .flowMapping
  else if ch = ']' then s.flowEnd .flowSequenceEnd
  else if ch = '\x7d' then s.flowEnd .flowMappingEnd
  else if ch = ',' then s.flowEntry
  else if ch = '-' && gapAhead then s.blockMark .blockSequence .blockEntry true
  else if ch = '?' && (s.inFlow || gapAhead) then s.blockMark .blockMapping .key !s.inFlow
  else if ch = ':' && (s.inFlow || gapAhead) then s.valueMark
  else if ch = '*' then s.anchorMark .alias
  else if ch = '&' then s.anchorMark .anchor
  else if ch = '!' then s.tagMark
  else if ch = '|' && !s.inFlow then s.block true
  else if ch = '>' && !s.inFlow then s.block false
  else if ch = '\'' then s.quotedScalar true
  else if ch = '"' then s.quotedScalar false
  else if !(isSpace ch || indicators.contains ch) || (ch = '-' && !gapAhead) ||
      (!s.inFlow && (ch = '?' || ch = ':') && !gapAhead) then s.plain
  else none

/-- Whether a token may have a comment behind it that belongs to its line. -/
def takesLineComment : TokenKind → Bool
  | .documentStart | .documentEnd | .version .. | .handle .. | .blockEntry => false
  | _ => true

/-- Reads the end of the text, which counts as the start of a line. -/
def atEnd (s : Scanner) : Option Scanner := do
  let c := s.cursor
  let s := if c.column = 0 then s else { s with cursor := { c with line := c.line + 1, column := 0 } }
  let s ← (s.closeTo (-1)).dropCandidate
  some { s.pushHere .streamEnd with keyAllowed := false }

/-- Whether fewer than `n` characters are left before a spoilt piece. -/
def spoiltWithin (s : Scanner) (n : Nat) : Bool := s.spoilt && (s.cursor.rest.drop (n - 1)).isEmpty

/-- Reads the next token. -/
def next (s : Scanner) : Option Scanner := do
  let s := skipGap (s.size + 1) { s with lineEnded := false }
  let s := s.closeTo s.cursor.column
  if s.spoiltWithin 4 then none
  match s.cursor.peek with
  | none => s.atEnd
  | some ch =>
    let s ← s.token ch
    if s.spoiltWithin 2 then none
    if !s.lineEnded && ((s.pending.back?.map (takesLineComment ·.kind)).getD false) then
      some { s with cursor := s.cursor.skipLineComment }
    else some s

/-- The candidate that would be the next token. -/
def headCandidate? (s : Scanner) : Option KeyCandidate :=
  s.candidates.findSome? fun k ↦ k.filter (·.number = s.handedOut)

/-- Reads tokens until the first can be handed out. -/
def fill : Nat → Scanner → Option Scanner
  | 0, _ => none
  | fuel + 1, s =>
    if s.pending.size < 3 then do fill fuel (← s.next)
    else match s.headCandidate? with
      | none => some s
      | some k =>
        if s.isOpen k then do fill fuel (← s.next)
        else if k.required then none
        else some s

/-- The next token. -/
def peek (s : Scanner) : Option (Token × Scanner) := do
  let s ← fill (s.size + 8) s
  return (← s.pending[0]?, s)

/-- Hands out the next token. -/
def skip (s : Scanner) : Scanner :=
  { s with pending := s.pending.extract 1 s.pending.size, handedOut := s.handedOut + 1 }

/-- The scanner at the start of a text. -/
def ofText (text : String) : Scanner :=
  let r := Readable.ofText text
  { cursor := { rest := r.chars }
    size := r.chars.length
    spoilt := r.spoilt
    markReach := if r.chars.head? = some '\uFEFF' then r.firstPiece else 0 }

end Scanner

end PathQuery.Yaml
