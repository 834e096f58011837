import PathQuery.Number.Reading
import PathQuery.Yaml.Cursor

/-!
# Scanning scalars

A scalar is plain, quoted or a block. Lines inside a plain or quoted scalar are folded: a single
break becomes a blank, and of several breaks the first is dropped. A block keeps its lines, or
folds them, relative to an indentation that its first line sets.
-/

namespace PathQuery.Yaml

/-! ## Gaps between words -/

/-- The blanks and breaks between two words. -/
structure Gap where
  /-- The blanks before the first break. -/
  spaces : List Char := []
  /-- The first break. -/
  first : List Char := []
  /-- The breaks after the first. -/
  others : List Char := []
  /-- Whether a line has ended. -/
  broken : Bool := false

/-- What a gap becomes between two words. -/
def Gap.fold (g : Gap) : List Char :=
  if !g.broken then g.spaces
  else if g.first = ['\n'] then (if g.others.isEmpty then [' '] else g.others)
  else g.first ++ g.others

/-- Reads a gap. Tabs may not indent a line by less than `limit` columns. -/
def Gap.read (limit : Nat) : Nat → Gap → Cursor → Option (Gap × Cursor)
  | 0, g, c => some (g, c)
  | fuel + 1, g, c =>
    match c.peek with
    | none => some (g, c)
    | some ch =>
      if isSpace ch then
        if g.broken && c.column < limit && ch = '\t' then none
        else
          let g := if g.broken then g else { g with spaces := g.spaces ++ [ch] }
          Gap.read limit fuel g (c.advance 1)
      else if isBreak ch then
        let (b, c) := c.readBreak
        let g := if g.broken then { g with others := g.others ++ b }
          else { g with spaces := [], first := b, broken := true }
        Gap.read limit fuel g c
      else some (g, c)

/-! ## Plain scalars -/

/-- The characters that end a plain word inside brackets. -/
def flowMarks : List Char := [',', '?', '[', ']', '\x7b', '\x7d']

/-- The longest plain word at the head of a text. -/
def plainWord (inFlow : Bool) : List Char → List Char
  | [] => []
  | c :: rest =>
    if isGap (some c) || (c = ':' && isGap rest.head?) || (inFlow && flowMarks.contains c) then []
    else c :: plainWord inFlow rest

/-- Reads the words of a plain scalar. The flag tells whether a line has ended after the last. -/
def plainWords (inFlow : Bool) (indent : Nat) :
    Nat → List Char → Gap → Cursor → Option (List Char × Bool × Cursor)
  | 0, text, g, c => some (text, g.broken, c)
  | fuel + 1, text, g, c =>
    if c.atDocumentMark || c.peek = some '#' then some (text, g.broken, c)
    else
      let word := plainWord inFlow c.rest
      let c := c.advance word.length
      let (text, g) : List Char × Gap :=
        if word.isEmpty then (text, g) else (text ++ g.fold ++ word, {})
      if !isGap c.peek || c.peek.isNone then some (text, g.broken, c)
      else
        match Gap.read indent (c.rest.length + 1) (if word.isEmpty then g else {}) c with
        | none => none
        | some (g, c) =>
          if !inFlow && c.column < indent then some (text, g.broken, c)
          else plainWords inFlow indent fuel text g c

/-! ## Quoted scalars -/

/-- The character of a one-letter escape. -/
def escaped? : Char → Option Char
  | '0' => some (Char.ofNat 0)
  | 'a' => some (Char.ofNat 7)
  | 'b' => some (Char.ofNat 8)
  | 't' | '\t' => some '\t'
  | 'n' => some '\n'
  | 'v' => some (Char.ofNat 11)
  | 'f' => some (Char.ofNat 12)
  | 'r' => some '\r'
  | 'e' => some (Char.ofNat 27)
  | ' ' => some ' '
  | '"' => some '"'
  | '\'' => some '\''
  | '\\' => some '\\'
  | 'N' => some (Char.ofNat 0x85)
  | '_' => some (Char.ofNat 0xA0)
  | 'L' => some (Char.ofNat 0x2028)
  | 'P' => some (Char.ofNat 0x2029)
  | _ => none

/-- How many digits follow the letter of a numeric escape. -/
def escapeWidth? : Char → Option Nat
  | 'x' => some 2
  | 'u' => some 4
  | 'U' => some 8
  | _ => none

/-- The character with a number given in hexadecimal digits. -/
def codePoint? (width : Nat) (cs : List Char) : Option Char := do
  let digits ← (cs.take width).mapM hexValue?
  if digits.length < width then none
  let n := digits.foldl (fun acc d ↦ acc * 16 + d) 0
  if (0xD800 ≤ n && n ≤ 0xDFFF) || 0x10FFFF < n then none else some (Char.ofNat n)

/-- Reads words of a quoted scalar up to a gap or the closing quote. The flag tells whether the
last break was escaped. -/
def quotedWord (single : Bool) : Nat → List Char → Cursor → Option (List Char × Bool × Cursor)
  | 0, text, c => some (text, false, c)
  | fuel + 1, text, c =>
    match c.rest with
    | [] => some (text, false, c)
    | ch :: rest =>
      if isGap (some ch) then some (text, false, c)
      else if single then
        if ch = '\'' then
          if rest.head? = some '\'' then quotedWord single fuel (text ++ ['\'']) (c.advance 2)
          else some (text, false, c)
        else quotedWord single fuel (text ++ [ch]) (c.advance 1)
      else if ch = '"' then some (text, false, c)
      else if ch = '\\' then
        match rest with
        | [] => none
        | e :: digits =>
          if isBreak e then some (text, true, ((c.advance 1).readBreak).2)
          else match escaped? e, escapeWidth? e with
            | some r, _ => quotedWord single fuel (text ++ [r]) (c.advance 2)
            | none, some width =>
              match codePoint? width digits with
              | some r => quotedWord single fuel (text ++ [r]) (c.advance (2 + width))
              | none => none
            | none, none => none
      else quotedWord single fuel (text ++ [ch]) (c.advance 1)

/-- Reads a quoted scalar after its opening quote. -/
def quotedBody (single : Bool) : Nat → List Char → Cursor → Option (List Char × Cursor)
  | 0, _, _ => none
  | fuel + 1, text, c =>
    if c.atDocumentMark || c.peek.isNone then none
    else
      match quotedWord single (c.rest.length + 1) text c with
      | none => none
      | some (text, escapedBreak, c) =>
        if c.peek = some (if single then '\'' else '"') then
          some (text, c.advance 1)
        else
          let start : Gap := { broken := escapedBreak }
          match Gap.read 0 (c.rest.length + 1) start c with
          | none => none
          | some (g, c) => quotedBody single fuel (text ++ g.fold) c

/-! ## Block scalars -/

/-- What becomes of the breaks at the end of a block. -/
inductive Chomping where
  | strip
  | clip
  | keep
  deriving DecidableEq

/-- Reads the head of a block: how it is chomped, and its indentation if it is given. -/
def blockHead (c : Cursor) : Option (Chomping × Nat × Cursor) :=
  let chomp? : Option Char → Option Chomping
    | some '+' => some .keep
    | some '-' => some .strip
    | _ => none
  let digit? : Option Char → Option Nat
    | some d => digitValue? d
    | none => none
  match chomp? c.peek with
  | some chomping =>
    let c := c.advance 1
    match digit? c.peek with
    | some 0 => none
    | some n => some (chomping, n, c.advance 1)
    | none => some (chomping, 0, c)
  | none =>
    match digit? c.peek with
    | some 0 => none
    | some n =>
      let c := c.advance 1
      match chomp? c.peek with
      | some chomping => some (chomping, n, c.advance 1)
      | none => some (.clip, n, c)
    | none => some (.clip, 0, c)

/-- Reads indentation and empty lines. An indentation of zero is yet to be found. The greatest
column met is returned with the breaks. -/
def blockBreaks (indent : Nat) :
    Nat → Nat → List Char → Cursor → Option (Nat × List Char × Cursor)
  | 0, deepest, breaks, c => some (deepest, breaks, c)
  | fuel + 1, deepest, breaks, c =>
    let width := (c.rest.takeWhile (· = ' ')).length
    let c := c.advance (if indent = 0 then width else min width (indent - c.column))
    let deepest := max deepest c.column
    if (indent = 0 || c.column < indent) && c.peek = some '\t' then none
    else match c.peek with
      | some ch =>
        if isBreak ch then
          let (b, c) := c.readBreak
          blockBreaks indent fuel deepest (breaks ++ b) c
        else some (deepest, breaks, c)
      | none => some (deepest, breaks, c)

/-- The lines of a block read so far. -/
structure BlockText where
  /-- The text up to the last line. -/
  text : List Char := []
  /-- The break after the last line. -/
  lineBreak : List Char := []
  /-- The empty lines after it. -/
  trailing : List Char := []
  /-- Whether the last line starts with a blank. -/
  leadingBlank : Bool := false

/-- Adds the text that stands between the last line and a new one. -/
def BlockText.joined (b : BlockText) (literal : Bool) (blank : Bool) : List Char :=
  if !literal && !b.leadingBlank && !blank && b.lineBreak = ['\n'] then
    b.text ++ (if b.trailing.isEmpty then [' '] else []) ++ b.trailing
  else b.text ++ b.lineBreak ++ b.trailing

/-- Reads the lines of a block. -/
def blockLines (literal : Bool) (indent : Nat) :
    Nat → BlockText → Cursor → Option (BlockText × Cursor)
  | 0, b, c => some (b, c)
  | fuel + 1, b, c =>
    if c.column ≠ indent || c.peek.isNone then some (b, c)
    else
      let blank := (c.peek.map isSpace).getD false
      let start := b.joined literal blank
      let (line, c) := c.takeWhile (!isBreak ·)
      let (lineBreak, c) := c.readBreak
      match blockBreaks indent (c.rest.length + 1) 0 [] c with
      | none => none
      | some (_, trailing, c) =>
        blockLines literal indent fuel
          { text := start ++ line, lineBreak, trailing, leadingBlank := blank } c

/-- Reads a block scalar after its mark, inside a collection indented by `outer`. -/
def blockScalar (literal : Bool) (outer : Int) (c : Cursor) : Option (List Char × Cursor) := do
  let (chomping, increment, c) ← blockHead c
  let c := (c.takeWhile isSpace).2
  let c := if c.peek = some '#' then (c.takeWhile (!isBreak ·)).2 else c
  if !isBreakOrEnd c.peek then none
  let c := c.readBreak.2
  let given : Nat := if increment = 0 then 0 else (max outer 0).toNat + increment
  let (deepest, trailing, c) ← blockBreaks given (c.rest.length + 1) 0 [] c
  let indent := if given = 0 then max (max deepest (outer + 1).toNat) 1 else given
  let (b, c) ← blockLines literal indent (c.rest.length + 1) { trailing } c
  let text := b.text ++ (if chomping = .strip then [] else b.lineBreak) ++
    (if chomping = .keep then b.trailing else [])
  some (text, c)

end PathQuery.Yaml
