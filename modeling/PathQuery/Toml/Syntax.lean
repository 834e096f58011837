import PathQuery.Number.Reading
import PathQuery.Time.Reading

/-!
# The syntax of TOML

A TOML text is a list of statements: headers, which open a table or a further table of an array,
and assignments of values to dotted keys. Whether the statements fit together is not a matter of
syntax. No reason is given for a text that is refused.
-/

namespace PathQuery.Toml

/-- A value as it is written. -/
inductive Literal where
  | string (s : String)
  | integer (n : Int)
  | float (x : Double)
  | bool (b : Bool)
  /-- A date, a time or both. -/
  | datetime (text : String)
  | array (items : List Literal)
  /-- A table on one line: assignments to dotted keys. -/
  | inlineTable (assignments : List (List String × Literal))
  deriving Inhabited

/-- A statement. -/
inductive Statement where
  /-- Opens a table, or a further one of an array of tables. -/
  | header (key : List String) (isArray : Bool)
  /-- Assigns a value. -/
  | assign (key : List String) (value : Literal)

/-- A reader takes something off the front of a text. -/
abbrev Reader (α : Type) := List Char → Option (α × List Char)

/-! ## Characters -/

/-- Whether a character may stand in a text at all. -/
def isAllowed (c : Char) : Bool :=
  let n := c.toNat
  n = 9 || n = 10 || n = 13 || (0x20 ≤ n && n ≠ 0x7F && n ≠ 0xFFFD)

/-- Whether all characters may stand where they do: a carriage return only before a line feed. -/
def allAllowed : List Char → Bool
  | [] => true
  | ['\r'] => false
  | c :: d :: rest => isAllowed c && (c ≠ '\r' || d = '\n') && allAllowed (d :: rest)
  | [c] => isAllowed c

/-- A blank within a line. -/
def isSpace (c : Char) : Bool := c = ' ' || c = '\t'

/-- A character that ends a line. -/
def isBreak (c : Char) : Bool := c = '\n' || c = '\r'

/-- Whether a character may stand in a key without quotes. -/
def isBareKey (c : Char) : Bool := c.isAlphanum || c = '_' || c = '-'

/-- Skips blanks within a line. -/
def skipSpaces (cs : List Char) : List Char := cs.dropWhile isSpace

/-- Skips a comment, up to the end of its line. -/
def skipComment (cs : List Char) : List Char := cs.dropWhile (!isBreak ·)

/-- Skips blanks, ends of lines and comments. -/
def skipLines : Nat → List Char → List Char
  | 0, cs => cs
  | fuel + 1, cs =>
    match cs.dropWhile (fun c ↦ isSpace c || isBreak c) with
    | '#' :: rest => skipLines fuel (skipComment rest)
    | rest => rest

/-! ## Strings -/

/-- The number of some hexadecimal digits. -/
def hexNumber (cs : List Char) : Option Nat :=
  cs.foldlM (fun n c ↦ (hexValue? c).map (n * 16 + ·)) 0

/-- The character of a code point. -/
def scalar? (n : Nat) : Option Char :=
  if n < 0x110000 && !(0xD800 ≤ n && n ≤ 0xDFFF) then some (Char.ofNat n) else none

/-- Reads what follows a backslash. -/
def readEscape : Reader Char
  | 'b' :: rest => some (Char.ofNat 8, rest)
  | 't' :: rest => some ('\t', rest)
  | 'n' :: rest => some ('\n', rest)
  | 'f' :: rest => some (Char.ofNat 12, rest)
  | 'r' :: rest => some ('\r', rest)
  | '"' :: rest => some ('"', rest)
  | '\\' :: rest => some ('\\', rest)
  | 'u' :: rest => do
    let digits := rest.take 4
    if digits.length ≠ 4 then none
    return (← scalar? (← hexNumber digits), rest.drop 4)
  | 'U' :: rest => do
    let digits := rest.take 8
    if digits.length ≠ 8 then none
    return (← scalar? (← hexNumber digits), rest.drop 8)
  | _ => none

/-- Reads a string on one line, after its opening quote. -/
def readBasic : Nat → List Char → Reader String
  | 0, _, _ => none
  | _ + 1, acc, '"' :: rest => some (String.ofList acc.reverse, rest)
  | fuel + 1, acc, '\\' :: rest => do
    let (c, rest) ← readEscape rest
    readBasic fuel (c :: acc) rest
  | fuel + 1, acc, c :: rest => if isBreak c then none else readBasic fuel (c :: acc) rest
  | _ + 1, _, [] => none

/-- Reads a string without escapes on one line, after its opening quote. -/
def readVerbatim : List Char → Reader String
  | _, [] => none
  | acc, '\'' :: rest => some (String.ofList acc.reverse, rest)
  | acc, c :: rest => if isBreak c then none else readVerbatim (c :: acc) rest

/-- Skips a line break at the start of a string over several lines. -/
def skipFirstBreak : List Char → List Char
  | '\n' :: rest => rest
  | '\r' :: '\n' :: rest => rest
  | cs => cs

/-- What a run of quotes within a string over several lines comes to: three to five end the string,
and those past three belong to it. Behind a backslash that stands for itself there may be six. -/
inductive QuoteRun where
  /-- The quotes belong to the string. -/
  | inside (n : Nat)
  /-- The string ends; so many quotes belong to it. -/
  | closing (n : Nat)
  /-- There are too many. -/
  | tooMany

/-- What a run of `n` quotes comes to, of which there may be `most`. -/
def quoteRun (most n : Nat) : QuoteRun :=
  if n ≤ 2 then .inside n else if n ≤ most then .closing (n - 3) else .tooMany

/-- Reads a string over several lines, after its opening quotes. A backslash at the end of a line
takes the break and the blanks after it with it. There may be `most` quotes in a row. -/
def readMultiline (quote : Char) : Nat → Nat → List Char → Reader String
  | 0, _, _, _ => none
  | _ + 1, _, _, [] => none
  | fuel + 1, most, acc, c :: rest =>
    if c = quote then
      let n := ((c :: rest).takeWhile (· = quote)).length
      let after := (c :: rest).drop n
      match quoteRun most n with
      | .inside n => readMultiline quote fuel 5 (List.replicate n quote ++ acc) after
      | .closing n => some (String.ofList (List.replicate n quote ++ acc).reverse, after)
      | .tooMany => none
    else if c = '\\' && quote = '"' then
      let blanks := rest.takeWhile fun c ↦ isSpace c || isBreak c
      if blanks.contains '\n' then readMultiline quote fuel 5 acc (rest.drop blanks.length)
      else do
        let most := if rest.head? = some '\\' then 6 else 5
        let (e, rest) ← readEscape rest
        readMultiline quote fuel most (e :: acc) rest
    else readMultiline quote fuel 5 (c :: acc) rest

/-- Reads a string of any kind. -/
def readString : Reader String
  | '"' :: '"' :: '"' :: rest =>
    readMultiline '"' (rest.length + 1) 5 [] (skipFirstBreak rest)
  | '\'' :: '\'' :: '\'' :: rest =>
    readMultiline '\'' (rest.length + 1) 5 [] (skipFirstBreak rest)
  | '"' :: rest => readBasic (rest.length + 1) [] rest
  | '\'' :: rest => readVerbatim [] rest
  | _ => none

/-! ## Keys -/

/-- Reads a part of a key. A quoted part is a string on one line. -/
def readKeyPart : Reader String
  | '"' :: rest => readBasic (rest.length + 1) [] rest
  | '\'' :: rest => readVerbatim [] rest
  | cs =>
    let part := cs.takeWhile isBareKey
    if part.isEmpty then none else some (String.ofList part, cs.drop part.length)

/-- Reads a dotted key, up to the first character after it that is no blank. -/
def readKey : Nat → Reader (List String)
  | 0, _ => none
  | fuel + 1, cs => do
    let (part, rest) ← readKeyPart (skipSpaces cs)
    match skipSpaces rest with
    | '.' :: rest =>
      let (parts, rest) ← readKey fuel rest
      return (part :: parts, rest)
    | rest => return ([part], rest)

/-! ## Numbers and dates -/

/-- Whether every underscore stands between digits. -/
def underscoresFit (cs : List Char) : Bool :=
  let rec go (after : Bool) : List Char → Bool
    | [] => after
    | c :: rest => (c ≠ '_' || after) && go (hexValue? c).isSome rest
  go false cs

/-- Whether a number starts with a zero that is not all of it. -/
def hasLeadingZero : List Char → Bool
  | '0' :: c :: _ => !(c = 'b' || c = 'o' || c = 'x')
  | '-' :: '0' :: _ :: _ => true
  | '+' :: '0' :: _ :: _ => true
  | _ => false

/-- The value of some digits of a base. -/
def digitsValue (base : Nat) (cs : List Char) : Option Int := do
  let n ← cs.foldlM (fun n c ↦ do
    let d ← hexValue? c
    if d < base then some (n * base + d) else none) 0
  if n < Nat.pow 2 63 then some n else none

/-- The value of an integer. -/
def integerValue (cs : List Char) : Option Literal := do
  if !underscoresFit cs || hasLeadingZero cs then none
  let digits := cs.filter (· ≠ '_')
  let n ← match digits with
    | '0' :: 'b' :: rest => digitsValue 2 rest
    | '0' :: 'o' :: rest => digitsValue 8 rest
    | '0' :: 'x' :: rest => digitsValue 16 rest
    | digits => (readInt digits).toOption
  return .integer n

/-- Whether every point is followed by a digit. -/
def pointsFit : List Char → Bool
  | [] => true
  | '.' :: rest => (rest.head?.map Char.isDigit).getD false && pointsFit rest
  | _ :: rest => pointsFit rest

/-- Cuts a list at the elements that satisfy `p`, and leaves out empty pieces. -/
def pieces (p : Char → Bool) (cs : List Char) : List (List Char) :=
  let rec go (current : List Char) : List Char → List (List Char)
    | [] => if current.isEmpty then [] else [current.reverse]
    | c :: rest =>
      if p c then (if current.isEmpty then go [] rest else current.reverse :: go [] rest)
      else go (c :: current) rest
  go [] cs

/-- The value of a floating-point number. -/
def floatValue (cs : List Char) : Option Literal := do
  let parts := pieces (fun c ↦ c = '.' || c = 'e' || c = 'E') cs
  if !parts.all underscoresFit || hasLeadingZero (parts.headD []) || !pointsFit cs then none
  return .float (← (readDouble (cs.filter (· ≠ '_'))).toOption)

/-- The layout of a date. -/
def dateLayout : TimeLayout := [.year, .literal "-", .month true, .literal "-", .day true]

/-- The layout of a time of day. -/
def timeLayout : TimeLayout :=
  [.hour, .literal ":", .minute true, .literal ":", .second true, .fraction]

/-- Reads a time of day. It is of no day, so the first of a month is put before it. -/
def isTimeOfDay (s : String) : Bool :=
  (TimeLayout.read (dateLayout ++ [.literal "T"] ++ timeLayout) .utc
    (Text.ofString ("2000-01-01T" ++ s))).isOk

/-- The value of a date, a time or both. -/
def datetimeValue (cs : List Char) : Option Literal :=
  let s := String.ofList (cs.map fun c ↦
    if c = 'z' then 'Z' else if c = 't' || c = ' ' then 'T' else c)
  let fits (l : TimeLayout) : Bool := (l.read .utc s).isOk
  if fits .internet || fits .localTime || fits dateLayout || isTimeOfDay s then some (.datetime s)
  else none

/-- Takes a run of characters off a text and reads its value; `read` lies before it. -/
def finish (read : List Char) (more : Char → Bool) (value : List Char → Option Literal) :
    Reader Literal := fun cs ↦ do
  let run := cs.takeWhile more
  return (← value (read ++ run), cs.drop run.length)

/-- Reads the digits of a number, then what makes it more than an integer. -/
def readDecimal (read cs : List Char) : Option (Literal × List Char) :=
  let run := cs.takeWhile fun c ↦ c.isDigit || c = '_'
  let rest := cs.drop run.length
  match rest with
  | c :: _ =>
    if c = '.' || c = 'e' || c = 'E' then
      finish (read ++ run) (fun c ↦ c.isDigit || "_.-+eE".toList.contains c) floatValue rest
    else do return (← integerValue (read ++ run), rest)
  | [] => do return (← integerValue (read ++ run), rest)

/-- Drops the blanks at the end of a date. -/
def trimEnd (cs : List Char) : List Char := (cs.reverse.dropWhile isSpace).reverse

/-- Reads a number or a date that starts with a digit. -/
def readNumber : Reader Literal := fun cs ↦
  match cs with
  | '0' :: 'b' :: rest => finish ['0', 'b'] (fun c ↦ c = '0' || c = '1' || c = '_') integerValue rest
  | '0' :: 'o' :: rest =>
    finish ['0', 'o'] (fun c ↦ ('0' ≤ c && c ≤ '7') || c = '_') integerValue rest
  | '0' :: 'x' :: rest =>
    finish ['0', 'x'] (fun c ↦ (hexValue? c).isSome || c = '_') integerValue rest
  | cs =>
    let digits := cs.takeWhile Char.isDigit
    let rest := cs.drop digits.length
    match rest with
    | c :: _ =>
      if (c = '-' || c = ':') && digits ≠ ['0'] then
        finish digits (fun c ↦ c.isDigit || "-:Tt .Zz+".toList.contains c)
          (fun cs ↦ datetimeValue (trimEnd cs)) rest
      else readDecimal digits rest
    | [] => readDecimal digits rest

/-- Reads a number after its sign. -/
def readSigned (sign : Char) : Reader Literal
  | 'i' :: 'n' :: 'f' :: rest => some (.float (if sign = '-' then .infinity true else .infinity false), rest)
  | 'n' :: 'a' :: 'n' :: rest => some (.float .nan, rest)
  | '0' :: c :: rest =>
    if c = 'b' || c = 'o' || c = 'x' then none else readDecimal [sign] ('0' :: c :: rest)
  | c :: rest => if c.isDigit then readDecimal [sign] (c :: rest) else none
  | [] => none

/-! ## Values -/

mutual

/-- Reads a value. -/
def readValue : Nat → Reader Literal
  | 0, _ => none
  | fuel + 1, cs =>
    match skipSpaces cs with
    | '[' :: rest => do
      let (items, rest) ← readItems fuel (skipLines (rest.length + 1) rest)
      return (.array items, rest)
    | '\x7b' :: rest => do
      let (assignments, rest) ← readAssignments fuel true (skipSpaces rest)
      return (.inlineTable assignments, rest)
    | '"' :: rest => do
      let (s, rest) ← readString ('"' :: rest)
      return (.string s, rest)
    | '\'' :: rest => do
      let (s, rest) ← readString ('\'' :: rest)
      return (.string s, rest)
    | 't' :: 'r' :: 'u' :: 'e' :: rest => endWord (.bool true) rest
    | 'f' :: 'a' :: 'l' :: 's' :: 'e' :: rest => endWord (.bool false) rest
    | 'i' :: 'n' :: 'f' :: rest => some (.float (.infinity false), rest)
    | 'n' :: 'a' :: 'n' :: rest => some (.float .nan, rest)
    | '-' :: rest => readSigned '-' rest
    | '+' :: rest => readSigned '+' rest
    | c :: rest => if c.isDigit then readNumber (c :: rest) else none
    | [] => none

/-- Reads the items of an array, up to its closing bracket. -/
def readItems : Nat → Reader (List Literal)
  | 0, _ => none
  | _ + 1, ']' :: rest => some ([], rest)
  | fuel + 1, cs => do
    let (item, rest) ← readValue fuel cs
    match skipLines (rest.length + 1) rest with
    | ',' :: rest =>
      let (items, rest) ← readItems fuel (skipLines (rest.length + 1) rest)
      return (item :: items, rest)
    | ']' :: rest => return ([item], rest)
    | _ => none

/-- Reads the assignments of a table on one line, up to its closing brace, which may stand right
at the start only. -/
def readAssignments : Nat → Bool → Reader (List (List String × Literal))
  | 0, _, _ => none
  | fuel + 1, first, cs =>
    match first, cs with
    | true, '\x7d' :: rest => some ([], rest)
    | _, cs => do
      let (key, rest) ← readKey (cs.length + 1) cs
      match rest with
      | '=' :: rest =>
        let (value, rest) ← readValue fuel rest
        match skipSpaces rest with
        | ',' :: rest =>
          let (more, rest) ← readAssignments fuel false (skipSpaces rest)
          return ((key, value) :: more, rest)
        | '\x7d' :: rest => return ([(key, value)], rest)
        | _ => none
      | _ => none

/-- A word of letters has to end where it does. -/
def endWord (value : Literal) (rest : List Char) : Option (Literal × List Char) :=
  match rest with
  | c :: _ => if c.isAlpha then none else some (value, rest)
  | [] => some (value, rest)

end

/-! ## Statements -/

/-- Reads a header, after its opening bracket. -/
def readHeader : Reader Statement
  | '[' :: rest => do
    let (key, rest) ← readKey (rest.length + 1) rest
    match rest with
    | ']' :: ']' :: rest => return (.header key true, rest)
    | _ => none
  | cs => do
    let (key, rest) ← readKey (cs.length + 1) cs
    match rest with
    | ']' :: rest => return (.header key false, rest)
    | _ => none

/-- Reads an assignment. -/
def readAssignment : Reader Statement := fun cs ↦ do
  let (key, rest) ← readKey (cs.length + 1) cs
  match rest with
  | '=' :: rest =>
    let (value, rest) ← readValue (rest.length + 1) rest
    return (.assign key value, rest)
  | _ => none

/-- Reads statements, each of which ends its line. -/
def readStatements : Nat → List Char → Option (List Statement)
  | 0, _ => none
  | fuel + 1, cs =>
    match skipLines (cs.length + 1) cs with
    | [] => some []
    | c :: rest => do
      let (statement, rest) ← if c = '[' then readHeader rest else readAssignment (c :: rest)
      match skipSpaces rest with
      | [] => return [statement]
      | d :: rest =>
        if d = '#' || isBreak d then
          return statement :: (← readStatements fuel (d :: rest))
        else none

/-- The text after a byte order mark. -/
def skipMark : List Char → List Char
  | '\uFEFF' :: rest => rest
  | cs => cs

/-- The statements of a text. -/
def statements (text : String) : Option (List Statement) :=
  let cs := skipMark text.toList
  if allAllowed cs then readStatements (cs.length + 1) cs else none

end PathQuery.Toml
