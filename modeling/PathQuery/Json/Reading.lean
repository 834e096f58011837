import PathQuery.Json.Basic

/-!
# Reading JSON

The reader takes one document and nothing after it but blanks. It stops at the first character
that cannot stand where it stands; an error names the character and what was expected around it.
Half of a surrogate pair, alone, reads as the replacement character.
-/

namespace PathQuery

/-- Why a text is no JSON document. -/
inductive JsonError where
  /-- The text ends inside the document. -/
  | unexpectedEnd
  /-- A character cannot stand where it stands. -/
  | invalidChar (c : Char) (context : String)
  deriving DecidableEq, Repr

/-- A character between single quotes. -/
def JsonError.quoteChar (c : Char) : String :=
  if c = '\'' then "'\\''"
  else if c = '"' then "'\"'"
  else
    let inner := (quoted (String.singleton c)).toList
    "'" ++ String.ofList ((inner.drop 1).dropLast) ++ "'"

/-- The wording of the error. -/
def JsonError.message : JsonError → String
  | .unexpectedEnd => "unexpected end of JSON input"
  | .invalidChar c context => "invalid character " ++ quoteChar c ++ " " ++ context

namespace Json

/-- A blank between tokens. -/
def isGap (c : Char) : Bool := c = ' ' || c = '\t' || c = '\n' || c = '\r'

/-- The rest of a text after its leading blanks. -/
def skipGaps (cs : List Char) : List Char := cs.dropWhile isGap

/-- The value of a hexadecimal digit. -/
def hexDigit? (c : Char) : Option Nat :=
  if c.isDigit then some (c.toNat - 48)
  else if 'a' ≤ c && c ≤ 'f' then some (c.toNat - 87)
  else if 'A' ≤ c && c ≤ 'F' then some (c.toNat - 55)
  else none

/-- Reads four hexadecimal digits. -/
def readUnit : Nat → Nat → List Char → Except JsonError (Nat × List Char)
  | 0, acc, cs => .ok (acc, cs)
  | _ + 1, _, [] => .error .unexpectedEnd
  | n + 1, acc, c :: cs =>
    match hexDigit? c with
    | some d => readUnit n (acc * 16 + d) cs
    | none => .error (.invalidChar c "in \\u hexadecimal character escape")

/-- The character of a code unit that is not half of a pair. -/
def unitChar (u : Nat) : Char :=
  if 0xD800 ≤ u && u ≤ 0xDFFF then '\uFFFD' else Char.ofNat u

/-- Joins the code units of a string into characters. -/
def joinUnits : List Nat → List Char
  | [] => []
  | [u] => [unitChar u]
  | u :: v :: rest =>
    if 0xD800 ≤ u && u ≤ 0xDBFF && 0xDC00 ≤ v && v ≤ 0xDFFF then
      Char.ofNat (0x10000 + (u - 0xD800) * 0x400 + (v - 0xDC00)) :: joinUnits rest
    else unitChar u :: joinUnits (v :: rest)

/-- Reads the inside of a string, after its opening quote, onto the code units read so far. -/
def readString : Nat → Array Nat → List Char → Except JsonError (String × List Char)
  | 0, _, _ => .error .unexpectedEnd
  | _ + 1, _, [] => .error .unexpectedEnd
  | fuel + 1, acc, c :: cs =>
    if c = '"' then .ok (String.ofList (joinUnits acc.toList), cs)
    else if c = '\\' then
      match cs with
      | [] => .error .unexpectedEnd
      | e :: cs =>
        match e with
        | '"' | '\\' | '/' => readString fuel (acc.push e.toNat) cs
        | 'b' => readString fuel (acc.push 8) cs
        | 'f' => readString fuel (acc.push 12) cs
        | 'n' => readString fuel (acc.push 10) cs
        | 'r' => readString fuel (acc.push 13) cs
        | 't' => readString fuel (acc.push 9) cs
        | 'u' => do
          let (unit, cs) ← readUnit 4 0 cs
          readString fuel (acc.push unit) cs
        | _ => .error (.invalidChar e "in string escape code")
    else if c.toNat < 0x20 then .error (.invalidChar c "in string literal")
    else readString fuel (acc.push c.toNat) cs

/-- Reads the rest of a fixed word. -/
def readWord (word : String) (j : Json) : List Char → List Char → Except JsonError (Json × List Char)
  | [], cs => .ok (j, cs)
  | _ :: _, [] => .error .unexpectedEnd
  | w :: ws, c :: cs =>
    if w = c then readWord word j ws cs
    else .error (.invalidChar c
      ("in literal " ++ word ++ " (expecting " ++ JsonError.quoteChar w ++ ")"))

/-- Reads at least one digit. -/
def readSomeDigits (context : String) (cs : List Char) : Except JsonError (List Char × List Char) :=
  match cs with
  | [] => .error .unexpectedEnd
  | c :: _ =>
    if c.isDigit then .ok (cs.takeWhile Char.isDigit, cs.dropWhile Char.isDigit)
    else .error (.invalidChar c context)

/-- Reads a number and keeps its literal. -/
def readNumber (cs : List Char) : Except JsonError (Json × List Char) := do
  let (sign, cs) : List Char × List Char := match cs with
    | '-' :: rest => (['-'], rest)
    | _ => ([], cs)
  let (whole, cs) ← match cs with
    | '0' :: rest => pure (['0'], rest)
    | _ => readSomeDigits "in numeric literal" cs
  let (fraction, cs) ← match cs with
    | '.' :: rest => do
      let (ds, rest) ← readSomeDigits "after decimal point in numeric literal" rest
      pure ('.' :: ds, rest)
    | _ => pure ([], cs)
  let (exponent, cs) ← match cs with
    | e :: rest =>
      if e = 'e' || e = 'E' then do
        let (mark, rest) : List Char × List Char := match rest with
          | s :: rest' => if s = '+' || s = '-' then ([e, s], rest') else ([e], rest)
          | [] => ([e], [])
        let (ds, rest) ← readSomeDigits "in exponent of numeric literal" rest
        pure (mark ++ ds, rest)
      else pure ([], cs)
    | [] => pure ([], cs)
  .ok (.number (String.ofList (sign ++ whole ++ fraction ++ exponent)), cs)

mutual

/-- Reads a document that may be led in by blanks. -/
def readValue : Nat → List Char → Except JsonError (Json × List Char)
  | 0, _ => .error .unexpectedEnd
  | fuel + 1, cs =>
    match skipGaps cs with
    | [] => .error .unexpectedEnd
    | c :: rest =>
      match c with
      | '\x7b' =>
        match skipGaps rest with
        | '\x7d' :: rest => .ok (.object [], rest)
        | rest => readMembers fuel #[] rest
      | '[' =>
        match skipGaps rest with
        | ']' :: rest => .ok (.array [], rest)
        | rest => readItems fuel #[] rest
      | '"' => do
        let (s, rest) ← readString (rest.length + 1) #[] rest
        .ok (.string s, rest)
      | 't' => readWord "true" (.bool true) ['r', 'u', 'e'] rest
      | 'f' => readWord "false" (.bool false) ['a', 'l', 's', 'e'] rest
      | 'n' => readWord "null" .null ['u', 'l', 'l'] rest
      | _ =>
        if c.isDigit || c = '-' then readNumber (c :: rest)
        else .error (.invalidChar c "looking for beginning of value")

/-- Reads the items of an array from the next one on. -/
def readItems : Nat → Array Json → List Char → Except JsonError (Json × List Char)
  | 0, _, _ => .error .unexpectedEnd
  | fuel + 1, acc, cs => do
    let (item, rest) ← readValue fuel cs
    match skipGaps rest with
    | ',' :: rest => readItems fuel (acc.push item) rest
    | ']' :: rest => .ok (.array (acc.push item).toList, rest)
    | c :: _ => .error (.invalidChar c "after array element")
    | [] => .error .unexpectedEnd

/-- Reads the members of an object from the next one on. -/
def readMembers : Nat → Array (String × Json) → List Char → Except JsonError (Json × List Char)
  | 0, _, _ => .error .unexpectedEnd
  | fuel + 1, acc, cs =>
    match skipGaps cs with
    | [] => .error .unexpectedEnd
    | '"' :: rest => do
      let (key, rest) ← readString (rest.length + 1) #[] rest
      match skipGaps rest with
      | ':' :: rest => do
        let (item, rest) ← readValue fuel rest
        match skipGaps rest with
        | ',' :: rest => readMembers fuel (acc.push (key, item)) rest
        | '\x7d' :: rest => .ok (.object (acc.push (key, item)).toList, rest)
        | c :: _ => .error (.invalidChar c "after object key:value pair")
        | [] => .error .unexpectedEnd
      | c :: _ => .error (.invalidChar c "after object key")
      | [] => .error .unexpectedEnd
    | c :: _ => .error (.invalidChar c "looking for beginning of object key string")

end

/-- Reads one document and nothing after it but blanks. -/
def parse (s : String) : Except JsonError Json := do
  let cs := s.toList
  let (j, rest) ← readValue (cs.length + 1) cs
  match skipGaps rest with
  | [] => .ok j
  | c :: _ => .error (.invalidChar c "after top-level value")

end Json

end PathQuery
