import PathQuery.Text.Quoted

/-!
# JSON documents

A document is kept as it was written: numbers are their literals, and the members of an object
stand in order. Strings are printed so that a document may stand inside a page of markup: angle
brackets, ampersands and the two line separators of Unicode are escaped like control characters.
-/

namespace PathQuery

/-- A JSON document. -/
inductive Json where
  /-- The null document. -/
  | null
  /-- A truth value. -/
  | bool (b : Bool)
  /-- A number, as its literal. -/
  | number (literal : String)
  /-- A string. -/
  | string (s : String)
  /-- An array. -/
  | array (items : List Json)
  /-- An object, its members in order. -/
  | object (members : List (String × Json))
  deriving Repr, Inhabited

namespace Json

/-- An integer. -/
def int (n : Int) : Json := .number (toString n)

/-- The characters of an escaped code unit. -/
def unicodeEscape (n : Nat) : List Char := '\\' :: 'u' :: hexDigits 4 n

/-- A character inside a string. -/
def escapeChar (c : Char) : List Char :=
  match c with
  | '"' => ['\\', '"']
  | '\\' => ['\\', '\\']
  | '\n' => ['\\', 'n']
  | '\r' => ['\\', 'r']
  | '\t' => ['\\', 't']
  | '<' | '>' | '&' => unicodeEscape c.toNat
  | c =>
    if c.toNat = 8 then ['\\', 'b']
    else if c.toNat = 12 then ['\\', 'f']
    else if c.toNat < 0x20 || c.toNat = 0x2028 || c.toNat = 0x2029 then unicodeEscape c.toNat
    else [c]

/-- A string between quotes. -/
def printString (s : String) : String :=
  String.ofList ('"' :: s.toList.flatMap escapeChar ++ ['"'])

mutual

/-- A document on one line without blanks. -/
def print : Json → String
  | .null => "null"
  | .bool b => if b then "true" else "false"
  | .number literal => literal
  | .string s => printString s
  | .array items => "[" ++ String.intercalate "," (printItems items) ++ "]"
  | .object members => "\x7b" ++ String.intercalate "," (printMembers members) ++ "\x7d"

/-- The items of an array. -/
def printItems : List Json → List String
  | [] => []
  | j :: js => j.print :: printItems js

/-- The members of an object. -/
def printMembers : List (String × Json) → List String
  | [] => []
  | (k, j) :: rest => (printString k ++ ":" ++ j.print) :: printMembers rest

end

/-- Two blanks for every level. -/
def margin (level : Nat) : String := String.ofList (List.replicate (2 * level) ' ')

mutual

/-- A document over several lines, indented by two blanks a level. -/
def pretty (level : Nat) : Json → String
  | .array [] => "[]"
  | .object [] => "\x7b\x7d"
  | .array items =>
    "[\n" ++ String.intercalate ",\n" (prettyItems (level + 1) items) ++ "\n" ++ margin level ++ "]"
  | .object members =>
    "\x7b\n" ++ String.intercalate ",\n" (prettyMembers (level + 1) members) ++ "\n" ++
      margin level ++ "\x7d"
  | j => j.print

/-- The items of an array, each on a line of its own. -/
def prettyItems (level : Nat) : List Json → List String
  | [] => []
  | j :: js => (margin level ++ j.pretty level) :: prettyItems level js

/-- The members of an object, each on a line of its own. -/
def prettyMembers (level : Nat) : List (String × Json) → List String
  | [] => []
  | (k, j) :: rest =>
    (margin level ++ printString k ++ ": " ++ j.pretty level) :: prettyMembers level rest

end

/-- The member of an object with a key, the last one when it is repeated. -/
def get? (key : String) : Json → Option Json
  | .object members => (members.reverse.find? (·.1 == key)).map (·.2)
  | _ => none

end Json

end PathQuery
