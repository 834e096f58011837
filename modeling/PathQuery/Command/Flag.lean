import PathQuery.Number.Reading
import PathQuery.Query.Error

/-!
# Flags

A flag is given by its name after two dashes, or by its letter after one. It takes a value, behind
an equals sign or in the next word, unless it is a switch; a switch that is given is on. Letters
may be written together. Two dashes alone end the flags, and every other word is an argument.
-/

namespace PathQuery.Command

/-- What a flag takes. -/
inductive FlagKind where
  /-- A text. -/
  | text
  /-- A truth value, which need not be written. -/
  | switch
  /-- An integer. -/
  | number
  /-- A choice of modes. -/
  | modes
  deriving DecidableEq, Repr

/-- A flag of a command. -/
structure Flag where
  /-- Its name. -/
  name : String
  /-- Its letter, if it has one. -/
  letter : Option Char := none
  /-- What it takes. -/
  kind : FlagKind := .text
  /-- What it is for. -/
  usage : String
  deriving DecidableEq, Repr

/-- The flag that asks for help on a command. -/
def helpFlag (command : String) : Flag :=
  { name := "help", letter := some 'h', kind := .switch, usage := "help for " ++ command }

/-- Why words could not be read. -/
inductive FlagError where
  /-- A word is no flag. -/
  | malformed (word : String)
  /-- No flag has the name. -/
  | unknownName (name : String)
  /-- No flag has the letter. -/
  | unknownLetter (letter : Char) (letters : String)
  /-- A flag has no value. -/
  | missingValue (word : String)
  /-- A flag that is given by its letter has no value. -/
  | missingLetterValue (letter : Char) (letters : String)
  /-- A flag does not take the value. -/
  | invalidValue (value : String) (flag : Flag) (reason : String)
  deriving DecidableEq, Repr

/-- The first byte of a character between single quotes. -/
def quotedLetter (c : Char) : String :=
  let lead := Char.ofNat ((Text.ofString (String.singleton c)).bytes.headD 0).toNat
  let shown := if lead.toNat = 39 then ['\\', lead] else if lead = '"' then [lead]
    else Text.quoteChar lead
  "'" ++ String.ofList shown ++ "'"

/-- The names of a flag. -/
def Flag.names (f : Flag) : String :=
  match f.letter with
  | some c => "-" ++ String.singleton c ++ ", --" ++ f.name
  | none => "--" ++ f.name

/-- The wording of the error. -/
def FlagError.message : FlagError → String
  | .malformed word => "bad flag syntax: " ++ word
  | .unknownName name => "unknown flag: --" ++ name
  | .unknownLetter c letters => "unknown shorthand flag: " ++ quotedLetter c ++ " in -" ++ letters
  | .missingValue word => "flag needs an argument: " ++ word
  | .missingLetterValue c letters =>
    "flag needs an argument: " ++ quotedLetter c ++ " in -" ++ letters
  | .invalidValue value f reason =>
    "invalid argument " ++ quoted value ++ " for " ++ quoted f.names ++ " flag: " ++ reason

/-! ## Values -/

/-- The base a numeral is written in, and its digits. -/
def splitBase : List Char → Nat × List Char
  | '0' :: c :: rest =>
    match c.toLower with
    | 'x' => (16, rest)
    | 'b' => (2, rest)
    | 'o' => (8, rest)
    | _ => (8, c :: rest)
  | cs => (10, cs)

/-- Reads digits of a base onto an accumulator, and passes over underscores. The reader stops at
the first digit that takes the value past 64 bits. -/
def readDigitsOf (base acc : Nat) : List Char → Except NumberFault Nat
  | [] => .ok acc
  | '_' :: rest => readDigitsOf base acc rest
  | c :: rest =>
    match (hexValue? c).filter (· < base) with
    | none => .error .malformed
    | some d =>
      let next := acc * base + d
      if next < Nat.pow 2 64 then readDigitsOf base next rest else .error .outOfRange

/-- Reads a signed integer of 64 bits in the base its numeral names. -/
def readNumber (s : String) : Except NumberFault Int := do
  let (negative, body) := splitSign s.toList
  let (base, digits) := splitBase body
  if digits.isEmpty then throw .malformed
  let n ← readDigitsOf base 0 digits
  if s.toList.contains '_' && !separatorsOkIn s.toList then throw .malformed
  if negative then
    if n ≤ Nat.pow 2 63 then return -n else throw .outOfRange
  else if n < Nat.pow 2 63 then return n else throw .outOfRange

/-- Why a flag does not take a value, if it does not. -/
def FlagKind.refusal? (kind : FlagKind) (value : String) : Option String :=
  match kind with
  | .text => none
  | .switch =>
    match readBool value with
    | .ok _ => none
    | .error e => some (NumberError.message ⟨.boolean, value, e⟩)
  | .number =>
    match readNumber value with
    | .ok _ => none
    | .error e => some (NumberError.message ⟨.integer, value, e⟩)
  | .modes => if (Mode.parse? value).isSome then none else some (Mode.unknownMessage value)

/-! ## Reading words -/

/-- The flags that are given, in order, and the arguments. -/
structure Words where
  /-- The values of the flags by name. -/
  given : List (String × String) := []
  /-- The arguments. -/
  arguments : List String := []
  deriving DecidableEq, Repr, Inhabited

namespace Words

/-- Whether a flag is given. -/
def isGiven (w : Words) (name : String) : Bool := w.given.any (·.1 == name)

/-- The value of a flag that was given last. -/
def value? (w : Words) (name : String) : Option String :=
  (w.given.reverse.find? (·.1 == name)).map (·.2)

/-- The value of a flag that takes a text. -/
def text (w : Words) (name : String) : String := (w.value? name).getD ""

/-- Whether a switch is on. -/
def isOn (w : Words) (name : String) : Bool :=
  match readBool (w.text name) with
  | .ok b => b
  | .error _ => false

/-- The value of a flag that takes an integer. -/
def number (w : Words) (name : String) : Int := (readNumber (w.text name)).toOption.getD 0

/-- The modes that a flag chooses: one, or all of them. -/
def modes (w : Words) (name : String) : Option Mode := (Mode.parse? (w.text name)).getD none

/-- Gives a value to a flag. -/
def give (w : Words) (f : Flag) (value : String) : Except FlagError Words :=
  match f.kind.refusal? value with
  | some reason => .error (.invalidValue value f reason)
  | none => .ok { w with given := w.given ++ [(f.name, value)] }

end Words

/-- A name with what follows the first equals sign in it. -/
def splitEquals (s : String) : String × Option String :=
  let name := s.toList.takeWhile (· ≠ '=')
  match s.toList.drop name.length with
  | _ :: value => (String.ofList name, some (String.ofList value))
  | [] => (s, none)

/-- Reads letters that are written together. `next` is the word behind them; the answer tells
whether it has been used. -/
def readLetters (flags : List Flag) (next : Option String) :
    Words → List Char → Except FlagError (Words × Bool)
  | w, [] => .ok (w, false)
  | w, c :: rest =>
    let letters := String.ofList (c :: rest)
    match flags.find? (·.letter == some c), rest with
    | none, _ => .error (.unknownLetter c letters)
    | some f, '=' :: v :: value => do
      return (← w.give f (String.ofList (v :: value)), false)
    | some f, _ =>
      if f.kind = .switch then do
        let w ← w.give f "true"
        readLetters flags next w rest
      else if !rest.isEmpty then do return (← w.give f (String.ofList rest), false)
      else match next with
        | some value => do return (← w.give f value, true)
        | none => .error (.missingLetterValue c letters)

/-- Reads words. -/
def readWords (flags : List Flag) (w : Words) : List String → Except FlagError Words
  | [] => .ok w
  | word :: rest =>
    match word.toList with
    | ['-', '-'] => .ok { w with arguments := w.arguments ++ rest }
    | '-' :: '-' :: body =>
      if body.head? = some '-' || body.head? = some '=' then .error (.malformed word)
      else
        let (name, value) := splitEquals (String.ofList body)
        match flags.find? (·.name == name), value, rest with
        | none, _, _ => .error (.unknownName name)
        | some f, some value, rest => do readWords flags (← w.give f value) rest
        | some f, none, rest =>
          if f.kind = .switch then do readWords flags (← w.give f "true") rest
          else match rest with
            | value :: rest => do readWords flags (← w.give f value) rest
            | [] => .error (.missingValue word)
    | '-' :: c :: letters =>
      match readLetters flags rest.head? w (c :: letters), rest with
      | .error e, _ => .error e
      | .ok (w, true), _ :: rest => readWords flags w rest
      | .ok (w, _), rest => readWords flags w rest
    | _ => readWords flags { w with arguments := w.arguments ++ [word] } rest
termination_by words => words.length

/-- The first word that is neither a flag nor the value of one, and the words without it. A flag
that is no known switch is taken to have a value in the next word. -/
def nextCommand? (flags : List Flag) : List String → Option (String × List String)
  | [] => none
  | word :: rest =>
    match word.toList with
    | ['-', '-'] => none
    | '-' :: c :: letters =>
      let isSwitch :=
        if c = '-' then flags.any fun f ↦ f.kind = .switch && f.name.toList == letters
        else !letters.isEmpty || flags.any fun f ↦ f.kind = .switch && f.letter == some c
      let keep (found : String × List String) := (found.1, word :: found.2)
      if isSwitch || word.toList.contains '=' then (nextCommand? flags rest).map keep
      else match rest with
        | [] | [_] => none
        | value :: rest =>
          (nextCommand? flags rest).map fun (command, rest) ↦ (command, word :: value :: rest)
    | ['-'] | [] => (nextCommand? flags rest).map fun (command, rest) ↦ (command, word :: rest)
    | _ => some (word, rest)
termination_by words => words.length

end PathQuery.Command
