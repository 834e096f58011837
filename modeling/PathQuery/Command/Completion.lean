import PathQuery.Command.Answer
import PathQuery.Command.Spec

/-!
# Completing a command line

A shell may ask what the last word of a command line can be completed to. The words before it name
a command, and it is offered the flags of that command that have not been given, if the last word
begins with a dash, and the commands below it otherwise. A value of a flag is left to the shell.
-/

namespace PathQuery.Command

/-- What a shell does when no word that is offered is taken. -/
inductive Directive where
  /-- It offers files. -/
  | files
  /-- It offers nothing. -/
  | nothing
  deriving DecidableEq, Repr

/-- The number that tells a shell of a directive. -/
def Directive.number : Directive → Nat
  | .files => 0
  | .nothing => 4

/-- The name of a directive. -/
def Directive.name : Directive → String
  | .files => "ShellCompDirectiveDefault"
  | .nothing => "ShellCompDirectiveNoFileComp"

/-- What a shell is offered. -/
structure Offer where
  /-- The words, each with what it is for. -/
  words : List (String × String) := []
  /-- What the shell does otherwise. -/
  directive : Directive := .files
  /-- What is wrong with the words that come before. -/
  fault : Option String := none
  deriving DecidableEq, Repr

/-- Whether a word begins with what has been typed of it. -/
def extendsWord (typed word : String) : Bool := typed.toList.isPrefixOf word.toList

/-- The names of a flag that what has been typed can be completed to. -/
def Flag.offers (f : Flag) (typed : String) : List (String × String) :=
  let names := ("--" ++ f.name) :: (f.letter.map fun c ↦ "-" ++ String.singleton c).toList
  (names.filter (extendsWord typed)).map fun n ↦ (n, f.usage)

/-- Flags by name. -/
def sortedFlags (flags : List Flag) : List Flag :=
  flags.mergeSort fun a b ↦ decide (a.name ≤ b.name)

/-- Whether a word begins a flag. -/
def startsFlag (word : String) : Bool := word.toList.head? = some '-'

namespace Verb

/-- The commands right below a command that what has been typed can be completed to, by name. -/
def childOffers (v : Verb) (typed : String) : List (String × String) :=
  let sorted := v.children.mergeSort fun a b ↦ decide (a.name ≤ b.name)
  (sorted.filter fun c ↦ extendsWord typed c.name).map fun c ↦ (c.name, c.summary)

/-- What a command offers for its arguments, if it offers anything. -/
def argumentOffer? (v : Verb) (arguments : List String) (typed : String) : Option Offer :=
  match v with
  | .help =>
    let words := match find arguments with
      | .ok (topic, _) => topic.childOffers typed
      | .error _ => []
    some { words, directive := .nothing }
  | .completion | .completionFor _ => some { directive := .nothing }
  | _ => none

/-- All flags of a command. -/
def allFlags (v : Verb) : List Flag := helpFlag v.name :: v.flags

/-- The flags of a command that have not been given: those that it shares, and then the others. -/
def flagOffers (v : Verb) (w : Words) (typed : String) : List (String × String) :=
  let own := helpFlag v.name :: v.ownFlags
  let flags := if v = .program then sortedFlags (own ++ v.sharedFlags)
    else sortedFlags v.sharedFlags ++ sortedFlags own
  (flags.filter fun f ↦ !w.isGiven f.name).flatMap (·.offers typed)

/-- The flag of a name, or of a letter. -/
def flag? (v : Verb) (name : String) : Option Flag :=
  match name.toList with
  | [c] => v.allFlags.find? (·.letter == some c)
  | _ => v.allFlags.find? (·.name == name)

end Verb

/-- The flag that a word names: its name, or the last of its letters. -/
def namedFlag (word : String) : String :=
  match word.toList with
  | '-' :: '-' :: name => String.ofList name
  | cs => String.ofList (cs.drop (cs.length - 1))

/-- Whether a word gives a flag without a value. -/
def isBareFlag (word : String) : Bool :=
  !word.toList.contains '=' && match word.toList with
    | '-' :: '-' :: _ :: _ => true
    | '-' :: c :: _ => c ≠ '-'
    | _ => false

/-- What is being typed. -/
structure Typing where
  /-- The flag whose value is typed, if it is one. -/
  flag : Option Flag := none
  /-- The words before it. -/
  words : List String
  /-- What has been typed. -/
  typed : String
  /-- The name of a flag that the command does not have. -/
  unknown : Option String := none

/-- What is being typed behind the words of a command. The value of a flag stands behind an equals
sign, or behind a word that names a flag which takes one. -/
def Typing.ofWords (v : Verb) (words : List String) (last : String) : Typing :=
  let (front, value) := splitEquals last
  let behindEquals := startsFlag last && value.isSome
  let asked := if behindEquals then namedFlag front else ""
  let typed := if behindEquals then value.getD "" else last
  if startsFlag last && !behindEquals then { words, typed }
  else
    let previous := words.getLastD ""
    let behindName := asked = "" && isBareFlag previous
    let name := if behindName then namedFlag previous else asked
    let kept := if behindName then words.dropLast else words
    if name = "" then { words := kept, typed }
    else match v.flag? name with
      | none => { words, typed := last, unknown := some name }
      | some f =>
        if f.kind = .switch && !behindEquals then { words, typed }
        else { flag := some f, words := kept, typed }

/-- What is offered behind the words of a command. -/
def offerFor (v : Verb) (words : List String) (last : String) : Offer :=
  let t := Typing.ofWords v words last
  match readWords v.allFlags {} t.words with
  | .error e =>
    { fault := some ("Error while parsing flags from args [" ++ String.intercalate " " t.words ++
        "]: " ++ e.message) }
  | .ok w =>
    -- behind two dashes another two are an argument, and so is every flag
    let open? := match readWords v.allFlags {} (t.words ++ ["--"]) with
      | .ok more => more.arguments.length ≤ w.arguments.length
      | .error _ => true
    match t.unknown.filter fun _ ↦ open? with
    | some name =>
      { fault := some ("Subcommand '" ++ v.name ++ "' does not support flag '" ++ name ++ "'") }
    | none =>
      if w.isGiven "help" then { directive := .nothing }
      else if t.flag.isNone && startsFlag t.typed && !t.typed.toList.contains '=' && open? then
        { words := v.flagOffers w t.typed, directive := .nothing }
      else
        let listed := t.flag.isNone && w.arguments.isEmpty && !v.children.isEmpty
        let words := if listed then v.childOffers t.typed else []
        let directive := if listed then .nothing else .files
        match if t.flag.isSome && open? then none else v.argumentOffer? w.arguments t.typed with
        | some more => { words := words ++ more.words, directive := more.directive }
        | none => { words, directive }

/-- The command that asks for completions, and whether it wants to know what words are for. -/
def completionRequest? : String → Option Bool
  | "__complete" => some true
  | "__completeNoDesc" => some false
  | _ => none

/-- What is offered for a flag of the command that asks for completions. -/
def requestOffer (typed : String) : Offer :=
  if startsFlag typed && !typed.toList.contains '=' then
    let flags := sortedFlags Verb.globalFlags ++ [helpFlag "__complete"]
    { words := flags.flatMap (·.offers typed), directive := .nothing }
  else {}

/-- What is offered behind some words for what has been typed of the last. -/
def offer (words : List String) (last : String) : Offer :=
  match (nextCommand? Verb.program.flags words).bind (completionRequest? ·.1) with
  | some _ => requestOffer last
  | none =>
    match Verb.find words with
    | .ok (v, rest) => offerFor v rest last
    | .error _ =>
      { fault := some ("Unable to find a command for arguments: [" ++ String.intercalate " " words ++
          "]") }

/-- What a shell is told of an offer. -/
def Offer.outcome (o : Offer) (described : Bool) : Outcome where
  stdout := Text.ofString (String.join (o.words.map fun (word, purpose) ↦
    word ++ (if described then "\t" ++ purpose else "") ++ "\n") ++
    ":" ++ toString o.directive.number ++ "\n")
  stderr := Text.ofString ((match o.fault with
    | some fault => "[Debug] [Error] " ++ fault ++ "\n"
    | none => "") ++ "Completion ended with directive: " ++ o.directive.name ++ "\n")

end PathQuery.Command
