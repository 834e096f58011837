import PathQuery.Command.Completion
import PathQuery.Command.Configure
import PathQuery.Command.Execute
import PathQuery.Command.Help

/-!
# The program

A run of the program finds the command that its words name, reads the flags and the arguments, and
carries the command out. What is wrong with the words themselves is told in words, whether or not a
document is asked for.
-/

namespace PathQuery.Command

/-- Whether a command works under the configuration, with what the flags override. -/
def Verb.isConfigured : Verb → Bool
  | .compile | .explain | .run | .schema | .schemaDdl | .tree | .completionFor _ => true
  | _ => false

/-- Carries out a command that works under the configuration. -/
def performConfigured (s : Setting) (c : Context) (w : Words) : Verb → CommandM Answer
  | .compile => compile c w
  | .explain => explain c w
  | .run => run s c w
  | .schema => schema c
  | .schemaDdl => schemaDdl c
  | .tree => tree c w
  | _ => return { data := .ok .null, text := ⟨[]⟩ }

/-- Carries out a command. -/
def perform (s : Setting) (w : Words) (v : Verb) : CommandM Answer := do
  if v.isConfigured then
    let c ← loadContext s w
    performConfigured s c w v
  else match v with
    | .configInit => initConfig s w
    | .configSet => setConfig s w
    | .configUnset => unsetConfig s w
    | .version => return (VersionInfo.ofBuild s.build s.stamp s.platform).answer
    | _ => showConfig s w

/-! ## Help -/

/-- Words between backquotes, or between quotes if a backquote does not do. -/
def backquoted (s : String) : String :=
  let plain := s.toList.all fun c ↦ c.toNat ≠ 0x60 && c.toNat ≠ 0x7F && c.toNat ≠ 0xFEFF &&
    (c = '\t' || 0x20 ≤ c.toNat)
  if plain then "`" ++ s ++ "`" else quoted s

/-- What the command that shows help comes to. -/
def helpOutcome (topic : List String) : Outcome :=
  match Verb.find topic with
  | .ok (v, _) => { stdout := Text.ofString v.helpText }
  | .error _ =>
    let shown := "[" ++ String.intercalate " " (topic.map backquoted) ++ "]"
    { stderr := Text.ofString ("Unknown help topic " ++ shown ++ "\n" ++ Verb.program.usage false) }

/-! ## Runs -/

/-- An outcome that refuses the words of a run. -/
def refused (message : String) : Outcome := { failure := some (Text.ofString message) }

/-- Carries out a command whose flags and arguments have been read. -/
def carryOut (s : Setting) (world : World) (w : Words) (v : Verb) : Outcome × World :=
  let (result, scene) := (perform s w v).run { world }
  let json := w.isOn "json"
  (match result with
    | .ok answer => answer.outcome json scene.notes
    | .error failure => failure.outcome json scene.notes, scene.world)

/-- The command that words name, with its flags and arguments. -/
def readRun (words : List String) : Except String (Verb × Words) := do
  let (v, rest) ← Verb.find words
  let w ← (readWords (helpFlag v.name :: v.flags) {} rest).mapError FlagError.message
  return (v, w)

/-- Tells a shell what a command line can be completed to. Its words are not read as flags of the
run itself, which works under the configuration nevertheless. -/
def completeLine (s : Setting) (world : World) (described : Bool) (words : List String) :
    Outcome :=
  match words.getLast? with
  | none => refused "requires at least 1 arg(s), only received 0"
  | some last =>
    match (loadContext s {}).run { world } with
    | (.ok _, _) => (offer words.dropLast last).outcome described
    | (.error failure, scene) => failure.outcome false scene.notes

/-- A run of the program whose words name one of its commands. -/
def runCommand (s : Setting) (world : World) (words : List String) : Outcome × World :=
  match readRun words with
  | .error message => (refused message, world)
  | .ok (v, w) =>
    if w.isOn "help" || !v.isRunnable then ({ stdout := Text.ofString v.helpText }, world)
    else match v.refusal? w.arguments with
      | some message => (refused message, world)
      | none => if v = .help then (helpOutcome w.arguments, world) else carryOut s world w v

/-- A run of the program. -/
def runProgram (s : Setting) (world : World) (words : List String) : Outcome × World :=
  match nextCommand? Verb.program.flags words with
  | none => runCommand s world words
  | some (word, rest) =>
    match completionRequest? word with
    | some described => (completeLine s world described rest, world)
    | none => runCommand s world words

/-! ## The files of a run -/

/-- The names of files that the words of a run may mention: each word, what follows an equals sign
in it, and the file of the user's configuration. -/
def mentionedFiles (s : Setting) (words : List String) : List String :=
  Config.defaultPath s.home :: words ++ words.filterMap fun word ↦ (splitEquals word).2

/-- The topology file of a run, as far as the configuration tells. -/
def topologyFile? (s : Setting) (fs : FileSystem) (words : List String) : Option String :=
  match readRun words with
  | .error _ => none
  | .ok (_, w) => (loadConfig s w fs).toOption.map (·.schema)

end PathQuery.Command
