import PathQuery.Command.Flag
import PathQuery.Sql.Dialect

/-!
# Commands

The commands form a tree below the program itself. A command has a name, flags of its own besides
those that every command has, and a rule for its arguments. A command line names a command by the
words that are neither flags nor their values, as far as they lead down the tree.
-/

namespace PathQuery.Command

/-- The shells that completion scripts are written for. -/
inductive Shell where
  | bash
  | fish
  | powershell
  | zsh
  deriving DecidableEq, Repr

/-- The name of a shell. -/
def Shell.name : Shell → String
  | .bash => "bash"
  | .fish => "fish"
  | .powershell => "powershell"
  | .zsh => "zsh"

/-- A command. -/
inductive Verb where
  /-- The program itself. -/
  | program
  /-- Compile plans into SQL. -/
  | compile
  /-- Show or edit the configuration. -/
  | config
  /-- Write the default configuration. -/
  | configInit
  /-- Set fields of the configuration. -/
  | configSet
  /-- Clear fields of the configuration. -/
  | configUnset
  /-- Show the configuration. -/
  | configShow
  /-- Explain how plans compile. -/
  | explain
  /-- Run plans. -/
  | run
  /-- Show the topology. -/
  | schema
  /-- Print the statements that create the tables. -/
  | schemaDdl
  /-- Print the trees of plans. -/
  | tree
  /-- Show the version. -/
  | version
  /-- Show help on a command. -/
  | help
  /-- Write a completion script. -/
  | completion
  /-- Write the completion script of a shell. -/
  | completionFor (s : Shell)
  deriving DecidableEq, Repr

/-- How many arguments a command takes. -/
inductive ArgumentRule where
  /-- Any number. -/
  | any
  /-- None. -/
  | none
  /-- One or more. -/
  | some
  deriving DecidableEq, Repr

/-- The name of the program. -/
def programName : String := "sqlgraph"

namespace Verb

/-- The name of a command. -/
def name : Verb → String
  | .program => programName
  | .compile => "compile"
  | .config => "config"
  | .configInit => "init"
  | .configSet => "set"
  | .configUnset => "unset"
  | .configShow => "show"
  | .explain => "explain"
  | .run => "run"
  | .schema => "schema"
  | .schemaDdl => "ddl"
  | .tree => "tree"
  | .version => "version"
  | .help => "help"
  | .completion => "completion"
  | .completionFor s => s.name

/-- The commands right below a command. -/
def children : Verb → List Verb
  | .program =>
    [.compile, .config, .explain, .run, .schema, .tree, .version, .help, .completion]
  | .config => [.configInit, .configSet, .configUnset, .configShow]
  | .schema => [.schemaDdl]
  | .completion => [.completionFor .bash, .completionFor .zsh, .completionFor .fish,
      .completionFor .powershell]
  | _ => []

/-- The command above a command. -/
def parent? : Verb → Option Verb
  | .program => none
  | .configInit | .configSet | .configUnset | .configShow => some .config
  | .schemaDdl => some .schema
  | .completionFor _ => some .completion
  | _ => some .program

/-- The names on the way down to a command. -/
def path (v : Verb) : String :=
  match v.parent? with
  | none => v.name
  | some .program => programName ++ " " ++ v.name
  | some p => programName ++ " " ++ p.name ++ " " ++ v.name

/-- What a command is called with, behind its name. -/
def operands : Verb → String
  | .compile | .explain | .run | .tree => " <plan>..."
  | .help => " [command]"
  | _ => ""

/-- How many arguments a command takes. -/
def rule : Verb → ArgumentRule
  | .program | .help => .any
  | .compile | .explain | .run | .tree => .some
  | _ => .none

/-- Whether a command does something besides naming others. -/
def isRunnable : Verb → Bool
  | .program | .completion => false
  | _ => true

/-- What a command does, in a line. -/
def summary : Verb → String
  | .program => "sqlgraph - graph traversals compiled to SQL"
  | .compile => "Compile traversal plans into SQL"
  | .config => "Manage sqlgraph config.toml settings"
  | .configInit => "Create a default config.toml if missing"
  | .configSet => "Set one or more config.toml fields"
  | .configUnset => "Clear one or more optional config.toml fields"
  | .configShow => "Show effective config.toml values"
  | .explain => "Explain how plans compile: pruned trees, statements and aliases"
  | .run => "Run traversal plans against the database"
  | .schema => "Show the graph topology"
  | .schemaDdl => "Print the CREATE TABLE statements for the topology"
  | .tree => "Print the pruned query tree of each plan root"
  | .version => "Show sqlgraph version, build and driver information"
  | .help => "Help about any command"
  | .completion => "Generate the autocompletion script for the specified shell"
  | .completionFor s => "Generate the autocompletion script for " ++ s.name

/-! ## Flags -/

/-- The flags that every command has. -/
def globalFlags : List Flag := [
  { name := "config", usage := "Path to config file" },
  { name := "schema", usage := "Path to the topology file (overrides schema in config)" },
  { name := "db", usage := "Database DSN: SQLite path or PostgreSQL URL (overrides database.dsn)" },
  { name := "dialect", usage := "SQL dialect: sqlite or postgres (overrides dialect.name)" },
  { name := "log-level", usage := "Log level: debug, info, warn, error" },
  { name := "metrics-addr", usage := "Serve Prometheus metrics on this address while running" },
  { name := "json", kind := .switch, usage := "Write a JSON envelope to stdout (for scripts)" }]

/-- The flags that a command has of its own. -/
def ownFlags : Verb → List Flag
  | .compile => [
    { name := "mode", kind := .modes
      usage := "Statements to compile: regular, optional, emit or all" },
    { name := "out", letter := some 'o'
      usage := "Write the SQL script to this file instead of stdout" }]
  | .explain => [
    { name := "raw", kind := .switch
      usage := "Print the markdown source instead of rendering it" }]
  | .run => [
    { name := "limit", letter := some 'n', kind := .number
      usage := "Stop each plan after this many results (0 = no limit)" },
    { name := "batch-size", kind := .number
      usage := "Rows decoded per fetch (overrides materialize.batch_size)" }]
  | .configSet => [
    { name := "schema-path", usage := "Set the topology file path" },
    { name := "dsn", usage := "Set database.dsn" },
    { name := "dialect-name", usage := "Set dialect.name (sqlite|postgres)" },
    { name := "metrics-addr", usage := "Set metrics.addr" },
    { name := "ui-accent", usage := "Set UI accent color (ANSI 0-255 or #RRGGBB)" },
    { name := "ui-code-theme", usage := "Set markdown code theme name" }]
  | .configUnset => [
    { name := "metrics-addr", kind := .switch, usage := "Clear metrics.addr" },
    { name := "ui-accent", kind := .switch, usage := "Clear ui.accent" },
    { name := "ui-code-theme", kind := .switch, usage := "Clear ui.code_theme" }]
  | .completionFor _ => [
    { name := "no-descriptions", kind := .switch, usage := "disable completion descriptions" }]
  | _ => []

/-- The flags that a command shares with the others. Its own flags hide those of the same name. -/
def sharedFlags (v : Verb) : List Flag :=
  globalFlags.filter fun f ↦ !v.ownFlags.any (·.name == f.name)

/-- All flags of a command but the one that asks for help. -/
def flags (v : Verb) : List Flag := v.ownFlags ++ v.sharedFlags

/-! ## Finding a command -/

/-- Goes down the tree along the words of a command line, at most so many steps. Answers the
command and the words that do not name it. -/
def descend : Nat → Verb → List String → Verb × List String
  | 0, v, words => (v, words)
  | depth + 1, v, words =>
    match nextCommand? v.flags words with
    | none => (v, words)
    | some (word, rest) =>
      match v.children.find? (·.name == word) with
      | some child => descend depth child rest
      | none => (v, words)

/-- How deep the tree of commands is. -/
def treeDepth : Nat := 2

/-- The edit distance from a name to a row of another: each entry is that to the rest of the
other name. -/
def distances (target : List Char) : List Char → List Nat
  | [] => (List.range (target.length + 1)).reverse
  | c :: rest =>
    let below := distances target rest
    let next (t : Char) (diagonal down : Nat) (row : List Nat) : List Nat :=
      let right := row.headD 0
      (if c = t then diagonal else 1 + min diagonal (min down right)) :: row
    let last := below.getLastD 0 + 1
    ((target.zip (below.zip (below.drop 1))).reverse.foldl
      (fun row (t, down, diagonal) ↦ next t diagonal down row) [last])

/-- How many letters have to be changed, added or dropped to make one name of another. -/
def editDistance (s t : String) : Nat := (distances t.toList s.toList).headD 0

/-- The greatest distance of a name that may be meant. -/
def suggestionDistance : Nat := 2

/-- The commands below the program that may be meant by a word. -/
def suggestions (word : String) : List String :=
  let word := lowerCase word
  (Verb.program.children.filter (· ≠ .help)).map name |>.filter fun candidate ↦
    editDistance word candidate ≤ suggestionDistance ||
      word.toList.isPrefixOf candidate.toList

/-- The wording of the refusal of a word that names no command. -/
def unknownMessage (v : Verb) (word : String) : String :=
  "unknown command " ++ quoted word ++ " for " ++ quoted v.path

/-- The list of what may be meant, at the end of a message. -/
def suggestionText (word : String) : String :=
  match suggestions word with
  | [] => ""
  | names => "\n\nDid you mean this?\n" ++ String.join (names.map fun n ↦ "\t" ++ n ++ "\n")

/-- The command of a command line, and the words that do not name it. The program itself takes no
arguments of its own. -/
def find (words : List String) : Except String (Verb × List String) :=
  match descend treeDepth .program words with
  | (.program, rest) =>
    match nextCommand? Verb.program.flags rest with
    | some (word, _) => .error (Verb.program.unknownMessage word ++ suggestionText word)
    | none => .ok (.program, rest)
  | found => .ok found

/-- Why a command does not take some arguments, if it does not. -/
def refusal? (v : Verb) (arguments : List String) : Option String :=
  match v.rule, arguments with
  | .none, word :: _ => some (v.unknownMessage word)
  | .some, [] => some "requires at least 1 arg(s), only received 0"
  | _, _ => none

end Verb

end PathQuery.Command
