import PathQuery.Command.Spec
import PathQuery.Terminal.Basic

/-!
# Help

The help on a command is what it does, how it is called, the commands below it and its flags. Flags
are listed by name, and what they are for starts in one column.
-/

namespace PathQuery.Command

open Terminal (blanks)

/-! ## Flags -/

namespace Flag

/-- What a flag takes, as it is shown behind its name. -/
def shownValue (f : Flag) : String :=
  match f.kind with
  | .text => " string"
  | .switch => ""
  | .number => " int"
  | .modes => " mode"

/-- The left part of a flag's line. -/
def lead (f : Flag) : String :=
  (match f.letter with
    | some c => "  -" ++ String.singleton c ++ ", --"
    | none => "      --") ++ f.name ++ f.shownValue

/-- What a flag is for, with its value when it is not given. -/
def purpose (f : Flag) : String :=
  if f.kind = .modes then f.usage ++ " (default all)" else f.usage

end Flag

/-- The lines of some flags, by name. -/
def flagLines (flags : List Flag) : List String :=
  let sorted := flags.mergeSort fun a b ↦ decide (a.name ≤ b.name)
  let widest := (sorted.map fun f ↦ f.lead.length).foldl max 0
  sorted.map fun f ↦ f.lead ++ blanks (widest - f.lead.length) ++ "   " ++ f.purpose

/-! ## Commands -/

namespace Verb

/-- What a command does, at length. -/
def details : Verb → String
  | .program =>
    "sqlgraph compiles graph traversal plans into SQL over a relational\n" ++
    "graph layout (one V_ table per vertex label, one E_ table per edge label)\n" ++
    "and materializes the results.\n\n" ++
    "Plans are YAML files, or markdown notebooks with ```sqlgraph blocks."
  | .compile =>
    "Compiles every plan in the given files into SQL statements without\n" ++
    "touching the database.\n\n" ++
    "Examples:\n" ++
    "  sqlgraph compile people.yaml\n" ++
    "  sqlgraph compile notebook.md --mode optional\n" ++
    "  sqlgraph compile plans/*.yaml --out build/traversals.sql\n" ++
    "  sqlgraph compile people.yaml --json"
  | .config =>
    "Manage sqlgraph config.toml settings.\n\n" ++
    "Use this to initialize, inspect, and edit the topology path, database,\n" ++
    "dialect and display preferences."
  | .explain =>
    "Builds each plan, shows the pruned query tree of every root, and lists\n" ++
    "every compiled statement with its bind arguments and column aliases.\n\n" ++
    "The report is markdown. It is rendered for the terminal unless --raw is\n" ++
    "given or stdout is not a terminal.\n\n" ++
    "Examples:\n" ++
    "  sqlgraph explain people.yaml\n" ++
    "  sqlgraph explain people.yaml --raw > people.md"
  | .run =>
    "Compiles each plan, runs its statements against the configured database\n" ++
    "and prints the materialized elements: regular paths first, then optional\n" ++
    "branches, then emitted steps.\n\n" ++
    "Examples:\n" ++
    "  sqlgraph run people.yaml\n" ++
    "  sqlgraph run people.yaml --limit 20\n" ++
    "  sqlgraph run notebook.md --db postgres://localhost/graph --dialect postgres\n" ++
    "  sqlgraph run people.yaml --metrics-addr :9102 --json"
  | .schema =>
    "Lists every vertex and edge table of the topology with its physical\n" ++
    "columns: identity, properties (with postfix columns) and edge foreign keys.\n\n" ++
    "Examples:\n" ++
    "  sqlgraph schema\n" ++
    "  sqlgraph schema --schema other/topology.yaml --json"
  | .schemaDdl =>
    "Prints the DDL that lays the topology out in the configured dialect,\n" ++
    "for seeding a scratch database. sqlgraph never runs it.\n\n" ++
    "Examples:\n" ++
    "  sqlgraph schema ddl\n" ++
    "  sqlgraph schema ddl --dialect postgres > graph.sql"
  | .tree =>
    "Builds each plan against the topology and prints the query trees left\n" ++
    "after filter resolution and depth pruning. Leaves are marked with *.\n\n" ++
    "Examples:\n" ++
    "  sqlgraph tree people.yaml"
  | .help =>
    "Help provides help for any command in the application.\n" ++
    "Simply type sqlgraph help [path to command] for full details."
  | .completion =>
    "Generate the autocompletion script for sqlgraph for the specified shell.\n" ++
    "See each sub-command's help for details on how to use the generated script."
  | .completionFor .bash =>
    "Generate the autocompletion script for the bash shell.\n\n" ++
    "This script depends on the 'bash-completion' package.\n" ++
    "If it is not installed already, you can install it via your OS's package manager.\n\n" ++
    "To load completions in your current shell session:\n\n" ++
    "\tsource <(sqlgraph completion bash)\n\n" ++
    "To load completions for every new session, execute once:\n\n" ++
    "#### Linux:\n\n" ++
    "\tsqlgraph completion bash > /etc/bash_completion.d/sqlgraph\n\n" ++
    "#### macOS:\n\n" ++
    "\tsqlgraph completion bash > $(brew --prefix)/etc/bash_completion.d/sqlgraph\n\n" ++
    "You will need to start a new shell for this setup to take effect."
  | .completionFor .zsh =>
    "Generate the autocompletion script for the zsh shell.\n\n" ++
    "If shell completion is not already enabled in your environment you will need\n" ++
    "to enable it.  You can execute the following once:\n\n" ++
    "\techo \"autoload -U compinit; compinit\" >> ~/.zshrc\n\n" ++
    "To load completions in your current shell session:\n\n" ++
    "\tsource <(sqlgraph completion zsh)\n\n" ++
    "To load completions for every new session, execute once:\n\n" ++
    "#### Linux:\n\n" ++
    "\tsqlgraph completion zsh > \"$\x7bfpath[1]\x7d/_sqlgraph\"\n\n" ++
    "#### macOS:\n\n" ++
    "\tsqlgraph completion zsh > $(brew --prefix)/share/zsh/site-functions/_sqlgraph\n\n" ++
    "You will need to start a new shell for this setup to take effect."
  | .completionFor .fish =>
    "Generate the autocompletion script for the fish shell.\n\n" ++
    "To load completions in your current shell session:\n\n" ++
    "\tsqlgraph completion fish | source\n\n" ++
    "To load completions for every new session, execute once:\n\n" ++
    "\tsqlgraph completion fish > ~/.config/fish/completions/sqlgraph.fish\n\n" ++
    "You will need to start a new shell for this setup to take effect."
  | .completionFor .powershell =>
    "Generate the autocompletion script for powershell.\n\n" ++
    "To load completions in your current shell session:\n\n" ++
    "\tsqlgraph completion powershell | Out-String | Invoke-Expression\n\n" ++
    "To load completions for every new session, add the output of the above command\n" ++
    "to your powershell profile."
  | v => v.summary

/-- Whether the line that shows how a command is called mentions its flags. -/
def showsFlags : Verb → Bool
  | .completionFor .bash => false
  | _ => true

/-- The width of a column of command names. -/
def nameWidth : Nat := 11

/-- The lines of the commands below a command, by name. -/
def childLines (v : Verb) : List String :=
  let sorted := v.children.mergeSort fun a b ↦ decide (a.name ≤ b.name)
  sorted.map fun c ↦ "  " ++ c.name ++ blanks (nameWidth - c.name.length) ++ " " ++ c.summary

/-- A heading with lines below it, unless there are none. -/
def block (heading : String) (lines : List String) : String :=
  if lines.isEmpty then "" else "\n\n" ++ heading ++ "\n" ++ String.intercalate "\n" lines

/-- How a command is called. The flag that asks for help is among its own once help has been
asked for. -/
def usage (v : Verb) (withHelp : Bool) : String :=
  let own := if withHelp then helpFlag v.name :: v.ownFlags else v.ownFlags
  let (own, shared) := if v = .program then (own ++ globalFlags, []) else (own, v.sharedFlags)
  let nested := !v.children.isEmpty
  "Usage:" ++
  (if v.isRunnable then
    "\n  " ++ v.path ++ v.operands ++ (if v.showsFlags then " [flags]" else "") else "") ++
  (if nested then "\n  " ++ v.path ++ " [command]" else "") ++
  block "Available Commands:" v.childLines ++
  block "Flags:" (flagLines own) ++
  block "Global Flags:" (flagLines shared) ++
  (if nested then
    "\n\nUse \"" ++ v.path ++ " [command] --help\" for more information about a command." else "") ++
  "\n"

/-- The help on a command. -/
def helpText (v : Verb) : String := v.details ++ "\n\n" ++ v.usage true

end Verb

end PathQuery.Command
