import PathQuery.Graph.Topology
import PathQuery.Value.Json

/-!
# Logging

A logger has a least severity and a format. An entry that is severe enough is written as one line,
either of `key=value` pairs or as a JSON object; the pairs come in the order of their keys, after
the level and the message. A field that would be taken for one of these two, or for the time, is
written under a longer name.
-/

namespace PathQuery

/-- The severity of an entry, and the least severity a logger writes. -/
inductive LogLevel where
  | panic
  | fatal
  | error
  | warning
  | info
  | debug
  | trace
  deriving DecidableEq, Repr, Inhabited

namespace LogLevel

/-- The rank of a level; the most severe comes first. -/
def rank : LogLevel → Nat
  | .panic => 0
  | .fatal => 1
  | .error => 2
  | .warning => 3
  | .info => 4
  | .debug => 5
  | .trace => 6

/-- The word for a level. -/
def word : LogLevel → String
  | .panic => "panic"
  | .fatal => "fatal"
  | .error => "error"
  | .warning => "warning"
  | .info => "info"
  | .debug => "debug"
  | .trace => "trace"

/-- Reads a level, in any letter case. -/
def ofWord? (s : String) : Option LogLevel :=
  match lowerCase s with
  | "panic" => some .panic
  | "fatal" => some .fatal
  | "error" => some .error
  | "warn" | "warning" => some .warning
  | "info" => some .info
  | "debug" => some .debug
  | "trace" => some .trace
  | _ => none

end LogLevel

/-- How entries are written. -/
inductive LogFormat where
  /-- Pairs of keys and values. -/
  | text
  /-- A JSON object. -/
  | json
  deriving DecidableEq, Repr, Inhabited

/-- A logger. -/
structure Logger where
  /-- The least severity it writes. -/
  level : LogLevel := .info
  /-- How it writes. -/
  format : LogFormat := .text
  deriving DecidableEq, Repr, Inhabited

/-- Why there is no logger of a description. -/
inductive LoggerError where
  /-- No level has the name. -/
  | level (name : String)
  /-- No format has the name. -/
  | format (name : String)
  deriving DecidableEq, Repr

/-- The wording of the error. -/
def LoggerError.message : LoggerError → String
  | .level name =>
    "invalid log level " ++ quoted name ++ ": not a valid logrus Level: " ++ quoted name
  | .format name => "invalid log format " ++ quoted name

/-- The logger of a level and a format, each with a default when it is not named. -/
def Logger.ofNames (level format : String) : Except LoggerError Logger := do
  let level ← match (if level = "" then some .info else LogLevel.ofWord? level) with
    | some l => .ok l
    | none => .error (.level level)
  match lowerCase format with
  | "" | "text" => .ok ⟨level, .text⟩
  | "json" => .ok ⟨level, .json⟩
  | _ => .error (.format format)

/-- What is logged. -/
structure LogEntry where
  /-- Its severity. -/
  level : LogLevel
  /-- What happened. -/
  message : String
  /-- To what, and how. -/
  fields : List (String × Value) := []
  deriving Inhabited

namespace LogEntry

/-- The keys an entry has of its own. -/
def ownKeys : List String := ["time", "msg", "level", "logrus_error"]

/-- The fields with one that has an own key moved to a longer name. -/
def moveField (fields : List (String × Value)) (key : String) : List (String × Value) :=
  match lookupKey key fields with
  | some v => putKey ("fields." ++ key) v (fields.filter (·.1 ≠ key))
  | none => fields

/-- The fields as they are written, by key. -/
def writtenFields (e : LogEntry) : List (String × Value) :=
  (ownKeys.foldl moveField e.fields).mergeSort fun a b ↦ decide (a.1 ≤ b.1)

/-- Whether a character may stand in a value without quotes. -/
def isBare (c : Char) : Bool := c.isAlphanum || "-._/@^+".toList.contains c

/-- A value of a pair. -/
def showValue (t : Text) : String :=
  match t.toString? with
  | some s => if s.toList.all isBare then s else quoted s
  | none => t.quoted

/-- An entry as a line of pairs. -/
def text (e : LogEntry) : String :=
  let lead := [("level", Text.ofString e.level.word)] ++
    (if e.message = "" then [] else [("msg", Text.ofString e.message)])
  let fields := e.writtenFields.map fun (k, v) ↦ (k, v.render)
  String.intercalate " " ((lead ++ fields).map fun (k, t) ↦ k ++ "=" ++ showValue t) ++ "\n"

/-- An entry as a JSON object, which lacks the time. -/
def json (e : LogEntry) : Except UnwritableValue Json := do
  let fields ← Value.fieldsToJson e.writtenFields
  let members := fields ++ [("level", .string e.level.word), ("msg", .string e.message)]
  return .object (members.mergeSort fun a b ↦ decide (a.1 ≤ b.1))

/-- An entry as a line of a format. An entry that has no place in a JSON object is dropped. -/
def line (e : LogEntry) : LogFormat → String
  | .text => e.text
  | .json =>
    match e.json with
    | .ok j => j.print ++ "\n"
    | .error _ => ""

end LogEntry

namespace Logger

/-- Whether an entry is severe enough to be written. -/
def admits (l : Logger) (level : LogLevel) : Bool := level.rank ≤ l.level.rank

/-- What a logger writes for some entries. -/
def write (l : Logger) (entries : List LogEntry) : String :=
  String.join ((entries.filter (l.admits ·.level)).map (·.line l.format))

end Logger

end PathQuery
