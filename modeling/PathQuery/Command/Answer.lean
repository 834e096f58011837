import PathQuery.Command.Listing
import PathQuery.Command.Spec
import PathQuery.Terminal.Basic

/-!
# What a command comes to

A command either comes to an answer or fails for a cause. People are told either in words; a script
that asks for it is told in one document, which says whether the command succeeded and holds what
it found or what went wrong.
-/

namespace PathQuery.Command

/-- What kind of failure a command reports. Scripts may rely on the names. -/
inductive FailureCode where
  | configInvalid
  | schemaInvalid
  | planNotFound
  | planInvalid
  | structuralViolation
  | unsupportedPredicate
  | databaseError
  | fileNotFound
  | fileReadError
  | fileWriteError
  | invalidInput
  | missingArgument
  | internalError
  deriving DecidableEq, Repr

/-- The name of a kind of failure. -/
def FailureCode.name : FailureCode → String
  | .configInvalid => "CONFIG_INVALID"
  | .schemaInvalid => "SCHEMA_INVALID"
  | .planNotFound => "PLAN_NOT_FOUND"
  | .planInvalid => "PLAN_INVALID"
  | .structuralViolation => "STRUCTURAL_VIOLATION"
  | .unsupportedPredicate => "UNSUPPORTED_PREDICATE"
  | .databaseError => "DATABASE_ERROR"
  | .fileNotFound => "FILE_NOT_FOUND"
  | .fileReadError => "FILE_READ_ERROR"
  | .fileWriteError => "FILE_WRITE_ERROR"
  | .invalidInput => "INVALID_INPUT"
  | .missingArgument => "MISSING_ARGUMENT"
  | .internalError => "INTERNAL_ERROR"

/-- Why a command failed. -/
structure Failure where
  /-- The kind of failure. -/
  code : FailureCode
  /-- What went wrong. -/
  message : Text
  /-- What may help, empty if nothing is known to. -/
  suggestion : String := ""
  deriving Repr

/-- The kind of failure of a query. -/
def FailureCode.ofQuery (e : QueryError) : FailureCode :=
  if e.isUnsupported then .unsupportedPredicate
  else if e.isViolation then .structuralViolation else .internalError

/-! ## Warnings -/

/-- Why a tree will not yield what is likely expected. -/
inductive WarningKind where
  /-- The filters of its root contradict the schema. -/
  | rootPruned
  /-- No path reaches the depth of the plan. -/
  | noPaths (depth : Int)
  deriving DecidableEq, Repr

/-- A warning about the tree of a root. -/
structure Warning where
  /-- The name of the plan. -/
  plan : String
  /-- The position of the root. -/
  root : Nat
  /-- What is the matter. -/
  kind : WarningKind
  deriving DecidableEq, Repr

namespace Warning

/-- The name of a kind of warning. -/
def code (w : Warning) : String :=
  match w.kind with
  | .rootPruned => "ROOT_PRUNED"
  | .noPaths _ => "NO_PATHS"

/-- The wording of a warning. -/
def message (w : Warning) : String :=
  "root " ++ toString w.root ++ match w.kind with
    | .rootPruned => " can never match: its filters contradict the schema"
    | .noPaths depth => " has no path reaching depth " ++ toString depth

/-- A warning as a line for people. -/
def line (w : Warning) : String := Terminal.warning (w.plan ++ ": " ++ w.message) ++ "\n"

/-- A warning as a document. -/
def toJson (w : Warning) : Json :=
  .object ([("code", .string w.code), ("message", .string w.message)] ++
    memberIf (w.plan ≠ "") "plan" (.string w.plan))

end Warning

/-! ## Answers -/

/-- What a command found. -/
structure Answer where
  /-- The document for scripts, if there is one. -/
  data : Except UnwritableValue Json
  /-- What to warn of. -/
  warnings : List Warning := []
  /-- How many things were found, if they were counted. -/
  count : Option Nat := none
  /-- The text for people. -/
  text : Text
  /-- Whether people are warned beside the text. -/
  warnsBeside : Bool := false

/-- The document that tells a script of an answer. -/
def Answer.envelope (a : Answer) : Except UnwritableValue Json := do
  let data ← a.data
  return .object ([("ok", .bool true), ("data", data)] ++
    memberIf (!a.warnings.isEmpty) "warnings" (.array (a.warnings.map Warning.toJson)) ++
    (match a.count with
      | some n => [("meta", .object (memberIf (n ≠ 0) "count" (.int n)))]
      | none => []))

/-- The document that tells a script of a failure. -/
def Failure.envelope (f : Failure) : Json :=
  .object [("ok", .bool false), ("error", .object (
    [("code", .string f.code.name), ("message", .string f.message.scrub)] ++
      memberIf (f.suggestion ≠ "") "suggestion" (.string f.suggestion)))]

/-- What people are told of a failure. -/
def Failure.text (f : Failure) : Text :=
  if f.suggestion = "" then f.message
  else f.message ++ ((("\n\n" ++ f.suggestion : String)) : Text)

/-! ## Outcomes -/

/-- What a run of the program writes, and how it ends. -/
structure Outcome where
  /-- What it writes to the standard output. -/
  stdout : Text := ⟨[]⟩
  /-- What it writes beside that. -/
  stderr : Text := ⟨[]⟩
  /-- What it ends with if it fails. -/
  failure : Option Text := none
  /-- Whether the failure has been told already. -/
  told : Bool := false

namespace Outcome

/-- The exit status. -/
def status (o : Outcome) : Nat := if o.failure.isSome then 1 else 0

/-- The line that tells of a failure that has not been told. -/
def errorLine (o : Outcome) : Text :=
  match o.failure, o.told with
  | some message, false => ("Error: " : Text) ++ message ++ "\n"
  | _, _ => ⟨[]⟩

end Outcome

/-- A document as it is written. -/
def printDocument (j : Json) : Text := Text.ofString (j.pretty 0 ++ "\n")

/-- The outcome of a command that came to an answer, after what it wrote beside that. -/
def Answer.outcome (a : Answer) (json : Bool) (stderr : Text) : Outcome :=
  if json then
    match a.envelope with
    | .ok j => { stdout := printDocument j, stderr }
    | .error e =>
      let note := programName ++ ": encode response: " ++ e.message ++ "\n"
      { stderr := stderr ++ Text.ofString note }
  else
    let warnings := if a.warnsBeside then String.join (a.warnings.map Warning.line) else ""
    { stdout := a.text, stderr := stderr ++ Text.ofString warnings }

/-- The outcome of a command that failed, after what it wrote beside that. -/
def Failure.outcome (f : Failure) (json : Bool) (stderr : Text) : Outcome :=
  if json then
    { stdout := printDocument f.envelope, stderr, failure := some (Text.ofString f.code.name)
      told := true }
  else { stderr, failure := some f.text }

end PathQuery.Command
