import PathQuery.Compile.Path
import PathQuery.Query.Tree.Validate

/-!
# Compiling trees

A tree compiles to one statement for every leaf, one for every step with optional branches and
one for every emitting step that is no leaf, in this order. Either all of them compile or none is
returned.
-/

namespace PathQuery

namespace CompileM

/-- The body of the statement for a path. -/
def body (c : Compiler) (t : Tree) (p : Path) (branches : List NodeId) :
    CompileM (Query × List MembershipTable) :=
  match t.segments p with
  | [_] => single c t p branches
  | runs => split c t p runs branches

/-- The statement for a path, on a draft of its own. A fault names the path, unless there is no
step at its end. -/
def statement (c : Compiler) (t : Tree) (mode : Mode) (p : Path) (branches : List NodeId) :
    CompileM Statement := do
  drafting (set ({} : Draft))
  let leaf ← t.liveNode p.leaf
  let (query, tables) ← tryCatch (body c t p branches) fun e ↦ throw (.path mode leaf.table e)
  let s ← get
  let compiled : Statement := {
    mode
    leafTable := leaf.table
    path := p
    branches
    segments := t.segments p
    dialect := c.dialect
    query
    sql := s.draft.text
    operands := s.draft.operands.toList
    tables }
  set { s with journal := s.journal.push compiled }
  return compiled

/-- The paths of a mode, each with its branches. -/
def modePaths (t : Tree) : Mode → Except QueryError (List OptionalPath)
  | .regular => .ok (t.regularPaths.map (⟨·, []⟩))
  | .optional => .ok t.optionalPaths
  | .emit => .ok (t.emitPaths.map (⟨·, []⟩))
  | .other code => .error (.unknownMode code)

/-- The statements of one mode, in path order. -/
def modeStatements (c : Compiler) (t : Tree) (mode : Mode) : CompileM (List Statement) := do
  (← modePaths t mode).mapM fun p ↦ statement c t mode p.path p.branches

/-- The statements of a tree, which is checked first. -/
def allStatements (c : Compiler) (t : Tree) : CompileM (List Statement) := do
  t.validate
  let parts ← Mode.known.mapM (modeStatements c t)
  return parts.flatten

/-- The statements of a mode, or of all of them, of a tree that is checked first. -/
def chosenStatements (c : Compiler) (t : Tree) (mode : Option Mode) : CompileM (List Statement) :=
  match mode with
  | none => allStatements c t
  | some m => do
    t.validate
    modeStatements c t m

end CompileM

/-- Runs a step of compiling on a state. -/
def CompileM.runOn {α : Type} (m : CompileM α) (s : CompileState) :
    Except QueryError α × CompileState :=
  StateT.run (ExceptT.run m) s

end PathQuery
