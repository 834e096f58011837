import PathQuery.Markdown.Block
import PathQuery.Markdown.Reading
import PathQuery.Plan.Basic
import PathQuery.Text.Slug
import PathQuery.Yaml.Decode

/-!
# Reading plans

Every document of a YAML text is a plan, which has at least one root. Fields that are not known
are refused.

A notebook is a markdown document with plans in fenced blocks. A plan without a name of its own is
called after the closest heading above it; a name that has been given before is numbered.
-/

namespace PathQuery

/-- Why a text holds no plans. -/
inductive PlanError where
  /-- A document is not of the right shape. -/
  | yaml (e : Yaml.Error)
  /-- A plan has no roots. -/
  | noRoots (name : String)
  /-- There is no document. -/
  | noPlan
  /-- A notebook has no block with a plan. -/
  | noBlock

/-- The wording of the error. -/
def PlanError.message : PlanError → Text
  | .yaml e => ("invalid plan: " : Text) ++ e.message
  | .noRoots name => "invalid plan: plan " ++ quoted name ++ " has no roots"
  | .noPlan => "invalid plan: no plan found"
  | .noBlock => "invalid plan: no plan blocks found"

namespace PlanFile

open Yaml Yaml.DecodeM

/-- A filter. -/
def filter (fuel : Nat) : Target PlanFilter :=
  record {
    type := "plan.Filter"
    strict := true
    field := fun
    | "key" => string.field (·.key) ({ · with key := · })
    | "predicate" => string.field (·.predicate) ({ · with predicate := · })
    | "value" => (any fuel).field (·.value) ({ · with value := · })
    | "values" => (list (any fuel) .null).field (·.values) ({ · with values := · })
    | _ => none } fuel

/-- A sort term. -/
def order (fuel : Nat) : Target PlanOrder :=
  record {
    type := "plan.Order"
    strict := true
    field := fun
    | "key" => string.field (·.key) ({ · with key := · })
    | "select" => string.field (·.label) ({ · with label := · })
    | "order" => string.field (·.order) ({ · with order := · })
    | _ => none } fuel

/-- A step, which nests at most `depth` deep. -/
def step (fuel : Nat) : Nat → Target PlanStep
  | 0 => { type := "plan.Step", pairs := some fun _ _ ↦ stop }
  | depth + 1 => record {
    type := "plan.Step"
    strict := true
    field := fun
    | "table" => string.field (·.table) ({ · with table := · })
    | "direction" => string.field (·.direction) ({ · with direction := · })
    | "element" => string.field (·.element) ({ · with element := · })
    | "start" => (any fuel).field (·.start) ({ · with start := · })
    | "labels" => (list string "").field (·.labels) ({ · with labels := · })
    | "filters" => (list (filter fuel) {}).field (·.filters) ({ · with filters := · })
    | "order" => (list (order fuel) {}).field (·.orders) ({ · with orders := · })
    | "edge_vertex" => truth.field (·.edgeVertex) ({ · with edgeVertex := · })
    | "optional" => truth.field (·.isOptional) ({ · with isOptional := · })
    | "emit" => truth.field (·.emits) ({ · with emits := · })
    | "steps" => (list (step fuel depth) {}).field (·.steps) ({ · with steps := · })
    | _ => none } fuel

/-- A plan. -/
def plan (fuel : Nat) : Target Plan :=
  record {
    type := "plan.Plan"
    strict := true
    field := fun
    | "name" => string.field (·.name) ({ · with name := · })
    | "depth" => integer.field (·.depth) ({ · with depth := · })
    | "roots" => (list (step fuel fuel) {}).field (·.roots) ({ · with roots := · })
    | _ => none } fuel

/-- The plan of a document. -/
def ofDocument (fuel : Nat) (nodes : Array Yaml.Node) (root : Yaml.Node) :
    Except PlanError Plan := do
  let p ← (DecodeM.run (plan fuel) {} nodes root).mapError .yaml
  if p.roots.isEmpty then .error (.noRoots p.name) else .ok p

end PlanFile

/-- The plans of a text. -/
def Plan.parse (text : String) : Except PlanError (List Plan) := do
  let d := Yaml.Documents.ofText text
  let plans ← d.roots.mapM (PlanFile.ofDocument (Yaml.nestingBound text) d.nodes)
  if !d.complete then .error (.yaml .malformed)
  else if plans.isEmpty then .error .noPlan
  else .ok plans

/-! ## Notebooks -/

namespace Notebook

/-- The words that mark a fenced block as a plan. -/
def fenceWords : List String := ["sqlgraph", "plan"]

/-- Whether the text after an opening fence marks a plan. -/
def isPlanFence (info : String) : Bool :=
  let word := String.ofList (info.toList.takeWhile (· ≠ ' '))
  fenceWords.any fun w ↦ eqFold w word

/-- What is known at a point of a notebook. -/
structure State where
  /-- The closest heading above. -/
  heading : String := ""
  /-- The slugs of headings that have named plans, with repeats. -/
  used : List String := []
  /-- The plans so far. -/
  plans : List Plan := []

/-- The name of the next plan under a heading, when the slugs in `used` have been taken. -/
def nextName (used : List String) (slug : String) : String :=
  let n := used.count slug + 1
  if n > 1 then slug ++ "-" ++ toString n else slug

/-- Adds a plan, which is named if it has no name and there is a heading. -/
def State.addPlan (s : State) (p : Plan) : State :=
  if p.name = "" && s.heading ≠ "" then
    let slug := slug s.heading
    { s with
      used := slug :: s.used
      plans := s.plans ++ [{ p with name := nextName s.used slug }] }
  else { s with plans := s.plans ++ [p] }

/-- Takes a heading. -/
def State.addHeading (definitions : List Markdown.Definition) (s : State)
    (lines : List Markdown.Line) : State :=
  { s with heading := trimBlanks (Markdown.outerText (Markdown.inlines { definitions } lines)) }

/-- Takes a fenced block. -/
def State.addFence (s : State) (info : String) (lines : List String) : Except PlanError State :=
  if isPlanFence info then do
    let plans ← Plan.parse (String.join lines)
    .ok (plans.foldl State.addPlan s)
  else .ok s

mutual

/-- Takes a block of the document and the blocks inside it. -/
def State.addBlock (definitions : List Markdown.Definition) (s : State) :
    Markdown.Block → Except PlanError State
  | .heading _ lines => .ok (s.addHeading definitions lines)
  | .fence info lines => s.addFence info lines
  | .quote body | .list _ body | .item body => s.addBlocks definitions body
  | .paragraph _ | .other | .nothing => .ok s

/-- Takes blocks one after the other. -/
def State.addBlocks (definitions : List Markdown.Definition) (s : State) :
    List Markdown.Block → Except PlanError State
  | [] => .ok s
  | b :: bs => do (← s.addBlock definitions b).addBlocks definitions bs

end

end Notebook

/-- The plans of a notebook. -/
def Plan.parseNotebook (text : String) : Except PlanError (List Plan) := do
  let doc := Markdown.read text
  let s ← Notebook.State.addBlocks doc.definitions {} doc.blocks
  if s.plans.isEmpty then .error .noBlock else .ok s.plans

end PathQuery
