import PathQuery.Compile.Tree
import PathQuery.Plan.Basic

/-!
# Compiling plans

The trees of a plan are compiled in order into one registry, which the plan has to itself. Plans
are compiled one after the other: either every plan compiles, or the first that does not is named.
-/

namespace PathQuery

/-- Compiles trees in order, up to the first that does not compile. Answers the statements of the
trees before it. -/
def compileTrees (c : Compiler) (mode : Option Mode) :
    List Tree → CompileState → (List Statement × Option QueryError) × CompileState
  | [], s => (([], none), s)
  | t :: ts, s =>
    match (CompileM.chosenStatements c t mode).runOn s with
    | (.error e, s) => (([], some e), s)
    | (.ok first, s) =>
      let ((rest, fault), s) := compileTrees c mode ts s
      ((first ++ rest, fault), s)

/-- A plan with its trees and what they compile to. -/
structure CompiledPlan where
  /-- The plan. -/
  plan : Plan
  /-- Its trees. -/
  trees : List Tree
  /-- Their statements. -/
  statements : List Statement
  /-- The aliases the statements were given. -/
  registry : Registry
  deriving Inhabited

/-- Why a plan does not compile. -/
inductive PlanFault where
  /-- It cannot be built. -/
  | build (e : BuildError)
  /-- A tree of it does not compile. -/
  | query (e : QueryError)

/-- The wording of the fault. -/
def PlanFault.message : PlanFault → String
  | .build e => e.message
  | .query e => e.message

namespace Plan

/-- Builds and compiles a plan. -/
def compile (p : Plan) (c : Compiler) (t : Topology) (mode : Option Mode) (s : CompileState) :
    Except PlanFault CompiledPlan × CompileState :=
  match p.build t with
  | .error e => (.error (.build e), s)
  | .ok trees =>
    match compileTrees c mode trees { s with registry := {} } with
    | ((_, some e), s) => (.error (.query e), s)
    | ((statements, none), s) => (.ok { plan := p, trees, statements, registry := s.registry }, s)

/-- Builds and compiles plans in order, up to the first that does not compile. -/
def compileAll (c : Compiler) (t : Topology) (mode : Option Mode) :
    List Plan → CompileState → Except (Plan × PlanFault) (List CompiledPlan) × CompileState
  | [], s => (.ok [], s)
  | p :: ps, s =>
    match p.compile c t mode s with
    | (.error e, s) => (.error (p, e), s)
    | (.ok first, s) =>
      match compileAll c t mode ps s with
      | (.error e, s) => (.error e, s)
      | (.ok rest, s) => (.ok (first :: rest), s)

end Plan

end PathQuery
