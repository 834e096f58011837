import PathQuery.Command.Program
import PathQuery.Proofs.Command.Run
import PathQuery.Proofs.Compile.Run
import PathQuery.Proofs.Text.Glyphs
import PathQuery.Proofs.Value.Writable

/-!
# Documents for scripts

A script that asks for a document is told in one whether the command succeeded. Whatever goes wrong
while a command is carried out, the document tells it. But the document of an answer is written only
after the command has succeeded, and an answer may hold values without a place in a document: the
operands of statements, and the properties that are found. Then nothing is written, and the run ends
as if all were well.
-/

namespace PathQuery.Command

/-! ## Outcomes -/

/-- Nothing but one document is written to the standard output. It tells that the command succeeded
exactly if the exit status is zero, and a failure that it tells is not told again. -/
def Outcome.IsEnveloped (o : Outcome) : Prop :=
  ∃ ok members, o.stdout = printDocument (.object (("ok", .bool ok) :: members)) ∧
    (ok = true ↔ o.status = 0) ∧ (ok = false → o.errorLine = ⟨[]⟩)

/-- A document that is written is not empty. -/
theorem printDocument_ne_empty (j : Json) : printDocument j ≠ ⟨[]⟩ := by
  intro h
  have hbytes := congrArg Text.bytes h
  rw [printDocument, Text.ofString_append, Text.bytes_append, List.append_eq_nil_iff,
    Text.bytes_ofString_eq_flatMap "\n"] at hbytes
  exact absurd hbytes.2 (by decide)

theorem Failure.isEnveloped_outcome (f : Failure) (notes : Text) :
    (f.outcome true notes).IsEnveloped :=
  ⟨false, _, rfl, iff_of_false Bool.false_ne_true Nat.one_ne_zero, fun _ ↦ rfl⟩

theorem Answer.isOk_envelope (a : Answer) : a.envelope.isOk = a.data.isOk := isOk_bind_pure _ _

/-- Without a document nothing tells of an answer, and the exit status is that of success. -/
theorem Answer.outcome_of_not_isOk {a : Answer} (h : a.data.isOk = false) (notes : Text) :
    (a.outcome true notes).stdout = ⟨[]⟩ ∧ (a.outcome true notes).status = 0 ∧
      (a.outcome true notes).errorLine = ⟨[]⟩ := by
  rw [← a.isOk_envelope] at h
  rw [outcome, if_pos rfl]
  cases henvelope : a.envelope with
  | ok j =>
    rw [henvelope] at h
    cases h
  | error e => exact ⟨rfl, rfl, rfl⟩

theorem Answer.isEnveloped_outcome_iff (a : Answer) (notes : Text) :
    (a.outcome true notes).IsEnveloped ↔ a.data.isOk := by
  cases hdata : a.data with
  | error e =>
    refine iff_of_false ?_ Bool.false_ne_true
    rintro ⟨ok, members, hstdout, -⟩
    have hempty := (a.outcome_of_not_isOk (by rw [hdata]; rfl) notes).1
    exact printDocument_ne_empty _ (hstdout.symm.trans hempty)
  | ok j =>
    refine iff_of_true ?_ rfl
    rw [outcome, if_pos rfl, envelope, hdata]
    exact ⟨true, _, rfl, iff_of_true rfl rfl, nofun⟩

/-! ## What an answer tells -/

/-- The values of an element. -/
def elementValues (e : Element) : List Value := e.properties.map (·.2)

/-- The values of a result. -/
def resultValues (r : Result) : List Value :=
  elementValues r.element ++ r.labeled.flatMap fun l ↦ l.2.flatMap elementValues

theorem isOk_listedPlan (p : ListedPlan) :
    p.toJson.isOk = (p.statements.flatMap (·.operands)).all Value.isWritable := by
  have hstatement (s : ListedStatement) : s.toJson.isOk = s.operands.all Value.isWritable := by
    rw [ListedStatement.toJson, isOk_bind_pure, Value.isOk_listToJson, Value.areWritable_eq_all]
  rw [ListedPlan.toJson, isOk_bind_pure, isOk_mapM, List.all_flatMap]
  simp only [hstatement]

theorem isOk_elementJson (e : Element) :
    (elementJson e).isOk = (elementValues e).all Value.isWritable := by
  have hsorted := List.mergeSort_perm e.properties fun a b ↦ decide (a.1 ≤ b.1)
  rw [elementJson, isOk_bind_pure, Value.isOk_fieldsToJson, Value.fieldsAreWritable_eq_all,
    hsorted.all_eq, elementValues, List.all_map]
  rfl

theorem isOk_resultJson (r : Result) :
    (resultJson r).isOk = (resultValues r).all Value.isWritable := by
  have hsorted := List.mergeSort_perm r.labeled fun a b ↦ decide (a.1 ≤ b.1)
  have hlabel (l : String × List Element) :
      (labeledJson l.1 l.2).isOk = (l.2.flatMap elementValues).all Value.isWritable := by
    rw [labeledJson, isOk_bind_pure, isOk_mapM, List.all_flatMap]
    simp only [isOk_elementJson]
  rw [resultJson, isOk_bind fun _ _ ↦ isOk_bind_pure _ _, isOk_elementJson, isOk_mapM,
    hsorted.all_eq, resultValues, List.all_append, List.all_flatMap]
  simp only [hlabel]

theorem isOk_planResults (p : PlanResults) :
    p.toJson.isOk = (p.results.flatMap resultValues).all Value.isWritable := by
  rw [PlanResults.toJson, isOk_bind_pure, isOk_mapM, List.all_flatMap]
  simp only [isOk_resultJson]

variable {s : Setting} {w : Words} {scene scene' : Scene} {a : Answer}

/-- The plans that a command compiles. -/
def compiledPlans (s : Setting) (w : Words) : CommandM (List CompiledPlan) := do
  let c ← loadContext s w
  let e ← loadEnvironment c.config
  let plans ← loadPlans w.arguments
  compilePlans c e (w.modes "mode") plans

/-- The results of the plans that a command runs. -/
def foundResults (s : Setting) (w : Words) : CommandM (List PlanResults) := do
  let c ← loadContext s w
  let e ← loadEnvironment c.config
  let plans ← loadPlans w.arguments
  let db ← loadDatabase s c e
  return (← runPlans c e w db plans).map (·.1)

/-- The values that the document of a command tells: the operands of the statements that are
compiled, or the properties that are found. Other documents tell none. -/
def toldValues (s : Setting) (w : Words) : Verb → CommandM (List Value)
  | .compile => do
    return (← compiledPlans s w).flatMap fun p ↦ p.statements.flatMap (·.operands)
  | .run => do return (← foundResults s w).flatMap fun p ↦ p.results.flatMap resultValues
  | _ => return []

/-- Whether or not the script goes to a file, the document tells the operands of its statements. -/
theorem isOk_data_compile (h : (perform s w .compile).Yields scene a scene') :
    ∃ values scene₁, (toldValues s w .compile).Yields scene values scene₁ ∧
      a.data.isOk = values.all Value.isWritable := by
  obtain ⟨c, scene₁, hcontext, h⟩ := CommandM.yields_bind_iff.mp h
  obtain ⟨e, scene₂, henvironment, h⟩ := CommandM.yields_bind_iff.mp h
  obtain ⟨plans, scene₃, hplans, h⟩ := CommandM.yields_bind_iff.mp h
  obtain ⟨compiled, scene₄, hcompiled, h⟩ := CommandM.yields_bind_iff.mp h
  refine ⟨_, scene₄, CommandM.yields_bind_iff.mpr ⟨compiled, scene₄, ?_, rfl⟩, ?_⟩
  · exact CommandM.yields_bind_iff.mpr ⟨c, scene₁, hcontext, CommandM.yields_bind_iff.mpr
      ⟨e, scene₂, henvironment, CommandM.yields_bind_iff.mpr ⟨plans, scene₃, hplans, hcompiled⟩⟩⟩
  · have hdata (out : String) : (do
        let plans ← (compiled.map ListedPlan.ofCompiled).mapM ListedPlan.toJson
        return Json.object (memberIf (out ≠ "") "out" (.string out) ++
          [("plans", arrayOrNull plans)]) : Except UnwritableValue Json).isOk =
        (compiled.flatMap fun p ↦ p.statements.flatMap (·.operands)).all Value.isWritable := by
      rw [isOk_bind_pure, isOk_mapM, List.all_map, List.all_flatMap]
      simp only [Function.comp_def, isOk_listedPlan, ListedPlan.ofCompiled, List.flatMap_map,
        ListedStatement.ofStatement]
    dsimp only at h
    by_cases hout : w.text "out" ≠ ""
    · rw [if_pos hout] at h
      obtain ⟨_, _, -, h⟩ := CommandM.yields_bind_iff.mp h
      obtain ⟨_, _, -, h⟩ := CommandM.yields_bind_iff.mp h
      obtain ⟨rfl, -⟩ := CommandM.yields_pure_iff.mp h
      exact hdata _
    · rw [if_neg hout] at h
      obtain ⟨rfl, -⟩ := CommandM.yields_pure_iff.mp h
      exact hdata _

theorem isOk_data_run (h : (perform s w .run).Yields scene a scene') :
    ∃ values scene₁, (toldValues s w .run).Yields scene values scene₁ ∧
      a.data.isOk = values.all Value.isWritable := by
  obtain ⟨c, scene₁, hcontext, h⟩ := CommandM.yields_bind_iff.mp h
  obtain ⟨e, scene₂, henvironment, h⟩ := CommandM.yields_bind_iff.mp h
  obtain ⟨plans, scene₃, hplans, h⟩ := CommandM.yields_bind_iff.mp h
  obtain ⟨db, scene₄, hdb, h⟩ := CommandM.yields_bind_iff.mp h
  obtain ⟨found, scene₅, hfound, h⟩ := CommandM.yields_bind_iff.mp h
  obtain ⟨rfl, -⟩ := CommandM.yields_pure_iff.mp h
  have hresults : (foundResults s w).Yields scene (found.map (·.1)) scene₅ :=
    CommandM.yields_bind_iff.mpr ⟨c, scene₁, hcontext, CommandM.yields_bind_iff.mpr
      ⟨e, scene₂, henvironment, CommandM.yields_bind_iff.mpr ⟨plans, scene₃, hplans,
        CommandM.yields_bind_iff.mpr ⟨db, scene₄, hdb, CommandM.yields_bind_iff.mpr
          ⟨found, scene₅, hfound, rfl⟩⟩⟩⟩⟩
  refine ⟨_, scene₅, CommandM.yields_bind_iff.mpr ⟨_, scene₅, hresults, rfl⟩, ?_⟩
  dsimp only
  rw [isOk_bind_pure, isOk_mapM, List.all_flatMap]
  simp only [isOk_planResults]

/-- A command that answers a script that asks for a document. -/
def Verb.answersScripts : Verb → Bool
  | .program | .help | .completion | .completionFor _ => false
  | _ => true

theorem isOk_data_saveConfigFile (f : ConfigFile) (keys : List String) (verb : String) :
    (saveConfigFile f keys verb).Ensures (·.data.isOk) :=
  .bind fun _ ↦ .bind fun _ ↦ .pure rfl

/-- All other documents are made of texts and counts. -/
theorem isOk_data_of_ne {v : Verb} (hcompile : v ≠ .compile) (hrun : v ≠ .run)
    (hanswers : v.answersScripts) : (perform s w v).Ensures (·.data.isOk) := by
  cases v with
  | compile => exact absurd rfl hcompile
  | run => exact absurd rfl hrun
  | program | help | completion | completionFor => cases hanswers
  | explain => exact .bind fun _ ↦ .bind fun _ ↦ .bind fun _ ↦ .bind fun _ ↦ .pure rfl
  | tree => exact .bind fun _ ↦ .bind fun _ ↦ .bind fun _ ↦ .bind fun _ ↦ .pure rfl
  | schema => exact .bind fun _ ↦ .bind fun _ ↦ .pure rfl
  | schemaDdl => exact .bind fun _ ↦ .bind fun _ ↦ .pure rfl
  | version => exact .pure rfl
  | config => exact .bind fun _ ↦ .pure rfl
  | configShow => exact .bind fun _ ↦ .pure rfl
  | configInit =>
    refine .bind fun fs ↦ ?_
    dsimp only
    split
    · exact .guarded fun _ ↦ .bind fun _ ↦ .bind fun _ ↦ .pure rfl
    · exact .bind fun _ ↦ .bind fun _ ↦ .pure rfl
  | configSet =>
    refine .bind fun f ↦ .bind fun changed ↦ ?_
    obtain ⟨config, keys⟩ := changed
    exact .guarded fun _ ↦ .bind fun _ ↦ isOk_data_saveConfigFile _ keys "changed"
  | configUnset =>
    refine .bind fun f ↦ .guarded fun _ ↦ ?_
    exact .guarded fun _ ↦ isOk_data_saveConfigFile _ _ "cleared"

/-- **Exactly the answers are written whose values have a place in a document.** -/
theorem isOk_data_iff {v : Verb} (hanswers : v.answersScripts)
    (h : (perform s w v).Yields scene a scene') :
    ∃ values scene₁, (toldValues s w v).Yields scene values scene₁ ∧
      a.data.isOk = values.all Value.isWritable := by
  by_cases hcompile : v = .compile
  · subst hcompile
    exact isOk_data_compile h
  by_cases hrun : v = .run
  · subst hrun
    exact isOk_data_run h
  have htold : toldValues s w v = pure [] := by
    cases v with
    | compile => exact absurd rfl hcompile
    | run => exact absurd rfl hrun
    | _ => rfl
  exact ⟨[], scene, by rw [htold]; rfl, isOk_data_of_ne hcompile hrun hanswers h⟩

/-! ## Runs of the program -/

/-- Words that can be read do not ask what they can be completed to. -/
theorem runProgram_eq {words : List String} {v : Verb} (world : World)
    (hread : readRun words = .ok (v, w)) :
    runProgram s world words = runCommand s world words := by
  obtain ⟨⟨v', rest⟩, hfind, -⟩ := bind_eq_ok_iff.mp hread
  rw [runProgram]
  cases hnext : nextCommand? Verb.program.flags words with
  | none => rfl
  | some found =>
    obtain ⟨word, behind⟩ := found
    have hword : completionRequest? word = none := by
      cases hchild : Verb.program.children.find? (·.name == word) with
      | none =>
        have hdescend : Verb.descend Verb.treeDepth .program words = (.program, words) := by
          rw [Verb.treeDepth, Verb.descend, hnext]
          dsimp only
          rw [hchild]
        rw [Verb.find, hdescend] at hfind
        dsimp only at hfind
        rw [hnext] at hfind
        cases hfind
      | some child =>
        have hnames : ∀ c ∈ Verb.program.children, completionRequest? c.name = none := by decide
        have hfound := List.find?_some hchild
        have hname : child.name = word := eq_of_beq hfound
        rw [← hname]
        exact hnames child (List.mem_of_find?_eq_some hchild)
    dsimp only
    rw [hword]

/-- Whether a text begins with something else than a brace. -/
def beginsPlain (s : String) : Bool := s.toList.head?.any (· ≠ '\x7b')

theorem beginsPlain_append {s : String} (h : beginsPlain s) (s' : String) :
    beginsPlain (s ++ s') := by
  rw [beginsPlain] at h ⊢
  rw [String.toList_append]
  cases hs : s.toList with
  | nil => simp [hs] at h
  | cons c cs => simpa [hs] using h

theorem beginsPlain_ofList {c : Char} (h : c ≠ '\x7b') (cs : List Char) :
    beginsPlain (String.ofList (c :: cs)) := by
  simp [beginsPlain, h]

theorem beginsPlain_helpText {v : Verb} (hanswers : v.answersScripts) : beginsPlain v.helpText := by
  refine beginsPlain_append (beginsPlain_append ?_ _) _
  cases v with
  | program | help | completion | completionFor => cases hanswers
  | _ =>
    -- the texts are too long for their equations, and only the first line of each is looked at
    delta Verb.details
    dsimp only
    repeat with_reducible refine beginsPlain_append ?_ _
    exact beginsPlain_ofList (by decide) _

theorem not_beginsPlain_document (member : String × Json) (members : List (String × Json)) :
    beginsPlain (Json.pretty 0 (.object (member :: members)) ++ "\n") = false := by
  rw [beginsPlain, Json.pretty]
  · simp only [String.toList_append]
    rfl
  · nofun

/-- The help on a command is no document. -/
theorem not_isEnveloped_help {v : Verb} (hanswers : v.answersScripts) :
    ¬Outcome.IsEnveloped { stdout := Text.ofString v.helpText } := by
  rintro ⟨ok, members, hstdout, -⟩
  have hplain := beginsPlain_helpText hanswers
  rw [Text.ofString_injective hstdout, not_beginsPlain_document] at hplain
  cases hplain

/-- A command that fails comes to the outcome of its failure. -/
theorem carryOut_of_error {world : World} {v : Verb} {failure : Failure}
    (h : (perform s w v).runOn { world } = (.error failure, scene)) :
    carryOut s world w v = (failure.outcome (w.isOn "json") scene.notes, scene.world) := by
  rw [carryOut, show (perform s w v).run { world } = (perform s w v).runOn { world } from rfl, h]

/-- A command that succeeds comes to the outcome of its answer. -/
theorem carryOut_of_yields {world : World} {v : Verb}
    (h : (perform s w v).Yields { world } a scene) :
    carryOut s world w v = (a.outcome (w.isOn "json") scene.notes, scene.world) := by
  rw [carryOut, show (perform s w v).run { world } = (perform s w v).runOn { world } from rfl,
    show (perform s w v).runOn { world } = _ from h]

theorem runProgram_help {words : List String} {v : Verb} (world : World)
    (hread : readRun words = .ok (v, w)) (hhelp : w.isOn "help") :
    runProgram s world words = ({ stdout := Text.ofString v.helpText }, world) := by
  rw [runProgram_eq world hread, runCommand, hread]
  dsimp only
  rw [hhelp, Bool.true_or, if_pos rfl]

theorem runProgram_carryOut {words : List String} {v : Verb} (world : World)
    (hread : readRun words = .ok (v, w)) (hanswers : v.answersScripts)
    (harguments : v.refusal? w.arguments = none) (hhelp : w.isOn "help" = false) :
    runProgram s world words = carryOut s world w v := by
  have hrunnable : v.isRunnable := by
    cases v <;> first | rfl | cases hanswers
  have hv : v ≠ .help := by
    rintro rfl
    cases hanswers
  rw [runProgram_eq world hread, runCommand, hread]
  dsimp only
  rw [hhelp, hrunnable, harguments]
  exact if_neg hv

/-- **A run tells a script what it came to, unless it found what no document can hold.** A run that
asks for a document writes exactly one, which agrees with the exit status and after which no failure
is told again, if and only if it does not ask for help, and either the command fails or all values
that it is to tell have a place in a document. Otherwise nothing is written to the standard output
and the exit status is that of success; this happens to compiled statements and to results only. -/
theorem runProgram_isEnveloped_iff (s : Setting) (world : World) {words : List String} {v : Verb}
    {w : Words} (hread : readRun words = .ok (v, w)) (hanswers : v.answersScripts)
    (harguments : v.refusal? w.arguments = none) (hjson : w.isOn "json") :
    ((runProgram s world words).1.IsEnveloped ↔ w.isOn "help" = false ∧
      ((∃ failure scene, (perform s w v).runOn { world } = (.error failure, scene)) ∨
        ∃ answer scene values scene', (perform s w v).Yields { world } answer scene ∧
          (toldValues s w v).Yields { world } values scene' ∧ values.all Value.isWritable)) ∧
    (w.isOn "help" = false → ¬(runProgram s world words).1.IsEnveloped →
      (v = .compile ∨ v = .run) ∧ (runProgram s world words).1.stdout = ⟨[]⟩ ∧
        (runProgram s world words).1.status = 0 ∧
        (runProgram s world words).1.errorLine = ⟨[]⟩) := by
  cases hhelp : w.isOn "help" with
  | true =>
    rw [runProgram_help world hread hhelp]
    exact ⟨iff_of_false (not_isEnveloped_help hanswers) nofun, nofun⟩
  | false =>
    rw [runProgram_carryOut world hread hanswers harguments hhelp]
    rcases hresult : (perform s w v).runOn { world } with ⟨failure | answer, scene⟩
    · rw [carryOut_of_error hresult, hjson]
      have henveloped := failure.isEnveloped_outcome scene.notes
      exact ⟨iff_of_true henveloped ⟨rfl, .inl ⟨failure, scene, rfl⟩⟩,
        fun _ huntold ↦ absurd henveloped huntold⟩
    · rw [carryOut_of_yields hresult, hjson, answer.isEnveloped_outcome_iff]
      obtain ⟨values, scene₁, htold, hdata⟩ := isOk_data_iff hanswers hresult
      constructor
      · rw [hdata]
        constructor
        · intro hwritable
          exact ⟨rfl, .inr ⟨answer, scene, values, scene₁, hresult, htold, hwritable⟩⟩
        · rintro ⟨-, ⟨failure, scene', hfailure⟩ | ⟨_, _, values', scene₁', -, htold', hwritable⟩⟩
          · cases hfailure
          · -- the told values are the same in both runs
            cases htold.symm.trans htold'
            exact hwritable
      · intro _ hdata
        refine ⟨?_, answer.outcome_of_not_isOk (Bool.eq_false_iff.mpr hdata) scene.notes⟩
        by_contra hother
        rw [not_or] at hother
        exact hdata (isOk_data_of_ne hother.1 hother.2 hanswers hresult)

/-- A topology of one table, and a plan that compares its column with infinity. -/
def infiniteWorld : World where
  files := { entries := [
    (["topology.yaml"], .file (Text.ofString ("public_schema: s\nschemas:\n  s:\n    vertices:\n" ++
      "      P:\n        properties: [\x7bname: a, type: double\x7d]\n")) fileMode),
    (["p.yaml"], .file (Text.ofString ("roots:\n  - table: P\n" ++
      "    filters: [\x7bkey: a, predicate: lt, value: .inf\x7d]\n")) fileMode)] }

/-- The words that compile the plan for a script. -/
def infiniteWords : List String := ["compile", "p.yaml", "--json"]

/-- The plan compiles, and the script is told nothing. -/
theorem untold_infinity :
    readRun infiniteWords =
      .ok (.compile, { given := [("json", "true")], arguments := ["p.yaml"] }) ∧
    (¬∃ failure scene, (perform {} { given := [("json", "true")], arguments := ["p.yaml"] }
      .compile).runOn { world := infiniteWorld } = (.error failure, scene)) ∧
    ¬(runProgram {} infiniteWorld infiniteWords).1.IsEnveloped ∧
    (runProgram {} infiniteWorld infiniteWords).1.stdout = ⟨[]⟩ ∧
    (runProgram {} infiniteWorld infiniteWords).1.status = 0 ∧
    (runProgram {} infiniteWorld infiniteWords).1.errorLine = ⟨[]⟩ := by
  have hread : readRun infiniteWords =
      .ok (.compile, { given := [("json", "true")], arguments := ["p.yaml"] }) := by decide +kernel
  have hempty : (runProgram {} infiniteWorld infiniteWords).1.stdout = ⟨[]⟩ := by decide +kernel
  have huntold : ¬(runProgram {} infiniteWorld infiniteWords).1.IsEnveloped := by
    rintro ⟨ok, members, hstdout, -⟩
    exact printDocument_ne_empty _ (hstdout.symm.trans hempty)
  have hhelp : Words.isOn { given := [("json", "true")], arguments := ["p.yaml"] } "help" = false :=
    by decide +kernel
  obtain ⟨henveloped, hsilent⟩ := runProgram_isEnveloped_iff {} infiniteWorld hread rfl rfl
    (by decide +kernel)
  refine ⟨hread, fun hfailure ↦ huntold (henveloped.mpr ⟨hhelp, .inl hfailure⟩), huntold, ?_⟩
  exact (hsilent hhelp huntold).2

end PathQuery.Command
