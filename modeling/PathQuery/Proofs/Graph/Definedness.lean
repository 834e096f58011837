import PathQuery.Proofs.Graph.Naming

/-!
# Schemas without a definition

A text may list a schema and say nothing about it, as it may list a label. Indexing passes over what
is missing, but a declaration adds to the definition of its schema and finds none there. So the
schemas that must not be added to are settled when the text is read: a declaration defines the
schema that it lists, and leaves those alone that are listed without a definition. No other
declaration breaks down, whatever labels lack a definition, and one that is accepted has a table.
-/

namespace PathQuery

namespace Topology

variable {t : Topology} {c : Declaration} {calls : List Declaration}

/-! ## Where a topology starts -/

/-- What declarations are added to: a text that has been read, or nothing. The schemas that are
listed without a definition are named. -/
inductive Origin : List String → Topology → Prop
  | parsed {text : String} {contents : TopologyFile.Contents} {t : Topology}
      (read : TopologyFile.contents text = .ok contents) (accepted : Topology.parse text = .ok t) :
      Origin ((contents.declarations.filter (·.2.isNone)).map Prod.fst) t
  | undeclared (publicSchema : String) : Origin [] { publicSchema }

theorem Origin.reachable {hollow : List String} (h : Origin hollow t) : t.Reachable := by
  cases h with
  | parsed _ accepted => exact .parsed accepted
  | undeclared publicSchema => exact .undeclared publicSchema

/-- What is on record of a text is what it says. -/
theorem declarations_of_parse {text : String} {contents : TopologyFile.Contents}
    (read : TopologyFile.contents text = .ok contents) (h : Topology.parse text = .ok t) :
    t.declarations = contents.declarations := by
  obtain ⟨contents', read', h⟩ := bind_eq_ok_iff.mp h
  obtain ⟨tables, -, h⟩ := bind_eq_ok_iff.mp (mapError_eq_ok_iff.mp h)
  obtain rfl := Except.ok.inj (read.symm.trans (mapError_eq_ok_iff.mp read'))
  rw [← Except.ok.inj h]

theorem Origin.undefined_iff {hollow : List String} (h : Origin hollow t) {schema : String} :
    t.Undefined schema ↔ schema ∈ hollow := by
  cases h with
  | parsed read accepted =>
    have hunique := TopologyFile.unique_declarations read
    rw [Undefined, declarations_of_parse read accepted, lookupKey_eq_some_iff hunique.schemas]
    simp
  | undeclared => simp [Undefined, lookupKey]

/-! ## Declarations one after the other -/

theorem verdict_eq_undefinedSchema_iff :
    t.verdict c = .undefinedSchema ↔ t.Undefined c.schema := by
  constructor
  · exact fun h ↦ (after_of_undefinedSchema h).1
  · intro h
    rw [verdict, perform_of_undefined h]

/-- Which schemas have no definition does not change on the way. -/
theorem verdict_performAll_eq_undefinedSchema_iff :
    (t.performAll calls).verdict c = .undefinedSchema ↔ t.Undefined c.schema :=
  verdict_eq_undefinedSchema_iff.trans undefined_performAll

theorem undefinedSchema_mem_verdicts_iff :
    .undefinedSchema ∈ t.verdicts calls ↔ ∃ c ∈ calls, t.Undefined c.schema := by
  induction calls using List.reverseRecOn with
  | nil => simp [verdicts]
  | append_singleton calls c ih =>
    rw [verdicts_concat, List.mem_append, ih, List.mem_singleton, eq_comm,
      verdict_performAll_eq_undefinedSchema_iff]
    simp [or_and_right, exists_or]

theorem Reachable.performAll (h : t.Reachable) (calls : List Declaration) :
    (t.performAll calls).Reachable := by
  induction calls generalizing t with
  | nil => exact h
  | cons c calls ih => exact ih (h.declared c)

end Topology

/-- The table of the label that is declared. -/
def Declaration.table : Declaration → Table
  | .vertex schema label _ => .vertex schema label
  | .edge schema label .. => .edge schema label

theorem Declaration.fst_meaning (c : Declaration) : c.meaning.1 = c.table := by
  cases c <;> rfl

namespace Topology

variable {t : Topology} {c : Declaration} {calls : List Declaration}

/-- What is accepted is indexed with all that is on record, itself included. -/
theorem Reachable.table_mem_of_accepted (h : t.Reachable) (hc : t.verdict c = .accepted) :
    c.table ∈ (t.after c).tableList := by
  obtain ⟨-, -, -, hindex⟩ := after_of_accepted hc
  have hmeaning := (mem_meanings_record h.unique.1 c).mpr (.inl rfl)
  obtain ⟨info, hinfo, -⟩ :=
    (Declarations.mem_meanings_iff (unique_record h.unique.1 c) hindex).mp hmeaning
  exact mem_tableList_iff.mpr ⟨info, c.fst_meaning ▸ hinfo⟩

/-- **Declarations break down on schemas without a definition only.** From whatever a topology
starts and whatever has been declared since, a declaration finds no definition to add to exactly if
its schema has been listed without one at the start; so a run of declarations comes through exactly
if it leaves these schemas alone, and any run does when there are none. The table of a declaration
that is accepted is listed. -/
theorem Origin.declares_iff_defined {hollow : List String} (h : Origin hollow t) :
    (∀ calls c, (t.performAll calls).verdict c = .undefinedSchema ↔ c.schema ∈ hollow) ∧
    (∀ calls, .undefinedSchema ∉ t.verdicts calls ↔ ∀ c ∈ calls, c.schema ∉ hollow) ∧
    ∀ calls c, (t.performAll calls).verdict c = .accepted →
      c.table ∈ (t.performAll (calls ++ [c])).tableList := by
  refine ⟨fun calls c ↦ ?_, fun calls ↦ ?_, fun calls c hc ↦ ?_⟩
  · rw [verdict_performAll_eq_undefinedSchema_iff, h.undefined_iff]
  · rw [undefinedSchema_mem_verdicts_iff]
    simp [h.undefined_iff]
  · rw [performAll_concat]
    exact (h.reachable.performAll calls).table_mem_of_accepted hc

/-! ### A schema that is only listed -/

/-- A text that lists a schema and says nothing about it. -/
def listedSchema : String := "schemas: {s: }"

/-- The topology of the text. -/
def listedTopology : Topology := ((Topology.parse listedSchema).toOption).getD default

theorem origin_listedTopology : Origin ["s"] listedTopology := by
  have hnames : (TopologyFile.contents listedSchema).toOption.map (fun contents ↦
      (contents.declarations.filter (·.2.isNone)).map Prod.fst) = some ["s"] := by decide +kernel
  have haccepted : (Topology.parse listedSchema).isOk := by decide +kernel
  cases hread : TopologyFile.contents listedSchema with
  | error e =>
    rw [hread] at hnames
    cases hnames
  | ok contents =>
    rw [hread] at hnames
    rw [← Option.some.inj hnames, listedTopology]
    refine .parsed hread ?_
    cases hparse : Topology.parse listedSchema with
    | error e =>
      rw [hparse] at haccepted
      cases haccepted
    | ok t => rfl

/-- No vertex label can be declared in the schema of the text, in contrast to other schemas. -/
theorem declares_listedSchema : Origin ["s"] listedTopology ∧
    (listedTopology.performAll []).verdict (.vertex "s" "v" []) = .undefinedSchema ∧
    .undefinedSchema ∈ listedTopology.verdicts [.vertex "r" "v" [], .vertex "s" "v" []] ∧
    (listedTopology.performAll []).verdict (.vertex "r" "v" []) = .accepted ∧
    ⟨"r", "V_v"⟩ ∈ (listedTopology.performAll [.vertex "r" "v" []]).tableList := by
  obtain ⟨hcalls, hruns, htables⟩ := origin_listedTopology.declares_iff_defined
  have haccepted : (listedTopology.performAll []).verdict (.vertex "r" "v" []) = .accepted := by
    decide +kernel
  refine ⟨origin_listedTopology, (hcalls _ _).mpr (by decide), ?_, haccepted, ?_⟩
  · exact not_not.mp ((hruns _).not.mpr (by decide))
  · exact htables _ _ haccepted

end Topology

end PathQuery
