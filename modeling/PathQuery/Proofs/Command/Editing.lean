import PathQuery.Command.Program
import PathQuery.Proofs.Command.Run
import PathQuery.Proofs.Config.Saving

/-!
# Edited configurations

An edit loads the configuration, changes the fields that its flags name, and saves all of it. What
is loaded afterwards is the edited configuration, relocated: the path of the topology was told from
the directory of the file when it was loaded, has been saved as it was told, and is told from the
directory once more. So an edit leaves every field that it does not name as it was, except that
path, and that too exactly if it is steady.

`Edit.next` is what one edit makes of a loaded configuration. A run of edits is a fold of it, and
everything said about runs is said about the fold.
-/

namespace PathQuery

namespace Config

/-! ## The fields of a configuration -/

/-- The values of the fields by their keys, with the sections they stand in. -/
def fields (c : Config) : List (String × Toml.Scalar) :=
  c.topValues ++ c.sections.flatMap fun s ↦ s.values.map fun (key, v) ↦ (s.name ++ "." ++ key, v)

/-- Whether two configurations have the same values in all fields but those of some keys. -/
def SameBut (keys : List String) (c d : Config) : Prop :=
  ∀ key ∉ keys, c.fields.lookup key = d.fields.lookup key

variable {keys keys' : List String} {c d e : Config}

theorem lookup_fields_schema (c : Config) : c.fields.lookup "schema" = some (.string c.schema) := rfl

namespace SameBut

theorem refl (c : Config) : SameBut keys c c := fun _ _ ↦ rfl

theorem trans (h : SameBut keys c d) (h' : SameBut keys d e) : SameBut keys c e :=
  fun key hkey ↦ (h key hkey).trans (h' key hkey)

theorem mono (h : SameBut keys c d) (hsub : keys ⊆ keys') : SameBut keys' c d :=
  fun key hkey ↦ h key fun hmem ↦ hkey (hsub hmem)

/-- Where the path of the topology is not excepted, it is the same. -/
theorem schema_eq (h : SameBut keys c d) (hkeys : "schema" ∉ keys) : c.schema = d.schema := by
  have hsame := h "schema" hkeys
  rw [lookup_fields_schema, lookup_fields_schema] at hsame
  exact Toml.Scalar.string.inj (Option.some.inj hsame)

/-- Where the path of the topology is the same, it need not be excepted. -/
theorem of_schema_eq (h : SameBut ("schema" :: keys) c d) (hschema : c.schema = d.schema) :
    SameBut keys c d := by
  intro key hkey
  by_cases hk : key = "schema"
  · rw [hk, lookup_fields_schema, lookup_fields_schema, hschema]
  · exact h key (by rw [List.mem_cons, not_or]; exact ⟨hk, hkey⟩)

end SameBut

/-- Nothing is told of a configuration but its fields. -/
theorem sameBut_nil_iff : SameBut [] c d ↔ c = d := by
  refine ⟨fun h ↦ ?_, fun h ↦ h ▸ .refl c⟩
  have hall : (fields {}).map (fun entry ↦ c.fields.lookup entry.1) =
      (fields {}).map (fun entry ↦ d.fields.lookup entry.1) :=
    List.map_congr_left fun entry _ ↦ h entry.1 List.not_mem_nil
  cases c
  cases d
  simpa [fields, topValues, sections, List.lookup_cons] using hall

/-- Configurations whose fields of other keys are the same have the same values there. -/
theorem sameBut_of_filter_eq {key : String}
    (h : c.fields.filter (·.1 ≠ key) = d.fields.filter (·.1 ≠ key)) : SameBut [key] c d := by
  have hlookup {k : String} (hk : k ≠ key) (l : List (String × Toml.Scalar)) :
      l.lookup k = (l.filter (·.1 ≠ key)).lookup k := by
    induction l with
    | nil => rfl
    | cons entry l ih =>
      rw [List.lookup_cons, List.filter_cons]
      split_ifs with hentry
      · rw [List.lookup_cons, ih]
      · obtain rfl : entry.1 = key := by simpa using hentry
        rw [beq_false_of_ne hk, ih]
  intro k hk
  rw [List.mem_singleton] at hk
  rw [hlookup hk c.fields, h, ← hlookup hk d.fields]

theorem sameBut_relocate (path : String) (c : Config) : SameBut ["schema"] c (c.relocate path) :=
  sameBut_of_filter_eq rfl

end Config

namespace Command

open Config

/-- Giving a field a value changes no other field. -/
theorem sameBut_put {f : EditableField} (hf : f ∈ settableFields) (c : Config) (v : String) :
    SameBut [f.key] c (f.put c v) := by
  have hall : ∀ f ∈ settableFields,
      c.fields.filter (·.1 ≠ f.key) = (f.put c v).fields.filter (·.1 ≠ f.key) := by
    rw [settableFields]
    simp only [List.forall_mem_cons]
    exact ⟨rfl, rfl, rfl, rfl, rfl, rfl, by simp⟩
  exact sameBut_of_filter_eq (hall f hf)

/-! ## Edits -/

/-- A command that edits the configuration file, with its words. -/
inductive Edit where
  /-- Fields are set to what their flags say. -/
  | set (w : Words)
  /-- Fields whose flags are on are cleared. -/
  | unset (w : Words)

namespace Edit

/-- The words of an edit. -/
def words : Edit → Words
  | .set w => w
  | .unset w => w

/-- The command of an edit. -/
def verb : Edit → Verb
  | .set _ => .configSet
  | .unset _ => .configUnset

/-- The fields that the flags of an edit name, and what they are given. -/
def changes : Edit → List (EditableField × String)
  | .set w => (settableFields.filter (w.isGiven ·.flag)).map fun f ↦ (f, trimBlanks (w.text f.flag))
  | .unset w => (clearableFields.filter (w.isOn ·.flag)).map fun f ↦ (f, "")

/-- The keys of the fields that an edit names. -/
def keys (e : Edit) : List String := e.changes.map (·.1.key)

/-- A configuration with the fields changed that an edit names. -/
def apply (e : Edit) (c : Config) : Config := e.changes.foldl (fun c (f, v) ↦ f.put c v) c

/-- What is loaded after an edit of a configuration that was loaded. -/
def next (path : String) (c : Config) (e : Edit) : Config := (e.apply c).relocate path

/-- The world after an edit that the program accepts, that is, ends with status zero on. -/
def run (s : Setting) (world : World) (e : Edit) : Option World :=
  let (outcome, world) := carryOut s world e.words e.verb
  if outcome.status = 0 then some world else none

variable {e : Edit} {c : Config} {path : String}

theorem mem_settableFields {f : EditableField} {v : String} (h : (f, v) ∈ e.changes) :
    f ∈ settableFields := by
  cases e with
  | set w =>
    obtain ⟨f', hf, heq⟩ := List.mem_map.mp h
    cases heq
    exact (List.mem_filter.mp hf).1
  | unset w =>
    obtain ⟨f', hf, heq⟩ := List.mem_map.mp h
    cases heq
    exact (List.mem_filter.mp (List.mem_filter.mp hf).1).1

/-- An edit changes no field that it does not name. -/
theorem sameBut_apply (e : Edit) (c : Config) : SameBut e.keys c (e.apply c) := by
  refine List.foldlRecOn e.changes _ (.refl c) fun d hd change hchange ↦ hd.trans ?_
  have hkey : [change.1.key] ⊆ e.keys :=
    List.cons_subset.mpr ⟨List.mem_map_of_mem hchange, List.nil_subset _⟩
  exact (sameBut_put (mem_settableFields hchange) d change.2).mono hkey

theorem sameBut_next (path : String) (c : Config) (e : Edit) :
    SameBut ("schema" :: e.keys) c (e.next path c) :=
  ((sameBut_apply e c).mono (List.subset_cons_self _ _)).trans
    ((sameBut_relocate path (e.apply c)).mono (List.cons_subset_cons _ (List.nil_subset _)))

/-- An edit that does not name the path of the topology has it told once more. -/
theorem schema_next (h : "schema" ∉ e.keys) (path : String) (c : Config) :
    (e.next path c).schema = resolveSchema path c.schema := by
  rw [(sameBut_apply e c).schema_eq h]
  rfl

end Edit

/-! ## Accepted edits -/

section
variable {s : Setting} {w : Words} {scene scene' : Scene} {answer : Answer} {path : String}
  {c d : Config}

/-- Setting fields gives each field whose flag is given what the flag says. -/
theorem setFields_eq_ok {fields : List EditableField} {keys : List String}
    (h : setFields w c fields = .ok (d, keys)) :
    d = ((fields.filter (w.isGiven ·.flag)).map fun f ↦ (f, trimBlanks (w.text f.flag))).foldl
      (fun c (f, v) ↦ f.put c v) c := by
  induction fields generalizing c keys with
  | nil =>
    cases h
    rfl
  | cons f fields ih =>
    rw [setFields] at h
    rw [List.filter_cons]
    split_ifs at h ⊢ with hgiven
    · dsimp only at h
      split_ifs at h
      obtain ⟨⟨d', keys'⟩, hrest, h⟩ := bind_eq_ok_iff.mp h
      cases h
      exact ih hrest
    · exact ih h

/-- A configuration file that can be loaded is there. -/
theorem load_configFile {fs : FileSystem} (hload : Config.load fs path = .ok c) :
    ConfigFile.load fs path = .ok { path, found := true, config := c } := by
  obtain ⟨text, d, hread, -⟩ := load_eq_ok.mp hload
  obtain ⟨way, content, mode, hlocate, -⟩ := FileSystem.read_eq_ok.mp hread
  have hstat : fs.stat path = .ok (.file content mode) := by
    rw [FileSystem.stat, FileSystem.lookup_of_locate hlocate]
    rfl
  rw [ConfigFile.load, hstat, loadOrDefault_of_load hload]
  rfl

theorem eq_of_loadConfigFile {f : ConfigFile} (hpath : configFilePath s w = path)
    (hload : Config.load scene.world.files path = .ok c)
    (h : (loadConfigFile s w).Yields scene f scene') :
    f = { path, found := true, config := c } ∧ scene' = scene := by
  rw [loadConfigFile] at h
  obtain ⟨fs, scene₁, hfiles, h⟩ := CommandM.yields_bind_iff.mp h
  obtain ⟨rfl, rfl⟩ := CommandM.yields_files_iff.mp hfiles
  obtain ⟨hfile, rfl⟩ := CommandM.yields_orFail_iff.mp h
  rw [hpath, load_configFile hload] at hfile
  cases hfile
  exact ⟨rfl, rfl⟩

theorem save_of_saveConfigFile {f : ConfigFile} {keys : List String} {verb : String}
    (h : (saveConfigFile f keys verb).Yields scene answer scene') :
    Config.save scene.world.files f.path f.config = (.ok (), scene'.world.files) := by
  obtain ⟨saved, scene₁, hsave, h⟩ := CommandM.yields_bind_iff.mp h
  obtain ⟨_, scene₂, hok, h⟩ := CommandM.yields_bind_iff.mp h
  obtain ⟨rfl, rfl⟩ := CommandM.yields_orFail_iff.mp hok
  obtain ⟨-, rfl⟩ := CommandM.yields_pure_iff.mp h
  exact CommandM.yields_onFiles hsave

theorem save_of_setConfig (hpath : configFilePath s w = path)
    (hload : Config.load scene.world.files path = .ok c)
    (h : (setConfig s w).Yields scene answer scene') :
    Config.save scene.world.files path ((Edit.set w).apply c) = (.ok (), scene'.world.files) := by
  rw [setConfig] at h
  obtain ⟨f, scene₁, hfile, hedit⟩ := CommandM.yields_bind_iff.mp h
  obtain ⟨rfl, rfl⟩ := eq_of_loadConfigFile hpath hload hfile
  obtain ⟨⟨d, keys⟩, scene₂, hset, hchecked⟩ := CommandM.yields_bind_iff.mp hedit
  obtain ⟨hfields, rfl⟩ := CommandM.yields_orFail_iff.mp hset
  dsimp only at hfields hchecked
  split_ifs at hchecked
  · obtain ⟨_, _, hfail, -⟩ := CommandM.yields_bind_iff.mp hchecked
    exact absurd hfail CommandM.not_yields_throw
  · obtain ⟨_, scene₃, hvalid, hsaved⟩ := CommandM.yields_bind_iff.mp hchecked
    obtain ⟨-, rfl⟩ := CommandM.yields_orFail_iff.mp hvalid
    have happly : d = (Edit.set w).apply c := by
      rw [Edit.apply, Edit.changes]
      exact setFields_eq_ok hfields
    rw [happly] at hsaved
    have hsave := save_of_saveConfigFile hsaved
    exact hsave

theorem save_of_unsetConfig (hpath : configFilePath s w = path)
    (hload : Config.load scene.world.files path = .ok c)
    (h : (unsetConfig s w).Yields scene answer scene') :
    Config.save scene.world.files path ((Edit.unset w).apply c) = (.ok (), scene'.world.files) := by
  rw [unsetConfig] at h
  obtain ⟨f, scene₁, hfile, hedit⟩ := CommandM.yields_bind_iff.mp h
  obtain ⟨rfl, rfl⟩ := eq_of_loadConfigFile hpath hload hfile
  have happly : ((Edit.unset w).apply c) = (clearFields w c clearableFields).1 := by
    rw [Edit.apply, Edit.changes, List.foldl_map]
    rfl
  rw [happly]
  rw [if_neg (by simp)] at hedit
  dsimp only at hedit
  split_ifs at hedit
  · obtain ⟨_, _, hfail, -⟩ := CommandM.yields_bind_iff.mp hedit
    exact absurd hfail CommandM.not_yields_throw
  · have hsave := save_of_saveConfigFile hedit
    exact hsave

theorem status_outcome_failure (f : Failure) (json : Bool) (notes : Text) :
    (f.outcome json notes).status = 1 := by
  rw [Failure.outcome]
  split_ifs <;> rfl

/-- A command that ends with status zero has come to an answer. -/
theorem exists_yields_of_carryOut {world : World} {v : Verb} {r : Outcome × World}
    (h : carryOut s world w v = r) (hstatus : r.1.status = 0) :
    ∃ answer scene, (perform s w v).Yields { world } answer scene ∧ r.2 = scene.world := by
  rw [carryOut, show (perform s w v).run { world } = (perform s w v).runOn { world } from rfl] at h
  rcases hresult : (perform s w v).runOn { world } with ⟨failure | answer, scene⟩
  · rw [hresult] at h
    rw [← h, status_outcome_failure] at hstatus
    cases hstatus
  · rw [hresult] at h
    exact ⟨answer, scene, hresult, h ▸ rfl⟩

/-- An edit that is accepted saves the configuration with the fields changed that it names. -/
theorem Edit.save_of_run {e : Edit} {world world' : World} (hpath : configFilePath s e.words = path)
    (hload : Config.load world.files path = .ok c) (h : e.run s world = some world') :
    Config.save world.files path (e.apply c) = (.ok (), world'.files) := by
  rw [Edit.run] at h
  dsimp only at h
  split_ifs at h with hstatus
  cases h
  obtain ⟨answer, scene, hrun, hworld⟩ := exists_yields_of_carryOut rfl hstatus
  rw [hworld]
  have hload : Config.load ({ world : Scene }).world.files path = .ok c := hload
  cases e with
  | set w =>
    have hpath : configFilePath s w = path := hpath
    have hset : (setConfig s w).Yields { world } answer scene := hrun
    have hsave := save_of_setConfig hpath hload hset
    exact hsave
  | unset w =>
    have hpath : configFilePath s w = path := hpath
    have hunset : (unsetConfig s w).Yields { world } answer scene := hrun
    have hsave := save_of_unsetConfig hpath hload hunset
    exact hsave

end

/-! ## Runs of edits -/

/-- The configurations that a run of edits writes, from one that was loaded. -/
def written (path : String) : Config → List Edit → List Config
  | _, [] => []
  | c, e :: es => e.apply c :: written path (e.next path c) es

section
variable {path : String} {c : Config} (hc : ∀ entry ∈ c.values, IsWritable entry.2)
include hc

theorem isWritable_put {f : EditableField} (hf : f ∈ settableFields) {v : String}
    (hv : IsWritable (.string v)) : ∀ entry ∈ (f.put c v).values, IsWritable entry.2 := by
  simp only [values, topValues, sections, List.flatMap_cons, List.flatMap_nil, List.cons_append,
    List.nil_append, List.forall_mem_cons] at hc
  revert f
  rw [settableFields]
  simp [values, topValues, sections, hc, hv]

theorem Edit.isWritable_apply {e : Edit} (he : ∀ change ∈ e.changes, IsWritable (.string change.2)) :
    ∀ entry ∈ (e.apply c).values, IsWritable entry.2 :=
  List.foldlRecOn (motive := fun c : Config ↦ ∀ entry ∈ c.values, IsWritable entry.2) e.changes _ hc
    fun _ hd change hchange ↦ isWritable_put hd (mem_settableFields hchange) (he change hchange)

theorem isWritable_relocate (hpath : IsWritable (.string path)) :
    ∀ entry ∈ (c.relocate path).values, IsWritable entry.2 := by
  have hschema := hc ("schema", .string c.schema) List.mem_cons_self
  have hplain {text : String} (h : IsWritable (.string text)) : PathName.MadeOf (· ≠ '\uFFFD') text :=
    fun _ hd heq ↦ h (heq ▸ hd)
  have htold : IsWritable (.string (resolveSchema path c.schema)) := fun hmem ↦
    madeOf_resolveSchema (by decide) (by decide) (hplain hpath) (hplain hschema) _ hmem rfl
  exact List.forall_mem_cons.mpr ⟨htold, (List.forall_mem_cons.mp hc).2⟩

/-- What a run of edits writes is read back, unless a text in it or in the path of the file holds a
character that cannot be written. -/
theorem parse?_of_mem_written {es : List Edit} (hpath : IsWritable (.string path))
    (hes : ∀ e ∈ es, ∀ change ∈ e.changes, IsWritable (.string change.2)) :
    ∀ d ∈ written path c es, Config.parse? d.document = some d := by
  induction es generalizing c with
  | nil => exact List.forall_mem_nil _
  | cons e es ih =>
    obtain ⟨he, hes⟩ := List.forall_mem_cons.mp hes
    have happly := Edit.isWritable_apply hc he
    exact List.forall_mem_cons.mpr
      ⟨Config.parse?_document happly, ih (isWritable_relocate happly hpath) hes⟩

end

section
variable {s : Setting} {world world' : World} {path : String} {c : Config} {es : List Edit}

/-- What is loaded after a run of accepted edits, if what they write is read back. -/
theorem load_of_foldlM_run (hpath : ∀ e ∈ es, configFilePath s e.words = path)
    (hload : Config.load world.files path = .ok c)
    (hrun : es.foldlM (fun world e ↦ Edit.run s world e) world = some world')
    (hback : ∀ d ∈ written path c es, Config.parse? d.document = some d) :
    Config.load world'.files path = .ok (es.foldl (Edit.next path) c) := by
  induction es generalizing world c with
  | nil =>
    cases hrun
    exact hload
  | cons e es ih =>
    obtain ⟨hfirst, hmore⟩ := List.forall_mem_cons.mp hpath
    obtain ⟨hback, hrest⟩ := List.forall_mem_cons.mp hback
    rw [List.foldlM_cons] at hrun
    obtain ⟨world₁, hedit, hrun⟩ := Option.bind_eq_some_iff.mp hrun
    exact ih hmore (load_save hload (e.save_of_run hfirst hload hedit) hback) hrun hrest

theorem sameBut_foldl_next (path : String) (c : Config) (es : List Edit) :
    SameBut ("schema" :: es.flatMap Edit.keys) c (es.foldl (Edit.next path) c) := by
  induction es generalizing c with
  | nil => exact .refl c
  | cons e es ih =>
    refine ((Edit.sameBut_next path c e).mono ?_).trans ((ih (e.next path c)).mono ?_)
    · rw [List.flatMap_cons]
      exact List.cons_subset_cons _ (List.subset_append_left _ _)
    · rw [List.flatMap_cons]
      exact List.cons_subset_cons _ (List.subset_append_right _ _)

theorem schema_foldl_next (h : "schema" ∉ es.flatMap Edit.keys) (path : String) (c : Config) :
    (es.foldl (Edit.next path) c).schema = (resolveSchema path)^[es.length] c.schema := by
  induction es generalizing c with
  | nil => rfl
  | cons e es ih =>
    rw [List.flatMap_cons, List.mem_append, not_or] at h
    rw [List.foldl_cons, ih h.2, Edit.schema_next h.1, List.length_cons, Function.iterate_succ_apply]

/-- A run of accepted edits leaves the configuration that is loaded as it was, except in the fields
that the edits name, exactly if there are no edits, they name the path of the topology, or that path
is steady. All other fields are left as they were in any case, and the path of the topology, unless
it is named, is told from the directory of the file as often as there are edits. -/
theorem sameBut_edited_iff (hpath : ∀ e ∈ es, configFilePath s e.words = path)
    (hload : Config.load world.files path = .ok c)
    (hrun : es.foldlM (fun world e ↦ Edit.run s world e) world = some world')
    (hback : ∀ d ∈ written path c es, Config.parse? d.document = some d) :
    ∃ c', Config.load world'.files path = .ok c' ∧
      (SameBut (es.flatMap Edit.keys) c c' ↔
        es = [] ∨ "schema" ∈ es.flatMap Edit.keys ∨ IsSteady path c.schema) ∧
      SameBut ("schema" :: es.flatMap Edit.keys) c c' ∧
      ("schema" ∉ es.flatMap Edit.keys → c'.schema = (resolveSchema path)^[es.length] c.schema) := by
  have hsame := sameBut_foldl_next path c es
  refine ⟨es.foldl (Edit.next path) c, load_of_foldlM_run hpath hload hrun hback, ?_, hsame,
    fun hkeys ↦ schema_foldl_next hkeys path c⟩
  by_cases hkeys : "schema" ∈ es.flatMap Edit.keys
  · refine iff_of_true (hsame.mono ?_) (.inr (.inl hkeys))
    exact List.cons_subset.mpr ⟨hkeys, List.Subset.refl _⟩
  have hschema := schema_foldl_next hkeys path c
  have hchanged : SameBut (es.flatMap Edit.keys) c (es.foldl (Edit.next path) c) ↔
      (resolveSchema path)^[es.length] c.schema = c.schema := by
    rw [← hschema, eq_comm]
    exact ⟨fun h ↦ h.schema_eq hkeys, hsame.of_schema_eq⟩
  rw [hchanged]
  cases es with
  | nil => exact iff_of_true rfl (.inl rfl)
  | cons e es =>
    obtain ⟨text, d, -, -, -, rfl⟩ := load_eq_ok.mp hload
    rw [List.length_cons, show (d.relocate path).schema = resolveSchema path d.schema from rfl,
      iterate_resolveSchema_eq_self_iff]
    simp only [hkeys, reduceCtorEq, false_or]

/-- A configuration file below the working directory that gives the path of the topology. -/
def confFiles : FileSystem where
  entries := [(["conf"], .directory directoryMode),
    (["conf", "config.toml"], .file (Text.ofString "schema = \"topology.yaml\"\n") fileMode)]

/-- An edit that clears a field that is empty already. -/
def accentCleared : Edit :=
  .unset { given := [("config", "conf/config.toml"), ("ui-accent", "true")] }

/-- Clearing the accent colour moves the topology one directory down. -/
theorem not_sameBut_accentCleared :
    Config.load confFiles "conf/config.toml" = .ok { schema := "conf/topology.yaml" } ∧
      ∃ world', [accentCleared].foldlM (fun world e ↦ Edit.run {} world e) { files := confFiles } =
          some world' ∧
        ∃ c', Config.load world'.files "conf/config.toml" = .ok c' ∧
          ¬SameBut accentCleared.keys { schema := "conf/topology.yaml" } c' ∧
          c'.schema = "conf/conf/topology.yaml" := by
  have hload : Config.load (World.mk confFiles #[] 0).files "conf/config.toml" =
    .ok { schema := "conf/topology.yaml" } := by decide +kernel
  obtain ⟨world', hrun⟩ : ∃ world', [accentCleared].foldlM (fun world e ↦ Edit.run {} world e)
      { files := confFiles } = some world' := Option.isSome_iff_exists.mp (by decide +kernel)
  have hback : ∀ d ∈ written "conf/config.toml" { schema := "conf/topology.yaml" } [accentCleared],
      Config.parse? d.document = some d :=
    parse?_of_mem_written (by decide) (by decide) (by decide)
  obtain ⟨c', hload', hiff, -, hschema⟩ := sameBut_edited_iff (by decide) hload hrun hback
  have hsteady : ¬IsSteady "conf/config.toml" "conf/topology.yaml" := by decide
  refine ⟨hload, world', hrun, c', hload', fun hsame ↦ ?_, (hschema (by decide)).trans (by decide)⟩
  obtain hnone | hnamed | hsame := hiff.mp hsame
  · cases hnone
  · exact absurd hnamed (by decide)
  · exact hsteady hsame

end

end Command

end PathQuery
