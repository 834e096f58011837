import PathQuery.Graph.TopologyFile
import PathQuery.Proofs.Graph.Refusal
import PathQuery.Proofs.Text.Cut
import PathQuery.Proofs.Yaml.Decoding

/-!
# Naming a table

A table is shown as its schema and its name with a point between them. A reference is trimmed and
cut at its last point, so a table is found under what is shown for it exactly if neither trimming
nor cutting gets in the way: its schema has to be there and must not start with a blank, its name
must not end with one, and there must be no point in it. Nothing keeps labels and schemas from being
otherwise. The vertices of an edge are put on record in the same way, and what has a point in its
label is taken for a label of another schema.
-/

namespace PathQuery

/-! ## References -/

namespace Table

variable {ref schema name : String}

theorem toList_append_point (schema name : String) :
    (schema ++ "." ++ name).toList = schema.toList ++ '.' :: name.toList := by
  simp [String.toList_append]

theorem splitLast_of_notMem (h : '.' ∉ ref.toList) : splitLast ref = (none, ref) := by
  rw [splitLast]
  simp [h]

theorem splitLast_append (h : '.' ∉ name.toList) :
    splitLast (schema ++ "." ++ name) = (some schema, name) := by
  have hfree : ∀ c ∈ name.toList.reverse, decide (c ≠ '.') = true := fun c hc ↦
    decide_eq_true fun heq ↦ h (heq ▸ List.mem_reverse.mp hc)
  have htail : ((schema.toList ++ '.' :: name.toList).reverse.takeWhile (· ≠ '.')).reverse =
      name.toList := by
    rw [List.reverse_append, List.reverse_cons, List.append_assoc,
      List.takeWhile_append_of_pos hfree]
    simp
  rw [splitLast, toList_append_point]
  dsimp only
  rw [htail, if_pos (by simp), List.length_append, List.length_cons,
    show schema.toList.length + (name.toList.length + 1) - name.toList.length - 1 =
      schema.toList.length by omega, List.take_left, String.ofList_toList, String.ofList_toList]

theorem exists_eq_append_point (h : '.' ∈ ref.toList) :
    ∃ schema name : String, ref = schema ++ "." ++ name ∧ '.' ∉ name.toList := by
  obtain ⟨xs, ys, heq, hys⟩ := exists_append_cons_of_mem h
  refine ⟨String.ofList xs, String.ofList ys, String.toList_inj.mp ?_, by simpa using hys⟩
  rw [toList_append_point, heq, String.toList_ofList, String.toList_ofList]

/-- What is behind the last point, or all of it if there is none. -/
theorem splitLast_cases (ref : String) : '.' ∉ (splitLast ref).2.toList ∧
    (splitLast ref = (none, ref) ∨
      ∃ schema name, ref = schema ++ "." ++ name ∧ splitLast ref = (some schema, name)) := by
  by_cases h : '.' ∈ ref.toList
  · obtain ⟨schema, name, rfl, hname⟩ := exists_eq_append_point h
    rw [splitLast_append hname]
    exact ⟨hname, .inr ⟨schema, name, rfl, rfl⟩⟩
  · rw [splitLast_of_notMem h]
    exact ⟨h, .inl rfl⟩

/-! ### Trimmed references -/

/-- A reference that is trimmed has no blanks at its ends. -/
theorem not_isBlank_trimBlanks (ref : String) :
    (∀ c ∈ (trimBlanks ref).toList.head?, isBlank c = false) ∧
      ∀ c ∈ (trimBlanks ref).toList.getLast?, isBlank c = false := by
  rw [trimBlanks, String.toList_ofList]
  exact ⟨head?_trimBoth _ _, getLast?_trimBoth _ _⟩

theorem trimBlanks_eq_self (hhead : ∀ c ∈ ref.toList.head?, isBlank c = false)
    (hlast : ∀ c ∈ ref.toList.getLast?, isBlank c = false) : trimBlanks ref = ref := by
  rw [trimBlanks, trimBoth_eq_self hhead hlast, String.ofList_toList]

/-- What is behind the last point does not end with a blank either. -/
theorem not_isBlank_segment (ref : String) :
    ∀ c ∈ (splitLast (trimBlanks ref)).2.toList.getLast?, isBlank c = false := by
  intro c hc
  refine (not_isBlank_trimBlanks ref).2 c ?_
  obtain ⟨-, heq | ⟨schema, name, hparts, heq⟩⟩ := splitLast_cases (trimBlanks ref)
  · rw [heq] at hc
    exact hc
  · rw [heq] at hc
    rw [hparts, toList_append_point]
    exact List.mem_getLast?_append_of_mem_getLast? (List.mem_getLast?_cons hc)

/-- A table that is found under what is shown for it: it has a schema, which does not start with a
blank, and a name that has no point in it and does not end with a blank. -/
structure Nameable (st : Table) : Prop where
  /-- There is a schema. -/
  schema : st.schema ≠ ""
  /-- The schema does not start with a blank. -/
  lead : ∀ c ∈ st.schema.toList.head?, isBlank c = false
  /-- The name has no point in it. -/
  name : '.' ∉ st.name.toList
  /-- The name does not end with a blank. -/
  trail : ∀ c ∈ st.name.toList.getLast?, isBlank c = false

theorem kind_of_name_eq_empty {st : Table} (h : st.name = "") : st.kind = .unknown := by
  rw [kind, h]
  rfl

/-- The table of the parts of a reference. -/
def ofParts (defaultSchema : String) (parts : Option String × String) : Table :=
  ⟨parts.1.getD defaultSchema, parts.2⟩

theorem parse_eq (ref defaultSchema : String) : parse ref defaultSchema =
    if trimBlanks ref = "" then .error .empty
    else
      let t := ofParts defaultSchema (splitLast (trimBlanks ref))
      if t.schema = "" || t.name = "" then .error (.invalid (trimBlanks ref))
      else if t.kind = .unknown then .error (.unmarked (trimBlanks ref))
      else .ok t := by
  rw [parse]
  generalize splitLast (trimBlanks ref) = parts
  obtain ⟨_ | _, _⟩ := parts <;> rfl

/-- A reference is read as the table of its parts if there is a schema and a lead-in. -/
theorem parse_eq_ok_iff {ref defaultSchema : String} {st : Table} :
    parse ref defaultSchema = .ok st ↔
      st = ofParts defaultSchema (splitLast (trimBlanks ref)) ∧
        st.schema ≠ "" ∧ st.kind ≠ .unknown := by
  have hempty : trimBlanks ref = "" →
      (ofParts defaultSchema (splitLast (trimBlanks ref))).name = "" := fun h ↦ by
    rw [h]
    rfl
  rw [parse_eq]
  generalize ofParts defaultSchema (splitLast (trimBlanks ref)) = t at hempty ⊢
  constructor
  · intro h
    dsimp only at h
    split_ifs at h with hblank hpart hkind
    obtain rfl := Except.ok.inj h
    exact ⟨rfl, fun heq ↦ hpart (by simp [heq]), hkind⟩
  · rintro ⟨rfl, hschema, hkind⟩
    have hname : st.name ≠ "" := fun heq ↦ hkind (kind_of_name_eq_empty heq)
    rw [if_neg fun heq ↦ hname (hempty heq), if_neg (by simpa using ⟨hschema, hname⟩),
      if_neg hkind]

section Render

variable {st : Table}

theorem Nameable.trimBlanks_render (h : st.Nameable) (hname : st.name ≠ "") :
    trimBlanks st.render = st.render := by
  refine trimBlanks_eq_self (fun c hc ↦ h.lead c ?_) fun c hc ↦ h.trail c ?_
  · rw [render, toList_append_point] at hc
    obtain ⟨x, xs, hx⟩ := List.exists_cons_of_ne_nil (mt String.toList_eq_nil_iff.mp h.schema)
    rw [hx] at hc ⊢
    exact hc
  · rw [render, toList_append_point] at hc
    obtain ⟨x, xs, hx⟩ := List.exists_cons_of_ne_nil (mt String.toList_eq_nil_iff.mp hname)
    rw [hx] at hc ⊢
    rwa [List.getLast?_append_cons, List.getLast?_cons_cons] at hc

theorem Nameable.parse_render (h : st.Nameable) (hkind : st.kind ≠ .unknown)
    (defaultSchema : String) : parse st.render defaultSchema = .ok st := by
  rw [parse_eq_ok_iff, h.trimBlanks_render fun hname ↦ hkind (kind_of_name_eq_empty hname), render,
    splitLast_append h.name]
  exact ⟨rfl, h.schema, hkind⟩

theorem point_mem_trimBlanks_render (st : Table) : '.' ∈ (trimBlanks st.render).toList := by
  obtain ⟨before, after, heq, hbefore, hafter⟩ := exists_append_trimBoth isBlank st.render.toList
  have hmem : '.' ∈ st.render.toList := by
    rw [render, toList_append_point]
    simp
  have hpoint : ¬isBlank '.' = true := by decide
  rw [heq, List.mem_append, List.mem_append] at hmem
  rw [trimBlanks, String.toList_ofList]
  exact (hmem.resolve_left fun h ↦ hpoint (hbefore _ h)).resolve_right fun h ↦ hpoint (hafter _ h)

/-- What is shown for a table is trimmed and cut somewhere. -/
theorem splitLast_trimBlanks_render (st : Table) : ∃ schema name,
    trimBlanks st.render = schema ++ "." ++ name ∧
      splitLast (trimBlanks st.render) = (some schema, name) ∧ '.' ∉ name.toList := by
  obtain ⟨hfree, heq | ⟨schema, name, hparts, heq⟩⟩ := splitLast_cases (trimBlanks st.render)
  · rw [heq] at hfree
    exact absurd (point_mem_trimBlanks_render st) hfree
  · rw [heq] at hfree
    exact ⟨schema, name, hparts, heq, hfree⟩

theorem nameable_of_parse_render {defaultSchema : String}
    (h : parse st.render defaultSchema = .ok st) : st.Nameable := by
  obtain ⟨hst, hschema, -⟩ := parse_eq_ok_iff.mp h
  obtain ⟨schema, name, hparts, hsplit, hfree⟩ := splitLast_trimBlanks_render st
  have htrail := not_isBlank_segment st.render
  have hlead := (not_isBlank_trimBlanks st.render).1
  rw [hsplit] at htrail hst
  rw [hparts, toList_append_point] at hlead
  rw [hst] at hschema ⊢
  exact {
    schema := hschema
    lead := fun c hc ↦ hlead c (List.mem_head?_append_of_mem_head? hc)
    name := hfree
    trail := htrail }

theorem append_ne_append_blanks {mark segment after : List Char} (hmark : mark ≠ [])
    (hlast : ∀ c ∈ mark.getLast?, isBlank c = false)
    (hsegment : ∀ c ∈ segment.getLast?, isBlank c = false) (hafter : ∀ c ∈ after, isBlank c) :
    mark ++ segment ≠ segment ++ after := by
  intro heq
  have hne : after ≠ [] := by
    rintro rfl
    rw [List.append_nil] at heq
    exact hmark (List.append_left_eq_self.mp heq)
  -- both end alike, one with a blank and the other not
  have hend : (segment ++ after).getLast? = after.getLast? := List.getLast?_append_of_ne_nil _ hne
  have hblank := hafter _ (List.getLast_mem hne)
  rw [← heq, List.getLast?_append, List.getLast?_eq_some_getLast hne] at hend
  rcases Option.or_eq_some_iff.mp hend with h | ⟨-, h⟩
  · rw [hsegment _ h] at hblank
    cases hblank
  · rw [hlast _ h] at hblank
    cases hblank

/-- What is shown for a table does not end with a part that a lead-in makes its name. -/
theorem name_ne_mark_append {mark : String} (hmark : mark = vertexMark ∨ mark = edgeMark) :
    st.name ≠ mark ++ (splitLast (trimBlanks st.render)).2 := by
  intro hname
  obtain ⟨schema, segment, hparts, hsplit, hfree⟩ := splitLast_trimBlanks_render st
  have htrail := not_isBlank_segment st.render
  obtain ⟨before, after, heq, -, hafter⟩ := exists_append_trimBoth isBlank st.render.toList
  have htrimmed : trimBoth isBlank st.render.toList = schema.toList ++ '.' :: segment.toList := by
    rw [← toList_append_point, ← hparts, trimBlanks, String.toList_ofList]
  rw [hsplit] at hname htrail
  have hname' : st.name.toList = mark.toList ++ segment.toList := by
    rw [hname, String.toList_append]
  obtain ⟨hmarkFree, hends⟩ : '.' ∉ mark.toList ∧ mark.toList.getLast? = some '_' := by
    rcases hmark with rfl | rfl <;> decide
  have hne : mark.toList ≠ [] := by
    intro hnil
    rw [hnil] at hends
    cases hends
  have hlast : ∀ c ∈ mark.toList.getLast?, isBlank c = false := by
    intro c hc
    rw [hends, Option.mem_some_iff] at hc
    rw [← hc]
    decide
  have hnameFree : '.' ∉ st.name.toList := by
    rw [hname', List.mem_append, not_or]
    exact ⟨hmarkFree, hfree⟩
  have hafterFree : '.' ∉ segment.toList ++ after := by
    rw [List.mem_append, not_or]
    exact ⟨hfree, fun hc ↦ absurd (hafter _ hc) (by decide)⟩
  rw [htrimmed, render, toList_append_point, List.append_assoc, List.cons_append,
    ← List.append_assoc] at heq
  obtain ⟨-, htail⟩ := append_cons_inj_of_notMem_right hnameFree hafterFree heq
  rw [hname'] at htail
  exact append_ne_append_blanks hne hlast htrail hafter htail

end Render

theorem label_vertex (schema label : String) : (vertex schema label).label = label := by
  simp [vertex, Table.label, vertexMark, classify]

theorem eq_vertex_of_isVertex {v : Table} (h : v.isVertex) : v = .vertex v.schema v.label := by
  obtain ⟨schema, name⟩ := v
  have hname : name.toList = vertexMark.toList ++ (classify name.toList).2 := by
    rw [isVertex, kind] at h
    dsimp only at h
    generalize name.toList = cs at h ⊢
    unfold classify at h ⊢
    split at h
    · rfl
    · simp at h
    · simp at h
  have hlabel : name = vertexMark ++ String.ofList (classify name.toList).2 := by
    rw [← String.toList_inj, String.toList_append, String.toList_ofList]
    exact hname
  exact congrArg (Table.mk schema) hlabel

/-- A label behind a lead-in is read as the label of a vertex. -/
theorem eq_vertex_of_parse {label defaultSchema : String} {raw : Table} (hfree : '.' ∉ label.toList)
    (htrail : ∀ c ∈ label.toList.getLast?, isBlank c = false)
    (h : parse (vertexMark ++ label) defaultSchema = .ok raw) :
    raw = .vertex defaultSchema label := by
  have hchars : (vertexMark ++ label).toList = 'V' :: '_' :: label.toList := by
    rw [String.toList_append]
    rfl
  have htrim : trimBlanks (vertexMark ++ label) = vertexMark ++ label := by
    refine trimBlanks_eq_self ?_ ?_
    · rw [hchars]
      rintro c ⟨⟩
      decide
    · rw [String.toList_append, List.getLast?_append]
      intro c hc
      rcases Option.or_eq_some_iff.mp hc with hc | ⟨-, hc⟩
      · exact htrail c hc
      · rcases hc with ⟨⟩
        decide
  have hpoint : '.' ∉ (vertexMark ++ label).toList := by
    rw [hchars]
    simpa using hfree
  rw [(parse_eq_ok_iff.mp h).1, htrim, splitLast_of_notMem hpoint]
  rfl

end Table

/-! ## Resolution -/

namespace Topology

variable {t : Topology} {ref : String} {st : Table}

/-- A reference is resolved to a declared table: the one that it is read as, or one whose label is
the last part of it. -/
theorem resolve_cases (h : t.resolve ref = .ok st) : t.hasTable st ∧
    (Table.parse ref t.publicSchema = .ok st ∨
      ∃ mark, (mark = vertexMark ∨ mark = edgeMark) ∧
        st.name = mark ++ (Table.splitLast (trimBlanks ref)).2) := by
  rw [resolve] at h
  split at h
  · next table hparse =>
    split at h
    · next htable =>
      obtain rfl := Except.ok.inj h
      exact ⟨htable, .inl hparse⟩
    · cases h
  · next e hparse =>
    dsimp only at h
    split at h
    · cases h
    · next raw hraw =>
      split at h
      · next table hfind =>
        obtain rfl := Except.ok.inj h
        refine ⟨List.find?_some hfind, .inr ?_⟩
        obtain rfl := Table.eq_vertex_of_parse (Table.splitLast_cases (trimBlanks ref)).1
          (Table.not_isBlank_segment ref) hraw
        rcases List.mem_pair.mp (List.mem_of_find?_eq_some hfind) with rfl | rfl
        · exact ⟨vertexMark, .inl rfl, congrArg (vertexMark ++ ·) (Table.label_vertex _ _)⟩
        · exact ⟨edgeMark, .inr rfl, congrArg (edgeMark ++ ·) (Table.label_vertex _ _)⟩
      · cases h

/-- A declared table is found under what is shown for it exactly if it can be named. -/
theorem resolve_render_iff (htable : t.hasTable st) (hkind : st.kind ≠ .unknown) :
    t.resolve st.render = .ok st ↔ st.Nameable := by
  constructor
  · intro h
    rcases (resolve_cases h).2 with hparse | ⟨mark, hmark, hname⟩
    · exact Table.nameable_of_parse_render hparse
    · exact absurd hname (Table.name_ne_mark_append hmark)
  · intro h
    rw [resolve, h.parse_render hkind]
    exact if_pos htable

/-! ## Topologies that come about -/

/-- What a topology is made by: reading a text, or making declarations from none on. -/
inductive Reachable : Topology → Prop
  | parsed {text : String} {t : Topology} (h : Topology.parse text = .ok t) : Reachable t
  | undeclared (publicSchema : String) : Reachable { publicSchema }
  | declared {t : Topology} (h : Reachable t) (c : Declaration) : Reachable (t.after c)

end Topology

namespace TopologyFile

open Yaml.DecodeM (Target)

/-- Every label of a schema is listed once. -/
def UniqueLabels (l : SchemaLabels) : Prop :=
  (l.vertices.map Prod.fst).Nodup ∧ (l.edges.map Prod.fst).Nodup

theorem uniqueLabels_empty : UniqueLabels {} := ⟨List.nodup_nil, List.nodup_nil⟩

theorem keeps_schema (fuel : ℕ) : (schema fuel).Keeps UniqueLabels := by
  refine Target.keeps_record (fun name change hchange n s hs ↦ ?_) fuel
  dsimp only at hchange
  split at hchange
  · exact Target.keeps_field _ hchange ((Target.keeps_true _).table trivial fuel)
      (fun s hs ↦ ⟨hs.1, fun _ _ _ _ ↦ trivial⟩) (fun s a hs ha ↦ ⟨ha.1, hs.2⟩) n hs
  · exact Target.keeps_field _ hchange ((Target.keeps_true _).table trivial fuel)
      (fun s hs ↦ ⟨hs.2, fun _ _ _ _ ↦ trivial⟩) (fun s a hs ha ↦ ⟨hs.1, ha.1⟩) n hs
  · cases hchange

theorem keeps_topology (fuel : ℕ) : (topology fuel).Keeps fun c ↦
    Target.Listed UniqueLabels c.declarations := by
  refine Target.keeps_record (fun name change hchange n s hs ↦ ?_) fuel
  dsimp only at hchange
  split at hchange
  · exact Target.keeps_field _ hchange (Target.keeps_true _) (fun _ _ ↦ trivial)
      (fun s a hs _ ↦ hs) n hs
  · exact Target.keeps_field _ hchange
      ((keeps_schema fuel).table uniqueLabels_empty fuel) (fun s hs ↦ hs)
      (fun s a _ ha ↦ ha) n hs
  · cases hchange

/-- A text lists every schema once, and every label of a schema. -/
theorem unique_declarations {text : String} {c : Contents} (h : contents text = .ok c) :
    c.declarations.Unique := by
  have hempty : Target.Listed UniqueLabels ({} : Contents).declarations :=
    ⟨List.nodup_nil, List.forall_mem_nil _⟩
  have hlisted : Target.Listed UniqueLabels c.declarations := by
    unfold contents at h
    dsimp only at h
    split at h
    · exact (keeps_topology (Yaml.nestingBound text)).run hempty h
    · split at h
      · exact Except.ok.inj h ▸ hempty
      · cases h
  have hlabels : ∀ x ∈ c.declarations, UniqueLabels (x.2.getD {}) := by
    rintro ⟨name, _ | labels⟩ hx
    · exact uniqueLabels_empty
    · exact hlisted.2 _ hx labels rfl
  exact ⟨hlisted.1, fun x hx ↦ (hlabels x hx).1, fun x hx ↦ (hlabels x hx).2⟩

end TopologyFile

namespace Topology

variable {t : Topology}

/-- On record every label is listed once, and so it was when the tables were indexed. -/
theorem Reachable.unique (h : t.Reachable) :
    t.declarations.Unique ∧ ∃ d : Declarations, d.Unique ∧ d.index = .ok t.tables := by
  have hnone : Declarations.Unique [] := ⟨List.nodup_nil, nofun, nofun⟩
  induction h with
  | parsed h =>
    obtain ⟨c, hc, h⟩ := bind_eq_ok_iff.mp h
    obtain ⟨tables, htables, h⟩ := bind_eq_ok_iff.mp (mapError_eq_ok_iff.mp h)
    obtain rfl := Except.ok.inj h
    have hunique := TopologyFile.unique_declarations (mapError_eq_ok_iff.mp hc)
    exact ⟨hunique, _, hunique, htables⟩
  | undeclared => exact ⟨hnone, [], hnone, rfl⟩
  | @declared t _ c ih =>
    obtain ⟨hunique, hindex⟩ := ih
    refine ⟨unique_after hunique c, ?_⟩
    obtain ⟨-, -, hafter⟩ | ⟨-, e, -, hafter⟩ | ⟨-, -, tables, htables, hafter⟩ := t.after_cases c
    · rwa [hafter]
    · rwa [hafter]
    · rw [hafter]
      exact ⟨_, unique_record hunique c, htables⟩

theorem Reachable.kind_ne_unknown (h : t.Reachable) {st : Table} (hst : t.hasTable st) :
    st.kind ≠ .unknown := by
  obtain ⟨-, d, hd, hindex⟩ := h.unique
  have hmem : st ∈ d.meanings.map Prod.fst := by
    rw [← Declarations.map_fst_of_tabulates ((Declarations.index_eq_ok_iff hd).mp hindex)]
    exact isSome_lookupKey_iff.mp hst
  rw [Declarations.meanings, List.map_append, List.mem_append, Declarations.map_fst_vertexMeanings,
    Declarations.map_fst_edgeMeanings] at hmem
  rcases hmem with hmem | hmem <;>
  · obtain ⟨x, -, hmem⟩ := List.mem_flatMap.mp hmem
    obtain ⟨l, -, rfl⟩ := List.mem_map.mp hmem
    simp [Table.kind, vertexMark, edgeMark, Table.classify]

/-! ## The vertices of an edge -/

/-- The table that an edge of a schema refers to when it is declared with a table. -/
def referred (schema : String) (v : Table) : Table :=
  Declarations.vertexTable (endpointLabel v) schema

theorem referred_eq_iff (schema : String) (v : Table) :
    referred schema v = v ↔ v.isVertex ∧ '.' ∉ v.name.toList := by
  have hmark : '.' ∉ vertexMark.toList := by decide
  have hvertex : ∀ s l, '.' ∈ (Table.vertex s l).name.toList ↔ '.' ∈ l.toList := fun s l ↦ by
    rw [Table.vertex, String.toList_append, List.mem_append, or_iff_right hmark]
  obtain ⟨hfree, hparts⟩ := Table.splitLast_cases (endpointLabel v)
  have hrefers : referred schema v =
      .vertex ((Table.splitLast (endpointLabel v)).1.getD schema)
        (Table.splitLast (endpointLabel v)).2 := by
    rw [referred, Declarations.vertexTable]
    generalize Table.splitLast (endpointLabel v) = parts
    obtain ⟨_ | _, _⟩ := parts <;> rfl
  constructor
  · intro heq
    rw [hrefers] at heq
    rw [← heq, hvertex]
    exact ⟨Declarations.isVertex_vertex _ _, hfree⟩
  · rintro ⟨hkind, hname⟩
    have hself := Table.eq_vertex_of_isVertex hkind
    rw [hself, hvertex] at hname
    rw [hrefers, endpointLabel, Table.splitLast_append hname]
    exact hself.symm

/-- The foreign keys of an edge that is declared. -/
theorem Reachable.foreignKeys_addEdge {t t' : Topology} (ht : t.Reachable) {schema label : String}
    {outs ins : List Table} {properties : List Property}
    (h : t.addEdge schema label outs ins properties = .declared t') :
    t'.foreignKeys (.edge schema label) =
      outs.map (fun v ↦ (referred schema v).foreignKey .outward) ++
        ins.map fun v ↦ (referred schema v).foreignKey .inward := by
  have hperform : t.perform (.edge schema label outs ins properties) = .declared t' := h
  have hverdict : t.verdict (.edge schema label outs ins properties) = .accepted := by
    rw [verdict, hperform]
  have hafter : t.after (.edge schema label outs ins properties) = t' := by
    rw [after, hperform]
  obtain ⟨-, -, -, hindex⟩ := after_of_accepted hverdict
  have hmeaning := (mem_meanings_record ht.unique.1 (.edge schema label outs ins properties)).mpr
    (.inl rfl)
  obtain ⟨info, hinfo, -, hkeys⟩ := (Declarations.mem_meanings_iff
    (unique_record ht.unique.1 _) hindex).mp hmeaning
  have hinfo' : t'.info? (.edge schema label) = some info := hafter ▸ hinfo
  rw [foreignKeys, hinfo', Option.map_some, Option.getD_some, hkeys, LabelMeaning.foreignKeys]
  simp only [Declarations.edgeSays, List.map_map]
  rfl

/-- **Tables under their own names.** Of every topology that comes about, a table that is listed is
found under what is shown for it exactly if it can be named, and whatever is found is listed. An
edge that is declared between tables has a foreign key for each of them, in order; these refer to
the tables exactly if all of them are vertex tables without a point in their names. -/
theorem Reachable.resolve_and_refer_iff {t : Topology} (ht : t.Reachable) :
    (∀ st ∈ t.tableList, t.resolve st.render = .ok st ↔ st.Nameable) ∧
    (∀ ref st, t.resolve ref = .ok st → st ∈ t.tableList) ∧
    ∀ schema label outs ins properties t',
      t.addEdge schema label outs ins properties = .declared t' →
        (t'.foreignKeys (.edge schema label)).map (fun k ↦ (k.vertex, k.direction)) =
          outs.map (fun v ↦ (referred schema v, .outward)) ++
            ins.map (fun v ↦ (referred schema v, .inward)) ∧
        ((t'.foreignKeys (.edge schema label)).map ForeignKey.vertex = outs ++ ins ↔
          ∀ v ∈ outs ++ ins, v.isVertex ∧ '.' ∉ v.name.toList) := by
  refine ⟨fun st hst ↦ ?_, fun ref st h ↦ ?_, fun schema label outs ins properties t' h ↦ ?_⟩
  · have htable : t.hasTable st := Option.isSome_iff_exists.mpr (mem_tableList_iff.mp hst)
    exact resolve_render_iff htable (ht.kind_ne_unknown htable)
  · exact mem_tableList_iff.mpr (Option.isSome_iff_exists.mp (resolve_cases h).1)
  · rw [ht.foreignKeys_addEdge h]
    constructor
    · simp only [List.map_append, List.map_map]
      rfl
    · have hvertices : (outs.map (fun v ↦ (referred schema v).foreignKey .outward) ++
          ins.map fun v ↦ (referred schema v).foreignKey .inward).map ForeignKey.vertex =
          (outs ++ ins).map (referred schema) := by
        simp only [List.map_append, List.map_map]
        rfl
      simp only [hvertices, ← referred_eq_iff schema]
      conv_lhs => rw [← List.map_id (outs ++ ins), List.map_map, List.map_inj_left]
      rfl

/-- A label with a point in it, and the label of another schema that it looks like. -/
def pointedLabels : Topology :=
  (after { publicSchema := "s" } (.vertex "s" "a.b" [])).after (.vertex "s.a" "b" [])

/-- The table of the label is listed and not found, and an edge that is declared with it refers to
the other. -/
theorem refer_pointedLabels : ⟨"s", "V_a.b"⟩ ∈ pointedLabels.tableList ∧
    pointedLabels.resolve "s.V_a.b" ≠ .ok ⟨"s", "V_a.b"⟩ ∧
    ∃ t', pointedLabels.addEdge "s" "e" [⟨"s", "V_a.b"⟩] [] [] = .declared t' ∧
      (t'.foreignKeys (.edge "s" "e")).map ForeignKey.vertex = [⟨"s.a", "V_b"⟩] := by
  have hreachable : pointedLabels.Reachable := .declared (.declared (.undeclared "s") _) _
  obtain ⟨hshown, -, hedges⟩ := hreachable.resolve_and_refer_iff
  have hlisted : ⟨"s", "V_a.b"⟩ ∈ pointedLabels.tableList :=
    mem_tableList_iff.mpr (Option.isSome_iff_exists.mp (by decide +kernel))
  have hedge : pointedLabels.addEdge "s" "e" [⟨"s", "V_a.b"⟩] [] [] =
      .declared (pointedLabels.after (.edge "s" "e" [⟨"s", "V_a.b"⟩] [] [])) := rfl
  refine ⟨hlisted, (hshown _ hlisted).not.mpr fun h ↦ h.name (by decide), _, hedge, ?_⟩
  have hkeys := congrArg (List.map Prod.fst) (hedges _ _ _ _ _ _ hedge).1
  rw [List.map_map] at hkeys
  exact hkeys.trans (by decide +kernel)

end Topology

end PathQuery
