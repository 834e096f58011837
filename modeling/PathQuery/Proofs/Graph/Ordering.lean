import Mathlib.Data.List.Perm.Basic
import Mathlib.Data.Option.Basic
import PathQuery.Proofs.Graph.Meaning

/-!
# The order of declarations

A set of declarations is a mapping of mappings, which are gone through in no particular order, and
twice: for the vertex labels and then for the edge labels. Lists of declarations fix an order, the
same for both passes. The order is of no consequence. A pass puts every table under a key of its
own, so its outcome is a matter of which labels can have their tables, and the only thing that the
table of an edge needs to know of the others is whether its vertices are declared, which is settled
before the first edge.
-/

namespace PathQuery

/-! ## Orders -/

/-- The same labels of a schema in another order. -/
structure SchemaLabels.Reorders (l l' : SchemaLabels) : Prop where
  /-- The vertex labels are the same. -/
  vertices : l.vertices.Perm l'.vertices
  /-- The edge labels are the same. -/
  edges : l.edges.Perm l'.edges

namespace Declarations

/-- The entry of a schema with its labels in another order. -/
def EntryReorders (x y : String × Option SchemaLabels) : Prop :=
  x.1 = y.1 ∧ Option.Rel SchemaLabels.Reorders x.2 y.2

/-- The same declarations in another order of the schemas, and of the labels of each. -/
def Reorders (d e : Declarations) : Prop :=
  ∃ mid : Declarations, d.Perm mid ∧ List.Forall₂ EntryReorders mid e

variable {d e : Declarations}

theorem EntryReorders.labels {x y : String × Option SchemaLabels} (h : EntryReorders x y) :
    (x.2.getD {}).Reorders (y.2.getD {}) := by
  obtain ⟨schema, labels⟩ := x
  obtain ⟨schema', labels'⟩ := y
  obtain ⟨-, hlabels⟩ := h
  cases hlabels with
  | some hlabels => exact hlabels
  | none => exact ⟨.refl _, .refl _⟩

theorem perm_flatMap_of_entryReorders {α : Type} {f : String × Option SchemaLabels → List α}
    (hf : ∀ {x y}, EntryReorders x y → (f x).Perm (f y)) (h : List.Forall₂ EntryReorders d e) :
    (d.flatMap f).Perm (e.flatMap f) := by
  induction h with
  | nil => exact .refl _
  | cons hxy _ ih =>
    rw [List.flatMap_cons, List.flatMap_cons]
    exact (hf hxy).append ih

namespace Reorders

/-- The schemas may be in another order while the labels of each stay as they are. -/
theorem of_perm (h : d.Perm e) : d.Reorders e := by
  have hlabels : ∀ labels : Option SchemaLabels, Option.Rel SchemaLabels.Reorders labels labels
    | none => .none
    | some _ => .some ⟨.refl _, .refl _⟩
  exact ⟨e, h, List.forall₂_same.mpr fun x _ ↦ ⟨rfl, hlabels x.2⟩⟩

theorem perm_vertexLabels (h : d.Reorders e) : d.vertexLabels.Perm e.vertexLabels := by
  obtain ⟨mid, hperm, hentries⟩ := h
  refine (hperm.flatMap_right _).trans (perm_flatMap_of_entryReorders (fun {x y} hxy ↦ ?_) hentries)
  obtain ⟨schema, labels⟩ := x
  obtain ⟨_, labels'⟩ := y
  obtain rfl : schema = _ := hxy.1
  exact hxy.labels.vertices.map _

theorem perm_edgeLabels (h : d.Reorders e) : d.edgeLabels.Perm e.edgeLabels := by
  obtain ⟨mid, hperm, hentries⟩ := h
  refine (hperm.flatMap_right _).trans (perm_flatMap_of_entryReorders (fun {x y} hxy ↦ ?_) hentries)
  obtain ⟨schema, labels⟩ := x
  obtain ⟨_, labels'⟩ := y
  obtain rfl : schema = _ := hxy.1
  exact hxy.labels.edges.map _

theorem perm_vertexMeanings (h : d.Reorders e) : d.vertexMeanings.Perm e.vertexMeanings :=
  h.perm_vertexLabels.map _

/-- The order has no bearing on what the labels say. -/
theorem alike (h : d.Reorders e) : d.Alike e := fun _ ↦
  (h.perm_vertexMeanings.append (h.perm_edgeLabels.map edgeMeaning)).mem_iff

theorem unique (h : d.Reorders e) (hd : d.Unique) : e.Unique := by
  obtain ⟨mid, hperm, hentries⟩ := h
  have hentry : ∀ y ∈ e, ∃ x ∈ d, EntryReorders x y := by
    intro y hy
    obtain ⟨x, hx, hxy⟩ := exists_of_mem_forall₂ hentries.flip hy
    exact ⟨x, hperm.mem_iff.mpr hx, hxy⟩
  have hschemas : mid.map Prod.fst = e.map Prod.fst := by
    rw [← List.forall₂_eq_eq_eq, List.forall₂_map_left_iff, List.forall₂_map_right_iff]
    exact hentries.imp fun _ _ hxy ↦ hxy.1
  refine ⟨hschemas ▸ (hperm.map Prod.fst).nodup_iff.mp hd.schemas, fun y hy ↦ ?_, fun y hy ↦ ?_⟩
  · obtain ⟨x, hx, hxy⟩ := hentry y hy
    exact (hxy.labels.vertices.map Prod.fst).nodup_iff.mp (hd.vertices x hx)
  · obtain ⟨x, hx, hxy⟩ := hentry y hy
    exact (hxy.labels.edges.map Prod.fst).nodup_iff.mp (hd.edges x hx)

end Reorders

/-! ## Indexing in any order -/

section Orders

variable {v v' e' : Declarations} (hd : d.Unique) (hv : d.Reorders v) (he : d.Reorders e)

theorem perm_indexed_meanings (hv : d.Reorders v) (he : d.Reorders e) :
    (v.vertexMeanings ++ e.edgeLabels.map edgeMeaning).Perm d.meanings :=
  hv.perm_vertexMeanings.symm.append (he.perm_edgeLabels.symm.map edgeMeaning)

include hd hv he

theorem indexIn_reorders_eq_ok_iff {index : TableIndex} : indexIn v e = .ok index ↔
    List.Forall₂ d.Tabulates (v.vertexMeanings ++ e.edgeLabels.map edgeMeaning) index := by
  rw [indexIn_eq_ok_iff (hv.alike.symm.trans he.alike) (hv.unique hd) (he.unique hd),
    hv.alike.tabulates_eq]

/-- Declarations can be indexed in any order if they can in one, and the index has the same
entries. -/
theorem exists_perm_indexIn {index : TableIndex} (h : indexIn v e = .ok index)
    (hv' : d.Reorders v') (he' : d.Reorders e') :
    ∃ index', indexIn v' e' = .ok index' ∧ index.Perm index' := by
  rw [indexIn_reorders_eq_ok_iff hd hv he] at h
  have hperm := (perm_indexed_meanings hv he).trans (perm_indexed_meanings hv' he').symm
  obtain ⟨index', htabulates, hindex⟩ := List.perm_comp_forall₂ hperm.symm h
  exact ⟨index', (indexIn_reorders_eq_ok_iff hd hv' he').mpr htabulates, hindex.symm⟩

/-- Every table has one entry. -/
theorem nodup_keys_indexIn {index : TableIndex} (h : indexIn v e = .ok index) :
    (index.map Prod.fst).Nodup := by
  rw [indexIn_reorders_eq_ok_iff hd hv he] at h
  rw [map_fst_of_tabulates h]
  exact ((perm_indexed_meanings hv he).map Prod.fst).nodup_iff.mpr hd.nodup_meanings

/-- **An index does not depend on the order of the declarations.** Whatever the order in which
schemas and labels are gone through for the vertices, and that for the edges, the declarations are
indexed or they are refused; and if they are indexed, then every table has the same properties,
foreign keys and columns in every order. -/
theorem indexIn_independent (hv' : d.Reorders v') (he' : d.Reorders e') :
    ((∃ index, indexIn v e = .ok index) ↔ ∃ index, indexIn v' e' = .ok index) ∧
    ∀ index index', indexIn v e = .ok index → indexIn v' e' = .ok index' →
      index.Perm index' ∧ ∀ table, lookupKey table index = lookupKey table index' := by
  refine ⟨⟨?_, ?_⟩, fun index index' h h' ↦ ?_⟩
  · rintro ⟨index, h⟩
    obtain ⟨index', h', -⟩ := exists_perm_indexIn hd hv he h hv' he'
    exact ⟨index', h'⟩
  · rintro ⟨index, h⟩
    obtain ⟨index', h', -⟩ := exists_perm_indexIn hd hv' he' h hv he
    exact ⟨index', h'⟩
  · obtain ⟨_, hsame, hperm⟩ := exists_perm_indexIn hd hv he h hv' he'
    obtain rfl := Except.ok.inj (h'.symm.trans hsame)
    exact ⟨hperm, lookupKey_eq_of_perm hperm (nodup_keys_indexIn hd hv he h)⟩

end Orders

/-! ### Two schemas

An edge leads from a vertex of its own schema to one of the other. With the schemas the other way
round the index lists its tables in another order. Where two labels have faults, which of them is
told depends on the order.
-/

/-- Two schemas with an edge from one to the other, and a third without a definition. -/
def crossing : Declarations :=
  [("s", some {
      vertices := [("a", some { properties := [⟨"name", .string⟩] }), ("c", none)]
      edges := [("e", some { outs := ["a", "c"], ins := ["t.b"] })] }),
    ("t", some { vertices := [("b", some { properties := [⟨"at", .duration⟩] })] }),
    ("u", none)]

/-- Two vertex labels that cannot have their tables. -/
def faulty : Declarations :=
  [("s", some { vertices := [("a", some { properties := [⟨"", .string⟩] })] }),
    ("t", some { vertices := [("b", some { properties := [⟨"ID", .string⟩] })] })]

/-- The indexes differ as lists and not in what they hold; the faults that are told differ. -/
theorem indexIn_independent_crossing :
    (∃ index index', indexIn crossing crossing.reverse = .ok index ∧
      indexIn crossing.reverse crossing = .ok index' ∧
      index.map Prod.fst ≠ index'.map Prod.fst ∧
      index.Perm index' ∧ ∀ table, lookupKey table index = lookupKey table index') ∧
    indexIn faulty faulty = .error (.namelessProperty ⟨"s", "V_a"⟩) ∧
    indexIn faulty.reverse faulty = .error (.reservedName ⟨"t", "V_b"⟩) := by
  have hunique : crossing.Unique := ⟨by decide, by decide, by decide⟩
  have hsame : crossing.Reorders crossing := .of_perm (.refl _)
  have hreverse : crossing.Reorders crossing.reverse := .of_perm (List.reverse_perm _).symm
  obtain ⟨hexists, hindex⟩ := indexIn_independent hunique hsame hreverse hreverse hsame
  have hok : ∃ index, indexIn crossing crossing.reverse = .ok index := ⟨_, rfl⟩
  obtain ⟨index, h⟩ := hok
  obtain ⟨index', h'⟩ := hexists.mp ⟨index, h⟩
  refine ⟨⟨index, index', h, h', ?_, hindex index index' h h'⟩, rfl, rfl⟩
  obtain rfl := Except.ok.inj h
  obtain rfl := Except.ok.inj h'
  decide

end Declarations

end PathQuery
