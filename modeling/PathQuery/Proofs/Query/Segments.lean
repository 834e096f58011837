import PathQuery.Proofs.Graph.Columns
import PathQuery.Proofs.Query.Path

/-!
# Cuts of a path

A path is cut from its start on: a run goes on as long as it can, and the first step whose table it
has met already begins the next one. What comes out is a cut, that is, runs that make up the path
and repeat no table. There are others, but none has fewer runs. For the run under way ends only
where every cut has to have ended a run, so the first run of any cut ends there at the latest; what
is left of the cut covers the rest of the path, and taking away what it covers beyond that leaves a
cut of the rest with no more runs.
-/

namespace PathQuery

namespace Tree

variable {table : NodeId → Table} {run current ids : List NodeId} {runs : List (List NodeId)}
  {id : NodeId}

/-- Runs of steps make up a list of steps, and none of them repeats a table. -/
structure IsCut (table : NodeId → Table) (runs : List (List NodeId)) (ids : List NodeId) :
    Prop where
  /-- The runs are the list, one after the other. -/
  flatten : runs.flatten = ids
  /-- No run repeats a table. -/
  nodup : ∀ run ∈ runs, (run.map table).Nodup

/-- A run begins with a step whose table occurs in the run before it. -/
def Resumes (table : NodeId → Table) (before run : List NodeId) : Prop :=
  ∃ id rest, run = id :: rest ∧ table id ∈ before.map table

namespace IsCut

/-- The runs of a cut behind the first one. -/
theorem of_cons (h : IsCut table (run :: runs) ids) : IsCut table runs runs.flatten :=
  ⟨rfl, fun r hr ↦ h.nodup r (List.mem_cons_of_mem run hr)⟩

theorem cons (hrun : (run.map table).Nodup) (h : IsCut table runs ids) :
    IsCut table (run :: runs) (run ++ ids) :=
  ⟨by rw [List.flatten_cons, h.flatten], List.forall_mem_cons.mpr ⟨hrun, h.nodup⟩⟩

/-- A list without its first step can be cut into as few runs. -/
theorem exists_tail (h : IsCut table runs (id :: ids)) :
    ∃ runs', IsCut table runs' ids ∧ runs'.length ≤ runs.length := by
  induction runs with
  | nil => cases h.flatten
  | cons run runs ih =>
    cases run with
    | nil =>
      obtain ⟨runs', hcut, hlength⟩ := ih ⟨h.flatten, h.of_cons.nodup⟩
      exact ⟨runs', hcut, hlength.trans (Nat.le_succ _)⟩
    | cons first run =>
      obtain ⟨rfl, hrest⟩ := List.cons_eq_cons.mp h.flatten
      have hrun : (run.map table).Nodup := (h.nodup _ List.mem_cons_self).of_cons
      exact ⟨run :: runs, hrest ▸ h.of_cons.cons hrun, le_rfl⟩

/-- A list without a front can be cut into as few runs. -/
theorem exists_drop {front : List NodeId} (h : IsCut table runs (front ++ ids)) :
    ∃ runs', IsCut table runs' ids ∧ runs'.length ≤ runs.length := by
  induction front generalizing runs with
  | nil => exact ⟨runs, h, le_rfl⟩
  | cons id front ih =>
    obtain ⟨runs₁, hcut₁, hlength₁⟩ := h.exists_tail
    obtain ⟨runs₂, hcut₂, hlength₂⟩ := ih hcut₁
    exact ⟨runs₂, hcut₂, hlength₂.trans hlength₁⟩

end IsCut

/-! ## What cutting comes to -/

theorem cutRuns_eq_append (table : NodeId → Table) (done : List (List NodeId))
    (current ids : List NodeId) :
    cutRuns table done current ids = done.reverse ++ cutRuns table [] current ids := by
  induction ids generalizing done current with
  | nil => simp [cutRuns]
  | cons id ids ih =>
    rw [cutRuns, cutRuns]
    split
    · rw [ih (current.reverse :: done), ih [current.reverse]]
      simp
    · exact ih done (id :: current)

theorem cutRuns_of_mem (hmet : table id ∈ current.map table) :
    cutRuns table [] current (id :: ids) = current.reverse :: cutRuns table [] [id] ids := by
  rw [cutRuns, if_pos (by simpa using hmet), cutRuns_eq_append]
  rfl

theorem cutRuns_of_notMem (hnew : table id ∉ current.map table) :
    cutRuns table [] current (id :: ids) = cutRuns table [] (id :: current) ids := by
  rw [cutRuns, if_neg (by simpa using hnew)]

/-- Cutting only adds to the run under way, and what comes out is a cut. -/
theorem exists_cutRuns_eq (hcurrent : (current.map table).Nodup) (ids : List NodeId) :
    ∃ more runs, cutRuns table [] current ids = (current.reverse ++ more) :: runs ∧
      IsCut table ((current.reverse ++ more) :: runs) (current.reverse ++ ids) ∧
        ((current.reverse ++ more) :: runs).IsChain (Resumes table) := by
  induction ids generalizing current with
  | nil =>
    refine ⟨[], [], by simp [cutRuns], ⟨by simp, ?_⟩, .singleton _⟩
    simpa [List.map_reverse] using hcurrent
  | cons id ids ih =>
    by_cases hmet : table id ∈ current.map table
    · have hone : ([id].map table).Nodup := List.nodup_singleton _
      obtain ⟨more, runs, heq, hcut, hchain⟩ := ih hone
      refine ⟨[], ([id].reverse ++ more) :: runs, ?_, ?_, ?_⟩
      · rw [cutRuns_of_mem hmet, heq, List.append_nil]
      · rw [List.append_nil]
        refine hcut.cons ?_
        rwa [List.map_reverse, List.nodup_reverse]
      · refine .cons_cons ⟨id, more, rfl, ?_⟩ hchain
        simpa using hmet
    · have hlonger : ((id :: current).map table).Nodup := List.nodup_cons.mpr ⟨hmet, hcurrent⟩
      obtain ⟨more, runs, heq, hcut, hchain⟩ := ih hlonger
      rw [List.reverse_cons, List.append_assoc] at heq hcut hchain
      rw [List.append_assoc] at hcut
      exact ⟨id :: more, runs, (cutRuns_of_notMem hmet).trans heq, hcut, hchain⟩

/-- A run of a cut ends before the first step whose table it has met. -/
theorem IsCut.exists_front (h : IsCut table (run :: runs) (current.reverse ++ id :: ids))
    (hmet : table id ∈ current.map table) : ∃ front, runs.flatten = front ++ id :: ids := by
  have hflatten : run ++ runs.flatten = current.reverse ++ id :: ids := h.flatten
  obtain ⟨front, -, hrest⟩ | ⟨more, hrun, hrest⟩ := List.append_eq_append_iff.mp hflatten
  · exact ⟨front, hrest⟩
  · cases more with
    | nil => exact ⟨[], hrest.symm⟩
    | cons first more =>
      -- the run would have the step and one with its table before it
      obtain ⟨rfl, -⟩ := List.cons_eq_cons.mp hrest
      have hnodup := h.nodup run List.mem_cons_self
      rw [hrun, List.map_append, List.map_cons] at hnodup
      have hmem : table id ∈ current.reverse.map table := by simpa using hmet
      exact absurd rfl ((List.nodup_append.mp hnodup).2.2 _ hmem _ List.mem_cons_self)

/-- No cut has fewer runs. -/
theorem length_cutRuns_le (hcurrent : current ≠ [])
    (h : IsCut table runs (current.reverse ++ ids)) :
    (cutRuns table [] current ids).length ≤ runs.length := by
  induction ids generalizing current runs with
  | nil =>
    cases runs with
    | nil => exact absurd h.flatten.symm (by simpa using hcurrent)
    | cons run runs => simp [cutRuns]
  | cons id ids ih =>
    by_cases hmet : table id ∈ current.map table
    · cases runs with
      | nil => exact absurd h.flatten.symm (by simp)
      | cons run runs =>
        obtain ⟨front, hfront⟩ := h.exists_front hmet
        obtain ⟨runs', hcut, hlength⟩ := (hfront ▸ h.of_cons).exists_drop
        rw [cutRuns_of_mem hmet, List.length_cons, List.length_cons]
        exact Nat.succ_le_succ ((ih (List.cons_ne_nil id []) hcut).trans hlength)
    · rw [cutRuns_of_notMem hmet]
      refine ih (List.cons_ne_nil id current) ?_
      rwa [List.reverse_cons, List.append_assoc]

/-! ## Segments -/

variable (t : Tree) {p : Path}

/-- The segments of a path are a cut of its steps, and each resumes a table of the one before. -/
theorem isCut_segments (p : Path) : IsCut t.tableOf (t.segments p) p.nodes ∧
    (t.segments p).IsChain (Resumes t.tableOf) := by
  have hnil : (([] : List NodeId).map t.tableOf).Nodup := List.nodup_nil
  obtain ⟨more, runs, heq, hcut, hchain⟩ := exists_cutRuns_eq hnil p.nodes
  rw [segments, heq]
  exact ⟨hcut, hchain⟩

theorem length_segments_le (hne : p.nodes ≠ []) {runs : List (List NodeId)}
    (h : IsCut t.tableOf runs p.nodes) : (t.segments p).length ≤ runs.length := by
  rw [segments]
  cases hnodes : p.nodes with
  | nil => exact absurd hnodes hne
  | cons id ids =>
    rw [cutRuns_of_notMem List.not_mem_nil]
    refine length_cutRuns_le (List.cons_ne_nil id []) ?_
    rwa [hnodes] at h

/-- A path is cut if and only if a table repeats on it. -/
theorem one_lt_length_segments_iff : 1 < (t.segments p).length ↔ ¬(t.pathTables p).Nodup := by
  obtain ⟨hcut, -⟩ := t.isCut_segments p
  rw [← Nat.not_le, not_iff_not]
  constructor
  · intro hlength
    obtain ⟨run, hrun⟩ : ∃ run, t.segments p = [run] := by
      obtain ⟨run, runs, hsegments⟩ := List.exists_cons_of_ne_nil (t.segments_ne_nil p)
      rw [hsegments, List.length_cons, Nat.succ_le_succ_iff, Nat.le_zero,
        List.length_eq_zero_iff] at hlength
      exact ⟨run, hlength ▸ hsegments⟩
    rw [hrun] at hcut
    rw [pathTables, ← hcut.flatten, List.flatten_singleton]
    exact hcut.nodup run List.mem_cons_self
  · intro hnodup
    by_cases hne : p.nodes = []
    · rw [segments, hne]
      exact le_rfl
    · exact t.length_segments_le hne
        ⟨List.flatten_singleton, List.forall_mem_singleton.mpr hnodup⟩

/-- **The segments of a path are its fewest runs without a repeated table.** They have steps, make up
the path and repeat no table; each but the first begins with a step whose table occurs in the one
before; and no cut of the path has fewer runs. A path has duplicate tables exactly when some table
occurs on it twice. -/
theorem segments_fewest (hne : p.nodes ≠ []) :
    (∀ run ∈ t.segments p, run ≠ []) ∧ IsCut t.tableOf (t.segments p) p.nodes ∧
      (t.segments p).IsChain (Resumes t.tableOf) ∧
      (∀ runs, IsCut t.tableOf runs p.nodes → (t.segments p).length ≤ runs.length) ∧
      (t.hasDuplicateTables p = true ↔ ∃ table, 2 ≤ (t.pathTables p).count table) := by
  obtain ⟨hcut, hchain⟩ := t.isCut_segments p
  refine ⟨?_, hcut, hchain, fun runs ↦ t.length_segments_le hne, ?_⟩
  · obtain ⟨id, ids, hnodes⟩ := List.exists_cons_of_ne_nil hne
    rw [segments, hnodes, cutRuns_of_notMem List.not_mem_nil]
    exact ne_nil_of_mem_cutRuns (by simp) (by simp)
  · rw [hasDuplicateTables, decide_eq_true_eq, gt_iff_lt, one_lt_length_segments_iff,
      List.nodup_iff_count_le_one]
    push Not
    rfl

/-- A traversal over three edges that comes by an edge, and then by a vertex, for a second time. -/
def windingTree : Tree :=
  let grow (t : Tree) (table : Table) : Tree :=
    (t.addChild? (t.nodes.size - 1) { table := table }).getD t
  [⟨"s", "E_e"⟩, ⟨"s", "V_a"⟩, ⟨"s", "E_e"⟩, ⟨"s", "V_b"⟩, ⟨"s", "E_f"⟩, ⟨"s", "V_b"⟩].foldl grow
    (ofRoot none { table := ⟨"s", "V_a"⟩ })

/-- The path to its end is cut twice, and it cannot be cut into two runs. -/
theorem segments_windingTree :
    (windingTree.pathTo 6).nodes ≠ [] ∧
      windingTree.segments (windingTree.pathTo 6) = [[1, 2], [3, 4, 5], [6]] ∧
      (∀ runs, IsCut windingTree.tableOf runs (windingTree.pathTo 6).nodes → 3 ≤ runs.length) ∧
      windingTree.hasDuplicateTables (windingTree.pathTo 6) = true := by
  have hne : (windingTree.pathTo 6).nodes ≠ [] := by decide +kernel
  have hsegments : windingTree.segments (windingTree.pathTo 6) = [[1, 2], [3, 4, 5], [6]] := by
    decide +kernel
  obtain ⟨-, -, -, hfewest, -⟩ := segments_fewest windingTree hne
  rw [hsegments] at hfewest
  exact ⟨hne, hsegments, hfewest, by decide +kernel⟩

end Tree

end PathQuery
