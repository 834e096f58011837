import PathQuery.Proofs.Compile.Body
import PathQuery.Proofs.Relational.Match

/-!
# The rows of a run of steps

Evaluates the select of a run. Its steps are consecutive on the path, so a joined row is a list of
rows, placed from the position of the run's first step on, and joining one more step appends a
row. The branches of an optional path are joined last: a row with a partner in some branch carries
that partner's identity and is dropped, and a row without one is left as it was. What remains is a
walk over the steps, checked at its end.
-/

namespace PathQuery

/-! ## Joined rows as lists -/

/-- The joined row that has `rs` for the steps from the `k`-th on. -/
def JoinedRow.ofRows (k : ℕ) (rs : List Row) : JoinedRow
  | .step i => if k ≤ i then rs.getD (i - k) nullRow else nullRow
  | _ => nullRow

theorem JoinedRow.ofRows_step (k i : ℕ) (rs : List Row) :
    ofRows k rs (.step (k + i)) = rs.getD i nullRow := by
  rw [ofRows, if_pos (Nat.le_add_right k i), Nat.add_sub_cancel_left]

theorem JoinedRow.ofRows_nil (k : ℕ) : ofRows k [] = blank := by
  funext s
  cases s <;> simp [ofRows, blank]

theorem JoinedRow.update_ofRows (k : ℕ) (rs : List Row) (r : Row) :
    Function.update (ofRows k rs) (.step (k + rs.length)) r = ofRows k (rs ++ [r]) := by
  funext s
  by_cases hs : s = .step (k + rs.length)
  · subst hs
    rw [Function.update_self, ofRows_step]
    simp
  · rw [Function.update_of_ne hs]
    cases s with
    | step i =>
      have hne : i ≠ k + rs.length := fun h ↦ hs (by rw [h])
      simp only [ofRows]
      split
      · next hle =>
        have hlt : i - k < rs.length ∨ rs.length < i - k := by omega
        rcases hlt with hlt | hlt
        · simp [List.getElem?_append_left hlt]
        · have hout : rs.length + 1 ≤ i - k := hlt
          simp [List.getElem?_eq_none (Nat.le_of_lt hlt),
            List.getElem?_eq_none (show (rs ++ [r]).length ≤ i - k by simpa using hout)]
      · rfl
    | branch | membership | segment => rfl

/-- The steps are those of a path from the `k`-th on. -/
def Path.Places (p : Path) (k : ℕ) (ids : List NodeId) : Prop :=
  ∀ i id, ids[i]? = some id → p.source id = .step (k + i)

theorem Path.Places.cons_iff {p : Path} {k : ℕ} {id : NodeId} {ids : List NodeId} :
    p.Places k (id :: ids) ↔ p.source id = .step k ∧ p.Places (k + 1) ids := by
  constructor
  · intro h
    refine ⟨h 0 id rfl, fun i id' hid' ↦ ?_⟩
    rw [h (i + 1) id' hid', Nat.add_right_comm, Nat.add_assoc]
  · rintro ⟨hid, hids⟩ (_ | i) id' hid'
    · obtain rfl : id = id' := by simpa using hid'
      exact hid
    · rw [hids i id' hid', Nat.add_right_comm, Nat.add_assoc]

/-! ## Joining step after step -/

namespace Join

variable {db : RowStore}

theorem extendAll_eq_bind (js : List Join) (es : Multiset JoinedRow) :
    extendAll db js es = es.bind fun e ↦ extendAll db js {e} := by
  induction js generalizing es with
  | nil => simpa [extendAll] using (Multiset.bind_singleton es fun e ↦ e).symm
  | cons j js ih =>
    rw [extendAll, List.foldl_cons, ← extendAll, ih, Multiset.bind_assoc]
    refine Multiset.bind_congr fun e _ ↦ ?_
    rw [extendAll, List.foldl_cons, ← extendAll, Multiset.singleton_bind, ← ih]

theorem extendAll_cons (j : Join) (js : List Join) (e : JoinedRow) :
    extendAll db (j :: js) {e} = (j.extend db e).bind fun e ↦ extendAll db js {e} := by
  rw [extendAll, List.foldl_cons, ← extendAll, Multiset.singleton_bind, extendAll_eq_bind]

theorem extendAll_append (js js' : List Join) (es : Multiset JoinedRow) :
    extendAll db (js ++ js') es = (extendAll db js es).bind fun e ↦ extendAll db js' {e} := by
  rw [extendAll, List.foldl_append, ← extendAll, ← extendAll, extendAll_eq_bind]

/-- A join changes only the source it becomes. -/
theorem apply_of_mem_extendAll {js : List Join} {e e' : JoinedRow}
    (h : e' ∈ extendAll db js {e}) {s : Source} (hs : s ∉ js.map (·.source)) : e' s = e s := by
  induction js generalizing e with
  | nil => rw [Multiset.mem_singleton.mp h]
  | cons j js ih =>
    rw [extendAll_cons] at h
    obtain ⟨e₁, he₁, he'⟩ := Multiset.mem_bind.mp h
    obtain ⟨hj, hjs⟩ : s ≠ j.source ∧ s ∉ js.map (·.source) := by simpa using hs
    obtain ⟨r, -, rfl⟩ := Multiset.mem_map.mp he₁
    rw [ih he' hjs, Function.update_of_ne hj]

/-! ## Dropping rows that have a partner -/

/-- Requiring that no partner be found leaves a row as it was if it has none and drops it
otherwise. -/
theorem filter_absences {js : List Join} {e : JoinedRow}
    (hleft : ∀ j ∈ js, j.kind = .left) (hnull : ∀ j ∈ js, e j.source = nullRow)
    (hnodup : (js.map (·.source)).Nodup)
    (hidentified : ∀ j ∈ js, ∀ r ∈ db.relation j.relation, ¬(r idColumn).isNull) :
    (extendAll db js {e}).filter (Condition.allHold db (absences js)) =
      if ∀ j ∈ js, (j.partners db e).card = 0 then {e} else 0 := by
  induction js with
  | nil => simp [extendAll, absences, Condition.allHold_iff]
  | cons j js ih =>
    obtain ⟨hkind, hleft⟩ := List.forall_mem_cons.mp hleft
    obtain ⟨hj, hnull⟩ := List.forall_mem_cons.mp hnull
    obtain ⟨hfresh, hnodup⟩ := List.nodup_cons.mp hnodup
    obtain ⟨hidentity, hidentified⟩ := List.forall_mem_cons.mp hidentified
    rw [extendAll_cons, extend, hkind]
    simp only [orNull, Multiset.bind_map, List.forall_mem_cons]
    by_cases hnone : (j.partners db e).card = 0
    · rw [if_pos hnone, Multiset.singleton_bind, ← hj, Function.update_eq_self]
      have habsent : ∀ e' ∈ extendAll db js {e},
          (Condition.allHold db (absences (j :: js)) e' ↔
            Condition.allHold db (absences js) e') := by
        intro e' he'
        have hrow := apply_of_mem_extendAll he' hfresh
        simp [absences, Condition.allHold_iff, Condition.truth, ColumnRef.value, hrow, hj, nullRow,
          Value.isNull]
      rw [Multiset.filter_congr habsent, ih hleft hnull hnodup hidentified]
      simp only [hnone, true_and]
    · rw [if_neg hnone, if_neg (fun h ↦ hnone h.1), Multiset.filter_eq_nil]
      intro e' he' habsent
      obtain ⟨r, hr, he'⟩ := Multiset.mem_bind.mp he'
      have hrow : e' j.source = r := by
        rw [apply_of_mem_extendAll he' hfresh, Function.update_self]
      have hisNull := Condition.allHold_iff.mp habsent (.isNull ⟨j.source, idColumn⟩) (by
        simp [absences])
      rw [Condition.truth, Truth.ofBool_eq_yes_iff, ColumnRef.value, hrow] at hisNull
      exact hidentity r (Multiset.mem_of_mem_filter hr) hisNull

end Join

namespace Tree

variable {t : Tree} {db : RowStore} {p : Path}

/-- The rows of a step that are correlated with a row above. -/
def followers (t : Tree) (db : RowStore) (id : NodeId) (above : Row) : Multiset Row :=
  (t.rowsAt db id).filter (t.Correlates db id above)

theorem followers_nullRow (t : Tree) (db : RowStore) (id : NodeId) :
    t.followers db id nullRow = 0 := by
  rw [followers, Multiset.filter_eq_nil]
  exact fun r _ ↦ t.not_correlates_nullRow db id r

/-- The join of a step that has been found below another. -/
theorem stepJoin_eq_ok {id above : NodeId} {j : Join} (h : t.stepJoin p id = .ok j)
    (hparent : t.IsParent above id) :
    ∃ c, t.parentCorrelation id = .ok c ∧ j = {
      kind := .left
      relation := .table (t.nodeAt id).table
      source := p.source id
      conditions := [.same ⟨p.source above, c.above⟩ ⟨p.source id, c.below⟩] } := by
  obtain ⟨n, hn, h₁⟩ := bind_eq_ok_iff.mp h
  have hnode := liveNode_eq_ok_iff.mp hn
  have habove := (isParent_of_some hnode).mp hparent
  rw [habove, Option.getD_some] at h₁
  obtain ⟨m, hm, h₂⟩ := bind_eq_ok_iff.mp h₁
  obtain ⟨c, hc, h₃⟩ := bind_eq_ok_iff.mp h₂
  refine ⟨c, parentCorrelation_eq_ok hn habove hm hc, ?_⟩
  rw [nodeAt_of_some hnode]
  exact (Except.ok.inj h₃).symm

/-- Joining a step appends one of its followers, or a null. -/
theorem extend_stepJoin {id above : NodeId} {j : Join} {k : ℕ} {rs : List Row}
    (h : t.stepJoin p id = .ok j) (hparent : t.IsParent above id)
    (hsource : p.source id = .step (k + rs.length)) (hne : p.source above ≠ p.source id) :
    j.extend db (.ofRows k rs) =
      (orNull (t.followers db id (JoinedRow.ofRows k rs (p.source above)))).map
        fun r ↦ .ofRows k (rs ++ [r]) := by
  obtain ⟨c, hc, rfl⟩ := stepJoin_eq_ok h hparent
  have hpartners : ∀ r, Condition.allHold db
      [.same ⟨p.source above, c.above⟩ ⟨p.source id, c.below⟩]
      (Function.update (JoinedRow.ofRows k rs) (p.source id) r) ↔
        t.Correlates db id (JoinedRow.ofRows k rs (p.source above)) r := by
    intro r
    rw [correlates_iff hc, Condition.allHold_iff]
    simp [Condition.truth, ColumnRef.value, Function.update_of_ne hne]
  rw [Join.extend, followers, rowsAt]
  simp only [Join.partners, hpartners, RowStore.relation]
  refine Multiset.map_congr rfl fun r _ ↦ ?_
  rw [hsource, JoinedRow.update_ofRows]

/-- Joining some steps appends a walk over them, with nulls where it loses its track. -/
theorem extendAll_stepJoins {above : NodeId} {ids : List NodeId} {js : List Join} {k : ℕ}
    (rs : List Row) (r : Row) (h : t.stepJoins p ids = .ok js)
    (hchain : (above :: ids).IsChain t.IsParent) (hplaces : p.Places (k + rs.length) (above :: ids)) :
    Join.extendAll db js {.ofRows k (rs ++ [r])} =
      (walks (fun id r ↦ orNull (t.followers db id r)) r ids).map
        fun rs' ↦ .ofRows k (rs ++ [r] ++ rs') := by
  induction ids generalizing above js rs r with
  | nil =>
    obtain rfl : js = [] := by simpa [stepJoins, pure, Except.pure] using h.symm
    simp [Join.extendAll, walks]
  | cons id ids ih =>
    obtain ⟨j, js, hj, hjs, rfl⟩ := List.forall₂_cons_left_iff.mp (mapM_eq_ok_iff.mp h)
    obtain ⟨hparent, hrest⟩ := List.isChain_cons_cons.mp hchain
    obtain ⟨hsource, hplaces⟩ := Path.Places.cons_iff.mp hplaces
    obtain ⟨hid, -⟩ := Path.Places.cons_iff.mp hplaces
    have hlength : k + (rs ++ [r]).length = k + rs.length + 1 := by
      rw [List.length_append, List.length_singleton, Nat.add_assoc]
    have hrow : JoinedRow.ofRows k (rs ++ [r]) (p.source above) = r := by
      rw [hsource, JoinedRow.ofRows_step]
      simp
    have hne : p.source above ≠ p.source id := by
      rw [hsource, hid]
      simp
    rw [Join.extendAll_cons, extend_stepJoin hj hparent (hlength ▸ hid) hne, hrow,
      Multiset.bind_map, walks, Multiset.map_bind]
    refine Multiset.bind_congr fun r' _ ↦ ?_
    rw [ih _ r' (mapM_eq_ok_iff.mpr hjs) hrest (hlength ▸ hplaces), Multiset.map_map]
    simp

end Tree

/-! ## Filters of a run -/

theorem FilterSite.truth_iff {t : Tree} {d : Dialect} {bulk : Bool} {x : FilterSite}
    {form : FilterForm} (db : RowStore) (e : JoinedRow) (h : x.form t d bulk = .ok form)
    (hinline : ∀ column type without, x.form t d bulk ≠ .ok (.member column type without)) :
    (∀ c ∈ x.condition? t d bulk, c.truth db e = .yes) ↔
      x.filter.truth db (t.nodeAt x.node).table (e x.source) = .yes := by
  rw [FilterSite.condition?_of_form h]
  refine (Filter.truth_iff_of_form db e h ?_).symm
  rintro column type without rfl
  exact hinline column type without h

/-- The conditions of some sites hold of a row exactly when their filters are true on it. -/
theorem Condition.allHold_filterMap_sites {t : Tree} {d : Dialect} {bulk : Bool}
    {xs : List FilterSite} {db : RowStore} {e : JoinedRow}
    (hformed : ∀ x ∈ xs, ∃ form, x.form t d bulk = .ok form)
    (hinline : ∀ x ∈ xs, ∀ column type without,
      x.form t d bulk ≠ .ok (.member column type without)) :
    Condition.allHold db (xs.filterMap (FilterSite.condition? t d bulk)) e ↔
      ∀ x ∈ xs, x.filter.truth db (t.nodeAt x.node).table (e x.source) = .yes := by
  rw [Condition.allHold_iff]
  constructor
  · intro h x hx
    obtain ⟨form, hform⟩ := hformed x hx
    refine (FilterSite.truth_iff db e hform (hinline x hx)).mp fun c hc ↦ h c ?_
    exact List.mem_filterMap.mpr ⟨x, hx, hc⟩
  · intro h c hc
    obtain ⟨x, hx, hcx⟩ := List.mem_filterMap.mp hc
    obtain ⟨form, hform⟩ := hformed x hx
    exact (FilterSite.truth_iff db e hform (hinline x hx)).mpr (h x hx) c hcx

namespace Tree

variable {t : Tree} {db : RowStore} {p : Path}

theorem forall_mem_sitesFrom {source : Source} {id : NodeId} {e : JoinedRow} :
    (∀ x ∈ t.sitesFrom source id,
        x.filter.truth db (t.nodeAt x.node).table (e x.source) = .yes) ↔
      t.Passes db id (e source) := by
  simp [sitesFrom, Passes]

theorem forall_mem_flatMap_sites {ids : List NodeId} {e : JoinedRow} :
    (∀ x ∈ ids.flatMap (t.sites p),
        x.filter.truth db (t.nodeAt x.node).table (e x.source) = .yes) ↔
      ∀ id ∈ ids, t.Passes db id (e (p.source id)) := by
  simp only [List.mem_flatMap, forall_exists_index, and_imp, sites, ← forall_mem_sitesFrom]
  exact ⟨fun h id hid x hx ↦ h x id hid hx, fun h x id hid hx ↦ h id hid x hx⟩

/-! ## Branches -/

/-- A row has partners in a branch exactly when it is not lonely for it. -/
theorem card_partners_branchJoin {d : Dialect} {above : Node} {id : NodeId} {i : ℕ} {j : Join}
    (habove : t.liveNode p.leaf = .ok above) (h : t.branchJoin d p above id i = .ok j)
    (e : JoinedRow) :
    (j.partners db e).card = 0 ↔ t.Lonely db id (e (p.source p.leaf)) := by
  obtain ⟨c, hc, hformed, rfl⟩ := branchJoin_eq_ok habove h
  rw [Multiset.card_eq_zero, Join.partners, Multiset.filter_eq_nil]
  refine forall₂_congr fun r _ ↦ not_congr ?_
  rw [show ∀ (c : Condition) cs, c :: cs = [c] ++ cs from fun _ _ ↦ rfl, Condition.allHold_append,
    Condition.allHold_filterMap_sites hformed fun _ _ _ _ _ ↦ Filter.form_ne_member,
    forall_mem_sitesFrom, Function.update_self, correlates_iff hc, Condition.allHold_iff]
  have hsource : p.source p.leaf ≠ Source.branch i := Source.noConfusion
  simp [Condition.truth, ColumnRef.value, Function.update_of_ne hsource]

/-- Requiring that every branch be absent keeps the rows that are lonely for all of them. -/
theorem filter_absences_branchJoins {d : Dialect} {branches : List NodeId} {js : List Join}
    (h : t.branchJoins d p branches = .ok js) (hdb : db.Identified) (k : ℕ) (rs : List Row) :
    (Join.extendAll db js {.ofRows k rs}).filter (Condition.allHold db (Join.absences js)) =
      if ∀ b ∈ branches, t.Lonely db b (JoinedRow.ofRows k rs (p.source p.leaf))
      then {.ofRows k rs} else 0 := by
  obtain ⟨above, habove, hjs⟩ := bind_eq_ok_iff.mp h
  have hshape : ∀ (x : NodeId × ℕ) j, t.branchJoin d p above x.1 x.2 = .ok j → j.kind = .left ∧
      j.source = .branch x.2 ∧ j.relation = .table (t.nodeAt x.1).table := by
    intro x j hj
    obtain ⟨c, -, -, rfl⟩ := branchJoin_eq_ok habove hj
    exact ⟨rfl, rfl, rfl⟩
  have hjoin := exists_of_mem_right_of_mapM_eq_ok hjs
  have hnodup : (js.map (·.source)).Nodup := by
    rw [map_eq_map_of_mapM_eq_ok hjs fun x j hj ↦ (hshape x j hj).2.1]
    change (branches.zipIdx.map (Source.branch ∘ Prod.snd)).Nodup
    rw [← List.map_map, List.zipIdx_map_snd]
    exact List.Nodup.map (fun _ _ ↦ Source.branch.inj) List.nodup_range'
  rw [Join.filter_absences]
  · have hlonely : (∀ j ∈ js, (j.partners db (.ofRows k rs)).card = 0) ↔
        ∀ b ∈ branches, t.Lonely db b (JoinedRow.ofRows k rs (p.source p.leaf)) := by
      constructor
      · intro hnone b hb
        obtain ⟨i, hi, rfl⟩ := List.getElem_of_mem hb
        obtain ⟨j, hj, heq⟩ := exists_of_mem_of_mapM_eq_ok hjs (branches[i], i)
          (List.mk_mem_zipIdx_iff_getElem?.mpr (List.getElem?_eq_getElem hi))
        exact (card_partners_branchJoin habove heq _).mp (hnone j hj)
      · intro hlonely j hj
        obtain ⟨x, hx, heq⟩ := hjoin j hj
        exact (card_partners_branchJoin habove heq _).mpr
          (hlonely x.1 (List.fst_mem_of_mem_zipIdx hx))
    simp only [hlonely]
  · intro j hj
    obtain ⟨x, -, heq⟩ := hjoin j hj
    exact (hshape x j heq).1
  · intro j hj
    obtain ⟨x, -, heq⟩ := hjoin j hj
    rw [(hshape x j heq).2.1]
    rfl
  · exact hnodup
  · intro j hj r hr
    obtain ⟨x, -, heq⟩ := hjoin j hj
    rw [(hshape x j heq).2.2] at hr
    exact hdb _ r hr

end Tree

namespace Run

/-- The walks over a run, with nulls where one loses its track. -/
def leftWalks (t : Tree) (db : RowStore) (first : NodeId) (rest : List NodeId) :
    Multiset (List Row) :=
  (t.rowsAt db first).bind fun r ↦
    (walks (fun id r ↦ orNull (t.followers db id r)) r rest).map (r :: ·)

theorem length_of_mem_leftWalks {t : Tree} {db : RowStore} {first : NodeId} {rest : List NodeId}
    {rs : List Row} (h : rs ∈ leftWalks t db first rest) : rs.length = rest.length + 1 := by
  obtain ⟨r, -, hr⟩ := Multiset.mem_bind.mp h
  obtain ⟨rs', hrs', rfl⟩ := Multiset.mem_map.mp hr
  rw [List.length_cons, length_of_mem_walks hrs']

/-- What the select of a run asks of a walk over it. -/
structure Keeps (t : Tree) (db : RowStore) (branches : List NodeId) (r : Run) (rs : List Row) :
    Prop where
  /-- The first run starts where the traversal does. -/
  starts : r.starts → t.StartsAt db (rs.headD nullRow)
  /-- Every filter is true on its row. -/
  passes : List.Forall₂ (t.Passes db) r.ids rs
  /-- The end of the last run is lonely for all branches. -/
  ends : r.ends → ∀ b ∈ branches, t.Lonely db b (rs.getLastD nullRow)

theorem keeps_iff {t : Tree} {db : RowStore} {branches : List NodeId} {r : Run} {rs : List Row} :
    r.Keeps t db branches rs ↔ (r.starts → t.StartsAt db (rs.headD nullRow)) ∧
      List.Forall₂ (t.Passes db) r.ids rs ∧
      (r.ends → ∀ b ∈ branches, t.Lonely db b (rs.getLastD nullRow)) :=
  ⟨fun h ↦ ⟨h.starts, h.passes, h.ends⟩, fun h ↦ ⟨h.1, h.2.1, h.2.2⟩⟩

instance (t : Tree) (db : RowStore) (branches : List NodeId) (r : Run) (rs : List Row) :
    Decidable (r.Keeps t db branches rs) :=
  decidable_of_iff _ keeps_iff.symm

/-- A run is a stretch of a path that begins with its `k`-th step. -/
structure Stretches (t : Tree) (p : Path) (k : ℕ) (r : Run) (first : NodeId)
    (rest : List NodeId) : Prop where
  /-- Its steps. -/
  ids : r.ids = first :: rest
  /-- Each stands right above the next. -/
  chain : (first :: rest).IsChain t.IsParent
  /-- They have their places on the path. -/
  places : p.Places k (first :: rest)
  /-- The first run begins with the root. -/
  starts : r.starts → first = rootId
  /-- The last run ends with the projected step. -/
  ends : r.ends → p.leaf = rest.getLastD first

end Run

namespace Run

variable {t : Tree} {db : RowStore}

theorem filter_passes_followers {id : NodeId} (hne : id ≠ rootId) (above : Row) :
    (t.followers db id above).filter (t.Passes db id) = t.partners db id above := by
  rw [Tree.followers, Multiset.filter_filter, Tree.partners]
  refine Multiset.filter_congr fun r _ ↦ ?_
  rw [Tree.Fits, if_neg hne, and_comm]

/-- Whatever looks at the end of the walks that a run keeps sees the partners of its steps. -/
theorem leftWalks_bind_keeps {branches : List NodeId} {r : Run} {first : NodeId}
    {rest : List NodeId} (hids : r.ids = first :: rest) (hroot : rootId ∉ rest) {β : Type}
    {f : List Row → Multiset β} (hf : ∀ rs, rs.getLast? = some nullRow → f rs = 0) :
    (leftWalks t db first rest).bind (fun rs ↦ if r.Keeps t db branches rs then f rs else 0) =
      (t.rowsAt db first).bind fun row ↦
        if (r.starts → t.StartsAt db row) ∧ t.Passes db first row then
          (walks (t.partners db) row rest).bind fun rs ↦
            if r.ends → ∀ b ∈ branches, t.Lonely db b ((row :: rs).getLastD nullRow)
            then f (row :: rs) else 0
        else 0 := by
  rw [leftWalks, Multiset.bind_assoc]
  refine Multiset.bind_congr fun row _ ↦ ?_
  rw [Multiset.bind_map, walks_orNull_bind (t.followers_nullRow db)]
  · have hkeeps : ∀ rs, r.Keeps t db branches (row :: rs) ↔
        ((r.starts → t.StartsAt db row) ∧ t.Passes db first row) ∧
          List.Forall₂ (t.Passes db) rest rs ∧
          (r.ends → ∀ b ∈ branches, t.Lonely db b ((row :: rs).getLastD nullRow)) := by
      intro rs
      rw [keeps_iff, hids, List.forall₂_cons, List.headD_cons]
      tauto
    simp only [hkeeps]
    by_cases hfirst : (r.starts → t.StartsAt db row) ∧ t.Passes db first row
    · rw [if_pos hfirst, ← walks_congr (fun id hid ↦ filter_passes_followers
        (ne_of_mem_of_not_mem hid hroot)), ← walks_filter_bind]
      simp only [eq_true hfirst, true_and, ite_and]
    · simp only [hfirst, false_and, if_false, Multiset.bind_zero]
  · intro rs hrs
    rw [hf _ (by rw [List.getLast?_cons, hrs, Option.getD_some]), ite_self]

end Run

namespace SelectParts

variable {parts : SelectParts} {c : Compiler} {t : Tree} {p : Path} {branches : List NodeId}
  {tables : List MembershipTable} {r : Run} {k : ℕ} {first : NodeId} {rest : List NodeId}
  {db : RowStore}

theorem ofRows_source {ids : List NodeId} {rs : List Row} (hplaces : p.Places k ids)
    (hlength : rs.length = ids.length) :
    List.Forall₂ (fun id r ↦ JoinedRow.ofRows k rs (p.source id) = r) ids rs := by
  refine List.forall₂_iff_get.mpr ⟨hlength.symm, fun i hi hi' ↦ ?_⟩
  rw [hplaces i _ (by rw [List.get_eq_getElem, List.getElem?_eq_getElem hi]),
    JoinedRow.ofRows_step, List.getD_eq_getElem?_getD, List.getElem?_eq_getElem hi',
    Option.getD_some, List.get_eq_getElem]

theorem forall_mem_iff_forall₂ {row : NodeId → Row} {P : NodeId → Row → Prop} {ids : List NodeId}
    {rs : List Row} (h : List.Forall₂ (fun id r ↦ row id = r) ids rs) :
    (∀ id ∈ ids, P id (row id)) ↔ List.Forall₂ P ids rs := by
  induction h with
  | nil => simp
  | cons hrow _ ih => rw [List.forall_mem_cons, List.forall₂_cons, ih, hrow]

/-- The conditions of a run's own steps hold of a walk exactly when it starts and passes. -/
theorem allHold_conditions_iff (db : RowStore) (fit : parts.Fit c t p branches tables r)
    (hinline : parts.clauses.tables = tables) (hr : r.Stretches t p k first rest) {rs : List Row}
    (hlength : rs.length = rest.length + 1) :
    Condition.allHold db ((if r.starts then t.startConditions p else []) ++
        parts.clauses.conditions) (.ofRows k rs) ↔
      (r.starts → t.StartsAt db (rs.headD nullRow)) ∧ List.Forall₂ (t.Passes db) r.ids rs := by
  obtain ⟨-, hconditions, hmember⟩ := fit.clauses.inline hinline
  have hrows := ofRows_source hr.places hlength
  rw [Condition.allHold_append]
  refine and_congr ?_ ?_
  · cases hstarts : r.starts with
    | false => simp [Condition.allHold_iff]
    | true =>
      obtain rfl := hr.starts hstarts
      obtain ⟨row, rs, rfl⟩ := List.exists_cons_of_length_eq_add_one hlength
      have hroot : JoinedRow.ofRows k (row :: rs) (p.source rootId) = row :=
        (List.forall₂_cons.mp hrows).1
      simp only [if_true, Tree.startConditions, Tree.StartsAt, true_implies, List.headD_cons]
      split
      · next hnull => simp [Condition.allHold_iff, hnull]
      · next hnull => simp [Condition.allHold_iff, Condition.truth, ColumnRef.value, hroot, hnull]
  · rw [hconditions, List.nil_append, Condition.allHold_filterMap_sites fit.clauses.formed hmember,
      Tree.forall_mem_flatMap_sites, hr.ids]
    exact forall_mem_iff_forall₂ hrows

/-- The joined rows of a run's own steps are walks over them. -/
theorem extendAll_chain (fit : parts.Fit c t p branches tables r)
    (hr : r.Stretches t p k first rest) :
    Join.extendAll db parts.chain
        ((db.rows (t.tableOf first)).map (Function.update JoinedRow.blank (p.source first))) =
      (Run.leftWalks t db first rest).map (.ofRows k) := by
  obtain ⟨n, hn⟩ := fit.live first (by simp [hr.ids])
  have hchain : t.stepJoins p rest = .ok parts.chain := by simpa [hr.ids] using fit.chain
  have hfirst : p.source first = .step k := (Path.Places.cons_iff.mp hr.places).1
  have htable : db.rows (t.tableOf first) = t.rowsAt db first := by
    rw [Tree.tableOf_of_some hn, Tree.rowsAt, Tree.nodeAt_of_some hn]
  rw [Join.extendAll_eq_bind, Multiset.bind_map, Run.leftWalks, Multiset.map_bind, htable]
  refine Multiset.bind_congr fun row _ ↦ ?_
  have hrow : Function.update JoinedRow.blank (p.source first) row =
      JoinedRow.ofRows k ([] ++ [row]) := by
    rw [hfirst, ← JoinedRow.update_ofRows, JoinedRow.ofRows_nil]
    rfl
  rw [hrow, Tree.extendAll_stepJoins [] row hchain hr.chain hr.places, Multiset.map_map]
  rfl

/-- The branches keep the walks whose end is lonely for all of them, in the last run. -/
theorem filter_absences_optional (fit : parts.Fit c t p branches tables r)
    (hr : r.Stretches t p k first rest) (hdb : db.Identified) {rs : List Row}
    (hlength : rs.length = rest.length + 1) :
    (Join.extendAll db parts.optional {.ofRows k rs}).filter
        (Condition.allHold db (Join.absences parts.optional)) =
      if r.ends → ∀ b ∈ branches, t.Lonely db b (rs.getLastD nullRow)
      then {.ofRows k rs} else 0 := by
  have hoptional := fit.optional
  cases hends : r.ends with
  | false =>
    have hnone : parts.optional = [] := by simpa [hends] using hoptional.symm
    simp [hnone, Join.extendAll, Join.absences, Condition.allHold_iff]
  | true =>
    have hlast : (first :: rest)[rest.length]? = some (rest.getLastD first) := by
      rw [List.getLastD_eq_getLast?, ← List.getLast?_cons, List.getLast?_eq_getElem?,
        List.length_cons, Nat.add_sub_cancel]
    have hleaf : JoinedRow.ofRows k rs (p.source p.leaf) = rs.getLastD nullRow := by
      rw [hr.ends hends, hr.places rest.length _ hlast, JoinedRow.ofRows_step,
        List.getLastD_eq_getLast?, List.getLast?_eq_getElem?, hlength, Nat.add_sub_cancel,
        List.getD_eq_getElem?_getD]
    rw [Tree.filter_absences_branchJoins (by simpa [hends] using hoptional) hdb, hleaf]
    simp

/-- The rows that the select of a run keeps. -/
theorem kept_select (fit : parts.Fit c t p branches tables r)
    (hinline : parts.clauses.tables = tables) (hr : r.Stretches t p k first rest)
    (hdb : db.Identified) (projected : List Projected) (order : List SortColumn) :
    (parts.select t p projected r order).kept db =
      (Run.leftWalks t db first rest).bind fun rs ↦
        if r.Keeps t db branches rs then {.ofRows k rs} else 0 := by
  have hjoins : parts.clauses.joins = [] := (fit.clauses.inline hinline).1
  have hfirst : r.ids.headD rootId = first := by rw [hr.ids, List.headD_cons]
  rw [Select.kept, select]
  simp only [hjoins, List.append_nil, hfirst]
  rw [Join.extendAll_append, extendAll_chain fit hr, Multiset.bind_map, Multiset.filter_bind]
  refine Multiset.bind_congr fun rs hrs ↦ ?_
  have hlength : rs.length = rest.length + 1 := Run.length_of_mem_leftWalks hrs
  -- the conditions on branches come last, so the others are asked of what those leave
  rw [Multiset.filter_congr fun e _ ↦ Condition.allHold_append, ← Multiset.filter_filter,
    filter_absences_optional fit hr hdb hlength]
  have hown := allHold_conditions_iff db fit hinline hr hlength
  by_cases hends : r.ends → ∀ b ∈ branches, t.Lonely db b (rs.getLastD nullRow)
  · have hkeeps : r.Keeps t db branches rs ↔ Condition.allHold db
        ((if r.starts then t.startConditions p else []) ++ parts.clauses.conditions)
        (.ofRows k rs) := by
      rw [Run.keeps_iff, hown]
      exact ⟨fun h ↦ ⟨h.1, h.2.1⟩, fun h ↦ ⟨h.1, h.2, hends⟩⟩
    simp only [if_pos hends, Multiset.filter_singleton, hkeeps]
    rfl
  · rw [if_neg hends, if_neg fun h ↦ hends (Run.keeps_iff.mp h).2.2, Multiset.filter_zero]

end SelectParts

end PathQuery
