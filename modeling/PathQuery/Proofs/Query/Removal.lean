import PathQuery.Proofs.Query.Arena

/-!
# Removing steps

Removing a step removes everything below it and then climbs: a step above goes too once it has lost
its last child, unless it emits or is the root. What is left does not depend on the order in which
steps are removed. A step stays exactly when it is the root or lies at or above a step that *stands
on its own*, because it emits or never had a child, with no removed step on the way down to it.
This set is the invariant of the climb: all that a removal under way may still have wrong are the
steps above the one it is at.
-/

namespace PathQuery

namespace Tree

variable {t u : Tree}

/-! ## Removing one step -/

theorem isLive_eq (t : Tree) (id : NodeId) :
    t.isLive id = (t.nodes[id]?.map fun n ↦ !n.removed).getD false := by
  rw [isLive, node?]
  cases t.nodes[id]? with
  | none => rfl
  | some n => cases hremoved : n.removed <;> simp [Option.filter_some, hremoved]

theorem lt_size_of_isLive {id : NodeId} (h : t.isLive id) : id < t.nodes.size := by
  by_contra hout
  rw [isLive_eq, Array.getElem?_eq_none (Nat.le_of_not_lt hout)] at h
  cases h

/-- What stands above a live step is live. -/
def Upward (t : Tree) : Prop :=
  ∀ {above id : NodeId}, t.IsParent above id → t.isLive id → t.isLive above

theorem Upward.isLive_of_mem_ancestors (h : Rooted t.skeleton) (hup : t.Upward) {a id : NodeId}
    (ha : a ∈ t.ancestors id) (hlive : t.isLive id) : t.isLive a := by
  induction id using Nat.strongRecOn with
  | ind id ih =>
    rcases (mem_ancestors_iff h).mp ha with rfl | ⟨above, hparent, ha⟩
    · exact hlive
    · exact ih above (hparent.lt h) ha (hup hparent hlive)

theorem isLive_of_mem_generations {fuel : ℕ} {ids : List NodeId} {id : NodeId}
    (hid : id ∈ t.generations fuel ids) : t.isLive id := by
  induction fuel generalizing ids with
  | zero => cases hid
  | succ fuel ih =>
    rw [generations] at hid
    split at hid
    · cases hid
    · rcases List.mem_append.mp hid with hhere | hbelow
      · exact (List.mem_filter.mp hhere).2
      · exact ih hbelow

/-- The walk meets exactly the live steps, when nothing is left below a removed one. -/
theorem mem_walk_iff (h : t.Built) (hup : t.Upward) {id : NodeId} :
    id ∈ t.walk ↔ t.isLive id := by
  refine ⟨isLive_of_mem_generations, fun hlive ↦ ?_⟩
  have hid := lt_size_of_isLive hlive
  obtain ⟨hchain, hleaf⟩ := isChain_pathTo h.rooted (Array.getElem?_eq_getElem hid)
  have hall : ∀ a ∈ (t.pathTo id).all, t.isLive a := by
    intro a ha
    rw [mem_all_pathTo_iff h.rooted hid] at ha
    exact hup.isLive_of_mem_ancestors h.rooted ha hlive
  have hlast := List.mem_of_getLast? (getLast?_all (t.pathTo id))
  rw [hleaf] at hlast
  exact mem_walk_of_isChain h hchain hall id hlast

/-- One tree is another, pruned. -/
structure Trims (t u : Tree) : Prop where
  /-- Steps have been removed and filters decided, and nothing else. -/
  frame : t.SameFrame u
  /-- Nothing is left below a removed step. -/
  upward : u.Upward

theorem Trims.isLive_above (htrims : t.Trims u) {above id : NodeId} (hparent : t.IsParent above id)
    (hlive : u.isLive id) : u.isLive above :=
  htrims.upward (htrims.frame.isParent.mpr hparent) hlive

theorem subtree_subset_succ (u : Tree) (fuel : ℕ) (ids : List NodeId) :
    u.subtree fuel ids ⊆ u.subtree (fuel + 1) ids := by
  induction fuel generalizing ids with
  | zero => exact List.nil_subset _
  | succ fuel ih =>
    rw [subtree, subtree]
    split
    · exact List.Subset.refl _
    · exact List.append_subset.mpr ⟨List.subset_append_left _ _,
        List.Subset.trans (ih _) (List.subset_append_right _ _)⟩

theorem subtree_subset (u : Tree) {fuel fuel' : ℕ} (hle : fuel ≤ fuel') (ids : List NodeId) :
    u.subtree fuel ids ⊆ u.subtree fuel' ids := by
  induction hle with
  | refl => exact List.Subset.refl _
  | step _ ih => exact List.Subset.trans ih (subtree_subset_succ u _ ids)

/-- With one more round a subtree takes in the live children of its steps. -/
theorem mem_subtree_of_child {above id : NodeId} (hchild : id ∈ u.listedBelow above)
    (hlive : u.isLive id) {fuel : ℕ} {ids : List NodeId} (habove : above ∈ u.subtree fuel ids) :
    id ∈ u.subtree (fuel + 1) ids := by
  induction fuel generalizing ids with
  | zero => cases habove
  | succ fuel ih =>
    rw [subtree] at habove
    rw [subtree]
    split at habove
    · cases habove
    · next hids =>
      rw [if_neg hids]
      refine List.mem_append_right _ ?_
      rcases List.mem_append.mp habove with hhere | hbelow
      · have hnext : id ∈ ids.flatMap fun i ↦
            ((u.nodes[i]?.map (·.children)).getD []).filter u.isLive :=
          List.mem_flatMap.mpr ⟨above, hhere, List.mem_filter.mpr ⟨hchild, hlive⟩⟩
        rw [subtree, if_neg (by simpa using List.ne_nil_of_mem hnext)]
        exact List.mem_append_left _ hnext
      · exact ih hbelow

theorem sameFrame_markRemoved (u : Tree) (b : NodeId) : u.SameFrame (u.markRemoved b) :=
  lasting_frameOf.across_markRemoved u b

theorem isLive_markRemoved_iff_notMem {b id : NodeId} :
    (u.markRemoved b).isLive id ↔ u.isLive id ∧ id ∉ u.subtree u.nodes.size [b] := by
  rw [isLive_eq, isLive_eq, markRemoved, Array.getElem?_mapIdx]
  cases u.nodes[id]? with
  | none => simp
  | some n => by_cases hmem : id ∈ u.subtree u.nodes.size [b] <;> simp [hmem]

section Subtree

variable (h : t.Built) (htrims : t.Trims u)
include h htrims

theorem exists_mem_ancestors_of_mem_subtree {fuel : ℕ} {ids : List NodeId} {id : NodeId}
    (hid : id ∈ u.subtree fuel ids) : ∃ b ∈ ids, b ∈ t.ancestors id := by
  induction fuel generalizing ids with
  | zero => cases hid
  | succ fuel ih =>
    rw [subtree] at hid
    split at hid
    · cases hid
    · rcases List.mem_append.mp hid with hhere | hbelow
      · exact ⟨id, hhere, t.mem_ancestors_self id⟩
      · obtain ⟨c, hc, hmem⟩ := ih hbelow
        obtain ⟨b, hb, hchild⟩ := List.mem_flatMap.mp hc
        have hlisted : c ∈ u.listedBelow b := (List.mem_filter.mp hchild).1
        rw [htrims.frame.listedBelow, h.mem_listedBelow_iff] at hlisted
        exact ⟨b, hb, mem_ancestors_trans h.rooted (hlisted.mem_ancestors h.rooted) hmem⟩

/-- A step at a distance from another is met in as many rounds; a step comes after those above it,
so its position bounds the rounds. -/
theorem mem_subtree_of_mem_ancestors {b id : NodeId} (hb : b ∈ t.ancestors id)
    (hlive : u.isLive id) : id ∈ u.subtree (id + 1) [b] := by
  induction id using Nat.strongRecOn with
  | ind id ih =>
    rcases (mem_ancestors_iff h.rooted).mp hb with rfl | ⟨above, hparent, hb⟩
    · simp [subtree]
    · have hlt := hparent.lt h.rooted
      have habove := ih above hlt hb (htrims.isLive_above hparent hlive)
      have hchild : id ∈ u.listedBelow above := by
        rwa [htrims.frame.listedBelow, h.mem_listedBelow_iff]
      exact subtree_subset u (Nat.succ_le_succ hlt) [b] (mem_subtree_of_child hchild hlive habove)

/-- Removing a step removes it and the steps below it. -/
theorem isLive_markRemoved {b id : NodeId} :
    (u.markRemoved b).isLive id ↔ u.isLive id ∧ b ∉ t.ancestors id := by
  rw [isLive_markRemoved_iff_notMem]
  refine and_congr_right fun hlive ↦ not_congr ⟨fun hmem ↦ ?_, fun hb ↦ ?_⟩
  · obtain ⟨b', hb', habove⟩ := exists_mem_ancestors_of_mem_subtree h htrims hmem
    exact List.mem_singleton.mp hb' ▸ habove
  · exact subtree_subset u (lt_size_of_isLive hlive) [b]
      (mem_subtree_of_mem_ancestors h htrims hb hlive)

theorem Trims.markRemoved (b : NodeId) : t.Trims (u.markRemoved b) where
  frame := (sameFrame_markRemoved u b).trans htrims.frame
  upward := by
    intro above id hparent hlive
    have hparent : t.IsParent above id :=
      htrims.frame.isParent.mp ((sameFrame_markRemoved u b).isParent.mp hparent)
    rw [isLive_markRemoved h htrims] at hlive ⊢
    refine ⟨htrims.isLive_above hparent hlive.1, fun hb ↦ hlive.2 ?_⟩
    exact mem_ancestors_trans h.rooted hb (hparent.mem_ancestors h.rooted)

theorem mem_children_iff {above id : NodeId} :
    id ∈ u.children above ↔ t.IsParent above id ∧ u.isLive id := by
  rw [← h.mem_listedBelow_iff, ← htrims.frame.listedBelow, children]
  constructor
  · intro hid
    split at hid
    · next n hn =>
      rw [listedBelow_of_node? hn]
      exact List.mem_filter.mp hid
    · cases hid
  · rintro ⟨hlisted, hlive⟩
    have hparent : t.IsParent above id := by
      rwa [← h.mem_listedBelow_iff, ← htrims.frame.listedBelow]
    obtain ⟨n, hn⟩ := Tree.isLive_iff.mp (htrims.isLive_above hparent hlive)
    rw [listedBelow_of_node? hn] at hlisted
    rw [hn]
    exact List.mem_filter.mpr ⟨hlisted, hlive⟩

end Subtree

/-- Climbing keeps what removing one step below the root keeps. -/
theorem removeUp_induction {motive : Tree → Prop}
    (hmark : ∀ v b, b ≠ rootId → motive v → motive (v.markRemoved b)) (fuel : ℕ) (id : NodeId)
    (hu : motive u) : motive (u.removeUp fuel id) := by
  induction fuel generalizing u id with
  | zero => exact hu
  | succ fuel ih =>
    rw [removeUp]
    split
    · exact hu
    · next hne =>
      dsimp only
      split
      · exact hmark u id hne hu
      · split
        · exact hmark u id hne hu
        · exact ih _ (hmark u id hne hu)

theorem Trims.removeUp (h : t.Built) (htrims : t.Trims u) (fuel : ℕ) (id : NodeId) :
    t.Trims (u.removeUp fuel id) :=
  removeUp_induction (motive := t.Trims) (fun _ b _ hv ↦ hv.markRemoved h b) fuel id htrims

theorem catalog_removeUp (u : Tree) (fuel : ℕ) (id : NodeId) :
    (u.removeUp fuel id).catalog = u.catalog :=
  removeUp_induction (motive := fun v ↦ v.catalog = u.catalog) (fun _ _ _ hv ↦ hv) fuel id rfl

theorem rootInvalid_removeUp (u : Tree) (fuel : ℕ) (id : NodeId) :
    (u.removeUp fuel id).rootInvalid = u.rootInvalid :=
  removeUp_induction (motive := fun v ↦ v.rootInvalid = u.rootInvalid) (fun _ _ _ hv ↦ hv) fuel id
    rfl

/-! ## The steps that stay -/

/-- A step of the arena that stays by itself, since it emits or has nothing below. -/
def Stands (t : Tree) (id : NodeId) : Prop :=
  id < t.nodes.size ∧ (t.emitsAt id ∨ t.listedBelow id = [])

/-- A step is spared when it lies at or above a step that stands on its own, and no bad step lies
between the root and that one. -/
def Spared (t : Tree) (bad : NodeId → Prop) (id : NodeId) : Prop :=
  ∃ q, t.Stands q ∧ id ∈ t.ancestors q ∧ ∀ a ∈ t.ancestors q, a ≠ rootId → ¬ bad a

/-- The steps that stay when the bad ones have been removed. -/
def Kept (t : Tree) (bad : NodeId → Prop) (id : NodeId) : Prop := id = rootId ∨ t.Spared bad id

theorem SameFrame.kept (h : t.SameFrame u) {bad : NodeId → Prop} {id : NodeId} :
    u.Kept bad id ↔ t.Kept bad id := by
  simp only [Kept, Spared, Stands, h.size, h.emitsAt, h.listedBelow, h.ancestors]

section Kept

variable {bad bad' : NodeId → Prop} {id : NodeId}

/-- A step that is gone rules out nothing more. -/
theorem Kept.or_eq {b : NodeId} (hgone : ¬ t.Kept bad b) (hkept : t.Kept bad id) :
    t.Kept (fun a ↦ bad a ∨ a = b) id := by
  rcases hkept with rfl | ⟨q, hq, hid, hgood⟩
  · exact .inl rfl
  · refine .inr ⟨q, hq, hid, ?_⟩
    rintro a ha hne (hbad | rfl)
    · exact hgood a ha hne hbad
    · exact hgone (.inr ⟨q, hq, ha, hgood⟩)

variable (h : Rooted t.skeleton)
include h

theorem Kept.above (hkept : t.Kept bad id) {a : NodeId} (ha : a ∈ t.ancestors id) :
    t.Kept bad a := by
  rcases hkept with rfl | ⟨q, hq, hid, hgood⟩
  · rw [ancestors_rootId h, List.mem_singleton] at ha
    exact .inl ha
  · exact .inr ⟨q, hq, mem_ancestors_trans h ha hid, hgood⟩

theorem Kept.not_bad (hkept : t.Kept bad id) {a : NodeId} (ha : a ∈ t.ancestors id)
    (hne : a ≠ rootId) : ¬ bad a := by
  rcases hkept with rfl | ⟨q, -, hid, hgood⟩
  · rw [ancestors_rootId h, List.mem_singleton] at ha
    exact absurd ha hne
  · exact hgood a (mem_ancestors_trans h ha hid) hne

theorem Kept.stands_or_child (hkept : t.Kept bad id) (hne : id ≠ rootId) :
    t.Stands id ∨ ∃ c, t.IsParent id c ∧ t.Kept bad c := by
  obtain ⟨q, hq, hid, hgood⟩ := hkept.resolve_left hne
  by_cases heq : id = q
  · exact .inl (heq ▸ hq)
  · obtain ⟨c, hparent, hc⟩ := exists_child_toward h hid heq
    exact .inr ⟨c, hparent, .inr ⟨q, hq, hc, hgood⟩⟩

/-- With fewer bad steps more stay; only those of the arena below the root matter. -/
theorem Kept.mono (hkept : t.Kept bad id)
    (hbad : ∀ a < t.nodes.size, a ≠ rootId → bad' a → bad a) : t.Kept bad' id := by
  refine hkept.imp_right ?_
  rintro ⟨q, hq, hid, hgood⟩
  refine ⟨q, hq, hid, fun a ha hne hbad' ↦ hgood a ha hne (hbad a ?_ hne hbad')⟩
  exact (le_of_mem_ancestors h ha).trans_lt hq.1

end Kept

/-- Below every step there is one with nothing below. -/
theorem exists_stands_below (h : t.Built) {id : NodeId} (hid : id < t.nodes.size) :
    ∃ q, t.Stands q ∧ id ∈ t.ancestors q := by
  -- a child comes after its parent, so that going down ends before the end of the arena
  generalize hrest : t.nodes.size - id = rest
  induction rest using Nat.strongRecOn generalizing id with
  | ind rest ih =>
    rcases List.eq_nil_or_concat' (t.listedBelow id) with hnil | ⟨cs, c, hcs⟩
    · exact ⟨id, ⟨hid, .inr hnil⟩, t.mem_ancestors_self id⟩
    · have hparent : t.IsParent id c := by
        rw [← h.mem_listedBelow_iff, hcs]
        simp
      have hlt := hparent.lt h.rooted
      obtain ⟨q, hq, hc⟩ := ih (t.nodes.size - c) (hrest ▸ Nat.sub_lt_sub_left hid hlt)
        hparent.lt_size rfl
      exact ⟨q, hq, mem_ancestors_trans h.rooted (hparent.mem_ancestors h.rooted) hc⟩

/-! ## Climbing -/

/-- Removing a step that does not stay, when all that is wrong yet lies below it or above it, leaves
exactly the steps that stay. -/
theorem isLive_removeUp (h : t.Built) {bad : NodeId → Prop} {fuel : ℕ} {id : NodeId}
    (htrims : t.Trims u) (hid : id < t.nodes.size) (hfuel : id < fuel) (hlost : ¬ t.Kept bad id)
    (hkept : ∀ x, t.Kept bad x → u.isLive x)
    (hwrong : ∀ x, u.isLive x → ¬ t.Kept bad x → x ∈ t.ancestors id ∨ id ∈ t.ancestors x)
    (hemits : ∀ x ∈ t.ancestors id, x ≠ id → t.emitsAt x → t.Kept bad x) (x : NodeId) :
    (u.removeUp fuel id).isLive x ↔ t.Kept bad x := by
  induction fuel generalizing u id with
  | zero => exact absurd hfuel (Nat.not_lt_zero _)
  | succ fuel ih =>
    have hne : id ≠ rootId := fun heq ↦ hlost (.inl heq)
    obtain ⟨p, hlt, hparent⟩ := exists_isParent h.rooted (Array.getElem?_eq_getElem hid) hne
    have hp : p ∈ t.ancestors id := hparent.mem_ancestors h.rooted
    have hmark : ∀ y, (u.markRemoved id).isLive y ↔ u.isLive y ∧ id ∉ t.ancestors y :=
      fun _ ↦ isLive_markRemoved h htrims
    have htrims' : t.Trims (u.markRemoved id) := htrims.markRemoved h id
    have hkept' : ∀ y, t.Kept bad y → (u.markRemoved id).isLive y := fun y hy ↦
      (hmark y).mpr ⟨hkept y hy, fun hmem ↦ hlost (hy.above h.rooted hmem)⟩
    -- what is wrong now lies above the step, hence at or above its parent
    have hwrong' : ∀ y, (u.markRemoved id).isLive y → ¬ t.Kept bad y → y ∈ t.ancestors p := by
      intro y hlive hy
      obtain ⟨hlive, hbelow⟩ := (hmark y).mp hlive
      have hmem := (hwrong y hlive hy).resolve_right hbelow
      rw [ancestors_of_isParent h.rooted hparent, List.mem_cons] at hmem
      exact hmem.resolve_left fun heq ↦ hbelow (heq ▸ t.mem_ancestors_self y)
    have hchild : ∀ c, t.IsParent p c → (u.markRemoved id).isLive c → t.Kept bad c := by
      intro c hc hlive
      by_contra hlost'
      exact absurd (hc.lt h.rooted)
        (Nat.not_lt.mpr (le_of_mem_ancestors h.rooted (hwrong' c hlive hlost')))
    rw [removeUp, if_neg hne, show u.nodes[id]?.bind (·.parent) = some p from
      htrims.frame.isParent.mpr hparent]
    dsimp only
    split
    · next hstop =>
      -- the climb ends at a step that stays, and so does everything above it
      have hp_kept : t.Kept bad p := by
        rw [Bool.or_eq_true, Bool.or_eq_true, decide_eq_true_eq] at hstop
        rcases hstop with (hroot | hstands) | hchildren
        · exact .inl hroot
        · exact hemits p hp (Nat.ne_of_lt hlt) (htrims'.frame.emitsAt p ▸ hstands)
        · obtain ⟨c, hc⟩ : ∃ c, c ∈ (u.markRemoved id).children p := by
            simpa [List.isEmpty_iff, List.eq_nil_iff_forall_not_mem] using hchildren
          obtain ⟨hc, hlive⟩ := (mem_children_iff h htrims').mp hc
          exact (hchild c hc hlive).above h.rooted (hc.mem_ancestors h.rooted)
      refine ⟨fun hlive ↦ ?_, hkept' x⟩
      by_contra hx
      exact hx (hp_kept.above h.rooted (hwrong' x hlive hx))
    · next hgo =>
      simp only [Bool.or_eq_true, decide_eq_true_eq, Bool.not_eq_true', not_or,
        Bool.not_eq_false, List.isEmpty_iff] at hgo
      obtain ⟨⟨hroot, hstands⟩, hchildren⟩ := hgo
      have hp_lost : ¬ t.Kept bad p := by
        intro hp_kept
        rcases hp_kept.stands_or_child h.rooted hroot with ⟨-, hemits | hnil⟩ | ⟨c, hc, hc_kept⟩
        · rw [← htrims'.frame.emitsAt] at hemits
          exact hstands hemits
        · have hlisted := h.mem_listedBelow_iff.mpr hparent
          rw [hnil] at hlisted
          cases hlisted
        · have hmem := (mem_children_iff h htrims').mpr ⟨hc, hkept' c hc_kept⟩
          rw [hchildren] at hmem
          cases hmem
      refine ih htrims' (hlt.trans hid) (Nat.lt_of_lt_of_le hlt (Nat.le_of_lt_succ hfuel)) hp_lost
        hkept' (fun y hlive hy ↦ .inl (hwrong' y hlive hy)) fun y hy hne ↦ ?_
      refine hemits y (mem_ancestors_trans h.rooted hy hp) ?_
      rintro rfl
      exact absurd (le_of_mem_ancestors h.rooted hy) (Nat.not_le.mpr hlt)

/-- Removing a live step leaves exactly the steps that stay without it. -/
theorem isLive_remove (h : t.Built) {bad : NodeId → Prop} (htrims : t.Trims u)
    (hlive : ∀ x, u.isLive x ↔ t.Kept bad x) {id : NodeId} (hid : u.isLive id) (hne : id ≠ rootId)
    (x : NodeId) : (u.remove id).isLive x ↔ t.Kept (fun a ↦ bad a ∨ a = id) x := by
  have hlt : id < t.nodes.size := htrims.frame.size ▸ lt_size_of_isLive hid
  refine isLive_removeUp h htrims hlt (Nat.lt_succ_self id) ?_ ?_ ?_ ?_ x
  · intro hkept
    exact hkept.not_bad h.rooted (t.mem_ancestors_self id) hne (.inr rfl)
  · exact fun y hy ↦ (hlive y).mpr (hy.mono h.rooted fun _ _ _ ↦ .inl)
  · -- a step that goes stood only by steps below the one removed, so the two lie on one path
    intro y hy hlost
    have hy_ne : y ≠ rootId := fun heq ↦ hlost (.inl heq)
    obtain ⟨q, hq, hmem, hgood⟩ := ((hlive y).mp hy).resolve_left hy_ne
    refine mem_ancestors_total h.rooted hmem ?_
    by_contra hnot
    refine hlost (.inr ⟨q, hq, hmem, ?_⟩)
    rintro a ha hne' (hbad | rfl)
    · exact hgood a ha hne' hbad
    · exact hnot ha
  · intro y hy hne' hemits
    have hy_lt : y < t.nodes.size := (le_of_mem_ancestors h.rooted hy).trans_lt hlt
    refine .inr ⟨y, ⟨hy_lt, .inl hemits⟩, t.mem_ancestors_self y, ?_⟩
    rintro a ha hne'' (hbad | rfl)
    · exact ((hlive id).mp hid).not_bad h.rooted (mem_ancestors_trans h.rooted ha hy) hne'' hbad
    · exact hne' (eq_of_mem_ancestors h.rooted hy ha)

end Tree

end PathQuery
