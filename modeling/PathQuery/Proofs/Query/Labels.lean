import Mathlib.Data.List.Permutation
import PathQuery.Proofs.Query.Arena

/-!
# Labels and the steps that were given them

A step is given its labels in any order and with repeats, and keeps them in order and each once.
Sort terms refer to a step above by a label, and mean the closest one that was given it.

Three short cuts of the definitions are undone here. Repeats are dropped from a sorted list, which
can be done in place, with the entries kept moved to the front (`compactFrom`). Whether a step
carries a label is asked by going over its labels, where halving is enough because they are in order
(`searchFrom`). And the steps above a step are listed before they are searched, where one can as
well go up until the label is met or there is no step above (`Climbs`).
-/

namespace PathQuery

/-! ## Labels in order -/

theorem mem_eraseRepsBy_loop {a b : String} {as acc : List String} :
    b ∈ List.eraseRepsBy.loop (· == ·) a as acc ↔ b ∈ a :: as ∨ b ∈ acc := by
  induction as generalizing a acc with
  | nil => simp [List.eraseRepsBy.loop, or_comm]
  | cons c as ih =>
    rw [List.eraseRepsBy.loop]
    split
    · next heq =>
      obtain rfl := beq_iff_eq.mp heq
      rw [ih]
      simp
    · rw [ih]
      simp only [List.mem_cons]
      tauto

theorem mem_sortLabels {label : String} {labels : List String} :
    label ∈ sortLabels labels ↔ label ∈ labels := by
  have hsorted : label ∈ labels.mergeSort (fun a b ↦ decide (a ≤ b)) ↔ label ∈ labels :=
    List.mem_mergeSort
  rw [sortLabels, ← hsorted]
  cases labels.mergeSort fun a b ↦ decide (a ≤ b) with
  | nil => rfl
  | cons a as => exact mem_eraseRepsBy_loop.trans (or_iff_left (List.not_mem_nil))

/-- Drops repeats in place. The first `j` entries are those kept so far; the entry at `i` is moved
behind them unless it is the last of them once more. -/
def compactFrom (labels : List String) (i j : ℕ) : List String :=
  if h : i < labels.length then
    if i = 0 ∨ labels[j - 1]? ≠ some labels[i] then
      compactFrom (labels.set j labels[i]) (i + 1) (j + 1)
    else compactFrom labels (i + 1) j
  else labels.take j
termination_by labels.length - i
decreasing_by
  · rw [List.length_set]
    omega
  · omega

/-- The entry before the end of what is kept is the latest one. -/
theorem getElem?_of_take_eq {labels acc : List String} {a : String} {j : ℕ}
    (hj : j ≤ labels.length) (hkept : labels.take j = acc.reverse ++ [a]) :
    labels[j - 1]? = some a := by
  have hlength : j = acc.length + 1 := by
    have h := congrArg List.length hkept
    simp at h
    omega
  have hlast : (labels.take j)[acc.length]? = some a := by simp [hkept]
  rw [List.getElem?_take, if_pos (by omega)] at hlast
  rwa [hlength, Nat.add_sub_cancel]

/-- The entries kept so far are `acc`, the latest ones first, and `a`. -/
theorem compactFrom_eq_loop {labels acc : List String} {a : String} {i j : ℕ} (hi : 0 < i)
    (hji : j ≤ i) (hkept : labels.take j = acc.reverse ++ [a]) :
    compactFrom labels i j = List.eraseRepsBy.loop (· == ·) a (labels.drop i) acc := by
  fun_induction compactFrom labels i j generalizing a acc with
  | case1 labels i j h hnew ih =>
    have hne : a ≠ labels[i] := by
      have hlast := getElem?_of_take_eq (by omega) hkept
      rintro rfl
      exact hnew.elim hi.ne' fun hdiff ↦ hdiff hlast
    have hkept' : (labels.set j labels[i]).take (j + 1) = (a :: acc).reverse ++ [labels[i]] := by
      rw [List.take_succ_eq_append_getElem (by rw [List.length_set]; omega), List.getElem_set_self,
        List.take_set, List.set_eq_of_length_le (by rw [List.length_take]; omega), hkept,
        List.reverse_cons]
    rw [ih (Nat.succ_pos i) (by omega) hkept', List.drop_set, if_pos (by omega),
      List.drop_eq_getElem_cons h, List.eraseRepsBy.loop, beq_eq_false_iff_ne.mpr hne]
  | case2 labels i j h hold ih =>
    have heq : a = labels[i] := by
      have hlast := getElem?_of_take_eq (by omega) hkept
      rw [not_or, not_not, hlast] at hold
      exact Option.some.inj hold.2
    rw [ih (Nat.succ_pos i) (by omega) hkept, List.drop_eq_getElem_cons h,
      List.eraseRepsBy.loop, beq_iff_eq.mpr heq]
  | case3 labels i j h =>
    rw [hkept, List.drop_eq_nil_of_le (by omega), List.eraseRepsBy.loop, List.reverse_cons]

/-- Sorting and then dropping repeats in place puts labels in order. -/
theorem compactFrom_mergeSort (labels : List String) :
    compactFrom (labels.mergeSort fun a b ↦ decide (a ≤ b)) 0 0 = sortLabels labels := by
  rw [sortLabels]
  cases labels.mergeSort fun a b ↦ decide (a ≤ b) with
  | nil => rw [compactFrom, dif_neg (by simp)]; rfl
  | cons a as =>
    have hkept : ((a :: as).set 0 a).take 1 = List.reverse [] ++ [a] := rfl
    rw [compactFrom, dif_pos (by simp), if_pos (.inl rfl)]
    exact compactFrom_eq_loop Nat.one_pos le_rfl hkept

/-! ## Halving -/

/-- Halves the positions from `low` up to `high` until one is left: the first at which the entry is
not less than the label. -/
def searchFrom (labels : List String) (label : String) (low high : ℕ) : ℕ :=
  if low < high then
    let mid := (low + high) / 2
    if labels.getD mid "" < label then searchFrom labels label (mid + 1) high
    else searchFrom labels label low mid
  else low
termination_by high - low

/-- Whether the label is where halving ends. -/
def searchLabel (labels : List String) (label : String) : Bool :=
  labels[searchFrom labels label 0 labels.length]? == some label

/-- The entries before `low` are less than the label and those from `high` on are not. -/
structure Divides (labels : List String) (label : String) (low high : ℕ) : Prop where
  /-- The entries in front are less. -/
  below : ∀ {k a}, labels[k]? = some a → k < low → a < label
  /-- The entries behind are not. -/
  above : ∀ {k a}, labels[k]? = some a → high ≤ k → ¬ a < label

section Search

variable {labels : List String} {label : String}

theorem lt_of_getElem?_of_pairwise (h : labels.Pairwise (· < ·)) {i k : ℕ} {a b : String}
    (ha : labels[i]? = some a) (hb : labels[k]? = some b) (hik : i < k) : a < b := by
  obtain ⟨hi, rfl⟩ := List.getElem?_eq_some_iff.mp ha
  obtain ⟨hk, rfl⟩ := List.getElem?_eq_some_iff.mp hb
  exact List.pairwise_iff_getElem.mp h i k hi hk hik

/-- What comes no later than an entry below the label is below it as well. -/
theorem lt_of_getElem?_le (h : labels.Pairwise (· < ·)) {i k : ℕ} {a b : String}
    (ha : labels[i]? = some a) (hb : labels[k]? = some b) (hik : i ≤ k) (hless : b < label) :
    a < label := by
  rcases hik.eq_or_lt with rfl | hlt
  · rw [ha, Option.some.injEq] at hb
    exact hb ▸ hless
  · exact String.lt_trans (lt_of_getElem?_of_pairwise h ha hb hlt) hless

/-- Halving keeps the division and ends where the two sides meet. -/
theorem divides_searchFrom (h : labels.Pairwise (· < ·)) {low high : ℕ} (hle : low ≤ high)
    (hhigh : high ≤ labels.length) (hdiv : Divides labels label low high) :
    Divides labels label (searchFrom labels label low high) (searchFrom labels label low high) := by
  fun_induction searchFrom labels label low high with
  | case1 low high hlt mid hless ih =>
    have hmid : labels[mid]? = some (labels.getD mid "") := by
      rw [List.getD_eq_getElem?_getD, List.getElem?_eq_getElem (by omega), Option.getD_some]
    refine ih (by omega) hhigh ⟨fun {k a} ha hk ↦ ?_, hdiv.above⟩
    exact lt_of_getElem?_le h ha hmid (by omega) hless
  | case2 low high hlt mid hnot ih =>
    have hmid : labels[mid]? = some (labels.getD mid "") := by
      rw [List.getD_eq_getElem?_getD, List.getElem?_eq_getElem (by omega), Option.getD_some]
    refine ih (by omega) (by omega) ⟨hdiv.below, fun {k a} ha hk hless ↦ hnot ?_⟩
    exact lt_of_getElem?_le h hmid ha hk hless
  | case3 low high hlt =>
    obtain rfl : low = high := by omega
    exact hdiv

/-- Of labels in order, halving finds those that are there. -/
theorem searchLabel_eq_contains (h : labels.Pairwise (· < ·)) :
    searchLabel labels label = labels.contains label := by
  have hdiv : Divides labels label (searchFrom labels label 0 labels.length)
      (searchFrom labels label 0 labels.length) := by
    refine divides_searchFrom h (Nat.zero_le _) le_rfl ⟨?_, ?_⟩
    · exact fun _ hk ↦ absurd hk (Nat.not_lt_zero _)
    · exact fun ha hk ↦ absurd (List.getElem?_eq_some_iff.mp ha).1 (by omega)
  rw [Bool.eq_iff_iff, searchLabel, beq_iff_eq, List.contains_iff_mem]
  constructor
  · exact List.mem_of_getElem?
  · intro hmem
    obtain ⟨k, hk⟩ := List.mem_iff_getElem?.mp hmem
    rcases Nat.lt_trichotomy k (searchFrom labels label 0 labels.length) with hlt | rfl | hgt
    · exact absurd (hdiv.below hk hlt) (String.lt_irrefl _)
    · exact hk
    · -- the entry where halving ends would be less than the label, which stands behind it
      obtain ⟨hlength, -⟩ := List.getElem?_eq_some_iff.mp hk
      have hend := List.getElem?_eq_getElem (hgt.trans hlength)
      exact absurd (lt_of_getElem?_of_pairwise h hend hk hgt) (hdiv.above hend le_rfl)

end Search

namespace Tree

variable {t : Tree} {given : List (List String)} {label : String} {id : NodeId} {n : Node}

/-! ## The labels that steps were given -/

/-- The trees that adding steps leads to, with the labels that each step was given. -/
inductive Given : Tree → List (List String) → Prop
  | root (catalog : Option Topology) (spec : RootSpec) : Given (ofRoot catalog spec) [spec.labels]
  | child {t t' : Tree} {given : List (List String)} {parent : NodeId} {spec : StepSpec}
      (grown : Given t given) (added : t.addChild? parent spec = some t') :
      Given t' (given ++ [spec.labels])

/-- A step was given a label. -/
def WasGiven (given : List (List String)) (id : NodeId) (label : String) : Prop :=
  label ∈ given.getD id []

theorem Given.built (h : t.Given given) : t.Built := by
  induction h with
  | root catalog spec => exact .root catalog spec
  | child _ added ih => exact .child ih added

/-- What a step has for labels is what it was given, in order. -/
theorem Given.map_labels (h : t.Given given) : t.across (·.labels) = given.map sortLabels := by
  have hskeleton : t.skeleton.map (·.2) = given.map sortLabels := by
    induction h with
    | root => rfl
    | child _ added ih =>
      rw [(skeleton_addChild? added).2, List.map_append, List.map_append, ih]
      rfl
  rw [← hskeleton, skeleton, across, across, List.map_map]
  rfl

theorem Given.length_eq (h : t.Given given) : given.length = t.nodes.size := by
  simpa [across] using (congrArg List.length h.map_labels).symm

theorem Given.labels_eq (h : t.Given given) (hn : t.nodes[id]? = some n) :
    n.labels = sortLabels (given.getD id []) := by
  have hread : (t.across (·.labels))[id]? = some n.labels := by
    rw [across_getElem?, hn, Option.map_some]
  rw [h.map_labels, List.getElem?_map, Option.map_eq_some_iff] at hread
  obtain ⟨labels, hlabels, heq⟩ := hread
  rw [← heq, List.getD_eq_getElem?_getD, hlabels, Option.getD_some]

theorem Given.hasLabel_iff (h : t.Given given) (hn : t.nodes[id]? = some n) :
    n.hasLabel label ↔ WasGiven given id label := by
  rw [Node.hasLabel, List.contains_iff_mem, h.labels_eq hn, mem_sortLabels, WasGiven]

theorem Given.searchLabel_eq (h : t.Given given) (hn : t.nodes[id]? = some n) :
    searchLabel n.labels label = n.hasLabel label := by
  refine searchLabel_eq_contains ?_
  rw [h.labels_eq hn]
  exact pairwise_lt_sortLabels _

/-! ## Going up -/

/-- One step is another or stands above it. -/
def AtOrAbove (t : Tree) (a id : NodeId) : Prop := Relation.ReflTransGen t.IsParent a id

theorem atOrAbove_of_isParent {a above : NodeId} (hparent : t.IsParent above id) :
    t.AtOrAbove a id ↔ a = id ∨ t.AtOrAbove a above := by
  rw [AtOrAbove, Relation.ReflTransGen.cases_tail_iff, eq_comm]
  refine or_congr_right ⟨?_, fun ha ↦ ⟨above, ha, hparent⟩⟩
  rintro ⟨above', ha, hparent'⟩
  obtain rfl : above' = above := Option.some.inj (hparent'.symm.trans hparent)
  exact ha

theorem atOrAbove_of_top {a : NodeId} (htop : ∀ above, ¬ t.IsParent above id) :
    t.AtOrAbove a id ↔ a = id := by
  rw [AtOrAbove, Relation.ReflTransGen.cases_tail_iff, eq_comm]
  exact or_iff_left fun ⟨above, _, hparent⟩ ↦ htop above hparent

theorem mem_ancestors_iff_atOrAbove (h : Rooted t.skeleton) {a : NodeId} :
    a ∈ t.ancestors id ↔ t.AtOrAbove a id := by
  constructor
  · intro ha
    induction id using Nat.strongRecOn with
    | ind id ih =>
      rcases (mem_ancestors_iff h).mp ha with rfl | ⟨above, hparent, ha⟩
      · exact .refl
      · exact (ih above (hparent.lt h) ha).tail hparent
  · intro ha
    induction ha with
    | refl => exact t.mem_ancestors_self a
    | tail _ hparent ih => exact (mem_ancestors_iff h).mpr (.inr ⟨_, hparent, ih⟩)

/-- Going up from a step until one carries the label or there is none above. -/
inductive Climbs (t : Tree) (label : String) : NodeId → Option NodeId → Prop
  | found {id : NodeId} {n : Node} (step : t.nodes[id]? = some n)
      (carries : searchLabel n.labels label) : Climbs t label id (some id)
  | up {id above : NodeId} {n : Node} {result : Option NodeId} (step : t.nodes[id]? = some n)
      (lacks : ¬ searchLabel n.labels label) (parent : n.parent = some above)
      (rest : Climbs t label above result) : Climbs t label id result
  | top {id : NodeId} {n : Node} (step : t.nodes[id]? = some n)
      (lacks : ¬ searchLabel n.labels label) (parent : n.parent = none) : Climbs t label id none

/-- A step is the closest one, at or above another, that was given a label. -/
structure IsNearest (t : Tree) (given : List (List String)) (label : String) (id a : NodeId) :
    Prop where
  /-- It is on the way up. -/
  onWay : t.AtOrAbove a id
  /-- It was given the label. -/
  wasGiven : WasGiven given a label
  /-- Any other on the way that was given it stands above. -/
  closest : ∀ b, t.AtOrAbove b id → WasGiven given b label → t.AtOrAbove b a

theorem isParent_iff_of_getElem? {above : NodeId} (hn : t.nodes[id]? = some n) :
    t.IsParent above id ↔ n.parent = some above := by
  rw [IsParent, hn, Option.bind_some]

/-! ### What listing the steps above finds -/

theorem findLabeled_of_hasLabel (hn : t.nodes[id]? = some n) (hlabel : n.hasLabel label) :
    t.findLabeled id label = some id := by
  rw [findLabeled, ancestors, chain, List.find?_cons_of_pos]
  simpa [hn] using hlabel

theorem findLabeled_of_parent (hrooted : Rooted t.skeleton) {above : NodeId}
    (hn : t.nodes[id]? = some n) (hlabel : ¬ n.hasLabel label) (hparent : n.parent = some above) :
    t.findLabeled id label = t.findLabeled above label := by
  rw [findLabeled, ancestors_of_isParent hrooted ((isParent_iff_of_getElem? hn).mpr hparent),
    List.find?_cons_of_neg, findLabeled]
  simpa [hn] using hlabel

theorem findLabeled_of_top (hn : t.nodes[id]? = some n) (hlabel : ¬ n.hasLabel label)
    (hparent : n.parent = none) : t.findLabeled id label = none := by
  rw [findLabeled, ancestors, chain, hn, Option.bind_some, hparent, List.find?_cons_of_neg]
  · rfl
  · simpa [hn] using hlabel

section Given

variable (h : t.Given given)
include h

/-- Going up ends, with what is found in the list. -/
theorem Given.climbs_findLabeled (hid : id < t.nodes.size) :
    t.Climbs label id (t.findLabeled id label) := by
  induction id using Nat.strongRecOn with
  | ind id ih =>
    obtain ⟨n, hn⟩ : ∃ n, t.nodes[id]? = some n := ⟨_, Array.getElem?_eq_getElem hid⟩
    have hsearch : searchLabel n.labels label = n.hasLabel label := h.searchLabel_eq hn
    by_cases hlabel : n.hasLabel label
    · rw [findLabeled_of_hasLabel hn hlabel]
      exact .found hn (hsearch.trans hlabel)
    · have hlacks : ¬ searchLabel n.labels label := by rwa [hsearch]
      cases hparent : n.parent with
      | none =>
        rw [findLabeled_of_top hn hlabel hparent]
        exact .top hn hlacks hparent
      | some above =>
        have hlt : above < id := ((isParent_iff_of_getElem? hn).mpr hparent).lt h.built.rooted
        rw [findLabeled_of_parent h.built.rooted hn hlabel hparent]
        exact .up hn hlacks hparent (ih above hlt (hlt.trans hid))

theorem Given.findLabeled_eq_of_climbs {result : Option NodeId}
    (hclimbs : t.Climbs label id result) : t.findLabeled id label = result := by
  induction hclimbs with
  | found step carries =>
    rw [h.searchLabel_eq step] at carries
    exact findLabeled_of_hasLabel step carries
  | up step lacks parent _ ih =>
    rw [h.searchLabel_eq step] at lacks
    rw [findLabeled_of_parent h.built.rooted step lacks parent, ih]
  | top step lacks parent =>
    rw [h.searchLabel_eq step] at lacks
    exact findLabeled_of_top step lacks parent

/-- What going up ends with is the closest step that was given the label, if there is one. -/
theorem Given.nearest_of_climbs {result : Option NodeId} (hclimbs : t.Climbs label id result) :
    (∀ a, result = some a → t.IsNearest given label id a) ∧
      (result = none → ∀ b, t.AtOrAbove b id → ¬ WasGiven given b label) := by
  have hgiven : ∀ {id n}, t.nodes[id]? = some n →
      (searchLabel n.labels label ↔ WasGiven given id label) := by
    intro id n hn
    rw [h.searchLabel_eq hn, h.hasLabel_iff hn]
  induction hclimbs with
  | found step carries =>
    refine ⟨?_, fun hnone ↦ absurd hnone (Option.some_ne_none _)⟩
    rintro _ ⟨⟩
    exact ⟨.refl, (hgiven step).mp carries, fun _ hb _ ↦ hb⟩
  | @up id above n result step lacks parent _ ih =>
    have hparent := (isParent_iff_of_getElem? step).mpr parent
    rw [hgiven step] at lacks
    -- as the step itself was not given the label, whatever was is above it
    have habove : ∀ b, t.AtOrAbove b id → WasGiven given b label → t.AtOrAbove b above := by
      intro b hb hlabel
      refine ((atOrAbove_of_isParent hparent).mp hb).resolve_left ?_
      rintro rfl
      exact lacks hlabel
    refine ⟨fun a ha ↦ ?_, fun hnone b hb hlabel ↦ ih.2 hnone b (habove b hb hlabel) hlabel⟩
    obtain ⟨onWay, wasGiven, closest⟩ := ih.1 a ha
    exact ⟨onWay.tail hparent, wasGiven,
      fun b hb hlabel ↦ closest b (habove b hb hlabel) hlabel⟩
  | @top id n step lacks parent =>
    refine ⟨fun a ha ↦ absurd ha.symm (Option.some_ne_none a), fun _ b hb ↦ ?_⟩
    have htop : ∀ above, ¬ t.IsParent above id := by simp [isParent_iff_of_getElem? step, parent]
    obtain rfl := (atOrAbove_of_top htop).mp hb
    rwa [← hgiven step]

theorem Given.findLabeled_eq_some_iff (hid : id < t.nodes.size) {a : NodeId} :
    t.findLabeled id label = some a ↔ t.IsNearest given label id a := by
  have hclimbs : t.Climbs label id (t.findLabeled id label) := h.climbs_findLabeled hid
  have hfound := h.nearest_of_climbs hclimbs
  refine ⟨hfound.1 a, fun ha ↦ ?_⟩
  cases hresult : t.findLabeled id label with
  | none => exact absurd ha.wasGiven (hfound.2 hresult a ha.onWay)
  | some a' =>
    -- two steps that are each at or above the other are one
    have ha' := hfound.1 a' hresult
    have hrooted := h.built.rooted
    have hle := ha.closest a' ha'.onWay ha'.wasGiven
    have hge := ha'.closest a ha.onWay ha.wasGiven
    rw [← mem_ancestors_iff_atOrAbove hrooted] at hle hge
    rw [eq_of_mem_ancestors hrooted hle hge]

theorem Given.findLabeled_eq_none_iff (hid : id < t.nodes.size) :
    t.findLabeled id label = none ↔ ∀ b, t.AtOrAbove b id → ¬ WasGiven given b label := by
  have hclimbs : t.Climbs label id (t.findLabeled id label) := h.climbs_findLabeled hid
  have hfound := h.nearest_of_climbs hclimbs
  refine ⟨hfound.2, fun hnone ↦ Option.eq_none_iff_forall_ne_some.mpr fun a ha ↦ ?_⟩
  exact hnone a (hfound.1 a ha).onWay (hfound.1 a ha).wasGiven

end Given

/-- The labels of the steps and what is found by them are as the steps were given them. -/
structure KeepsLabels (t : Tree) (given : List (List String)) : Prop where
  /-- Each step was given labels. -/
  size : given.length = t.nodes.size
  /-- A step has its labels in order and each once. -/
  increasing : ∀ {id : NodeId} {n : Node}, t.nodes[id]? = some n → n.labels.Pairwise (· < ·)
  /-- They are those that it was given. -/
  stored : ∀ {id : NodeId} {n : Node}, t.nodes[id]? = some n → ∀ label,
    label ∈ n.labels ↔ WasGiven given id label
  /-- Sorting and dropping repeats in place comes to them. -/
  inPlace : ∀ {id : NodeId} {n : Node}, t.nodes[id]? = some n →
    n.labels = compactFrom ((given.getD id []).mergeSort fun a b ↦ decide (a ≤ b)) 0 0
  /-- A step carries the labels that it was given. -/
  hasLabel : ∀ {id : NodeId} {n : Node}, t.nodes[id]? = some n → ∀ label,
    n.hasLabel label ↔ WasGiven given id label
  /-- Halving tells whether it carries one. -/
  halving : ∀ {id : NodeId} {n : Node}, t.nodes[id]? = some n → ∀ label,
    searchLabel n.labels label = n.hasLabel label
  /-- The way up leads to the root. -/
  root : ∀ id < t.nodes.size, t.AtOrAbove rootId id
  /-- The step that is found is the closest that was given the label. -/
  found : ∀ id < t.nodes.size, ∀ label a,
    t.findLabeled id label = some a ↔ t.IsNearest given label id a
  /-- None is found if there is none. -/
  missing : ∀ id < t.nodes.size, ∀ label,
    t.findLabeled id label = none ↔ ∀ b, t.AtOrAbove b id → ¬ WasGiven given b label
  /-- It is found by going up, which ends. -/
  climbs : ∀ id < t.nodes.size, ∀ label result,
    t.Climbs label id result ↔ t.findLabeled id label = result

/-- **Labels lead to the closest step above.** In a tree that adding steps leads to, a step has the
labels it was given in increasing order, carries these labels and no others, and a label is found,
from any step on, at the closest step on the way up to the root that was given it, or nowhere if
none was. Dropping repeats in place, halving and going up one step at a time lead to the same. -/
theorem Given.keepsLabels (h : t.Given given) : t.KeepsLabels given where
  size := h.length_eq
  increasing := fun hn ↦ h.labels_eq hn ▸ pairwise_lt_sortLabels _
  stored := fun hn label ↦ by rw [h.labels_eq hn, mem_sortLabels, WasGiven]
  inPlace := fun hn ↦ by rw [compactFrom_mergeSort, h.labels_eq hn]
  hasLabel := fun hn _ ↦ h.hasLabel_iff hn
  halving := fun hn _ ↦ h.searchLabel_eq hn
  root := fun _ hid ↦
    (mem_ancestors_iff_atOrAbove h.built.rooted).mp (rootId_mem_ancestors h.built.rooted hid)
  found := fun _ hid _ _ ↦ h.findLabeled_eq_some_iff hid
  missing := fun _ hid _ ↦ h.findLabeled_eq_none_iff hid
  climbs := fun _ hid _ _ ↦
    ⟨h.findLabeled_eq_of_climbs, fun heq ↦ heq ▸ h.climbs_findLabeled hid⟩

theorem Given.addChild (h : t.Given given) {parent : NodeId} (hlt : parent < t.nodes.size)
    (spec : StepSpec) :
    ((t.addChild? parent spec).getD t).Given (given ++ [spec.labels]) := by
  have hadd : ∃ t', t.addChild? parent spec = some t' := by
    rw [addChild?, Array.getElem?_eq_getElem hlt]
    exact ⟨_, rfl⟩
  obtain ⟨t', hadd⟩ := hadd
  rw [hadd]
  exact h.child hadd

/-- Three vertices in a row, the second one labeled with repeats and out of order, and one more
below the first. -/
def labeledRow : Tree :=
  let labeled (labels : List String) : StepSpec := { table := .vertex "s" "a", labels }
  let root := ofRoot none { table := .vertex "s" "a", labels := ["c", "a"] }
  let second := (root.addChild? 0 (labeled ["b", "a", "b"])).getD root
  let third := (second.addChild? 1 (labeled [])).getD second
  (third.addChild? 0 (labeled ["d"])).getD third

theorem given_labeledRow : labeledRow.Given [["c", "a"], ["b", "a", "b"], [], ["d"]] := by
  unfold labeledRow
  exact (((Given.root _ _).addChild (by decide) _).addChild (by decide) _).addChild (by decide) _

/-- From the third vertex on, `a` is found at the second one, `c` at the first, and `d` nowhere. -/
theorem keepsLabels_labeledRow :
    labeledRow.Given [["c", "a"], ["b", "a", "b"], [], ["d"]] ∧
      labeledRow.KeepsLabels [["c", "a"], ["b", "a", "b"], [], ["d"]] ∧
      labeledRow.across (·.labels) = [["a", "c"], ["a", "b"], [], ["d"]] ∧
      labeledRow.findLabeled 2 "a" = some 1 ∧ labeledRow.findLabeled 2 "c" = some 0 ∧
      labeledRow.findLabeled 2 "d" = none :=
  ⟨given_labeledRow, given_labeledRow.keepsLabels, by cbv, by cbv, by cbv, by cbv⟩

end Tree

end PathQuery
