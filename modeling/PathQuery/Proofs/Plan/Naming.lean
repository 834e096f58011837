import Mathlib.Data.List.Nodup
import PathQuery.Plan.Reading
import PathQuery.Proofs.Compile.Run
import PathQuery.Proofs.Number.Digits
import PathQuery.Proofs.Text.Cut

/-!
# The names of the plans of a notebook

Quotes, lists and items only hold other blocks, so a notebook is the row of its headings and fenced
blocks in reading order. From this row its plans are told as they are written, each with the heading
closest above it; which names they get is a question about the slugs of these headings alone. A
name that is numbered tells its slug and its number, hence two names that are given only collide
when one of them is a slug that ends like a numbered name. The numbers are counted for every slug on
its own and nothing keeps such a slug from being given as it is.
-/

namespace PathQuery.Notebook

variable {definitions : List Markdown.Definition}

/-! ## The names that slugs get -/

/-- The name at the `k`-th use of a slug. -/
def numbered (slug : String) (k : ℕ) : String :=
  if 1 < k then slug ++ "-" ++ toString k else slug

theorem nextName_eq_numbered (used : List String) (s : String) :
    nextName used s = numbered s (used.count s + 1) := rfl

theorem numbered_one (s : String) : numbered s 1 = s := rfl

/-- A numbered name tells its slug and its number. -/
theorem numbered_inj {s s' : String} {k k' : ℕ} (hk : 2 ≤ k) (hk' : 2 ≤ k')
    (h : numbered s k = numbered s' k') : s = s' ∧ k = k' := by
  rw [numbered, numbered, if_pos (show 1 < k from hk), if_pos (show 1 < k' from hk')] at h
  have hchars : s.toList ++ '-' :: (Nat.repr k).toList =
      s'.toList ++ '-' :: (Nat.repr k').toList := by
    simpa [String.toList_append] using congrArg String.toList h
  have hdash : ∀ n, '-' ∉ (Nat.repr n).toList := notMem_repr (by decide)
  obtain ⟨hslug, hnumber⟩ := append_cons_inj_of_notMem_right (hdash k) (hdash k') hchars
  exact ⟨String.toList_inj.mp hslug, repr_injective (String.toList_inj.mp hnumber)⟩

theorem numbered_ne_empty {s : String} {k : ℕ} (hk : 2 ≤ k) : numbered s k ≠ "" := by
  intro h
  rw [numbered, if_pos (show 1 < k from hk)] at h
  simpa [String.toList_append] using congrArg String.toList h

/-- The uses of slugs one after the other, each with its number, when those in `used` have been
taken. -/
def uses (used : List String) : List String → List (String × ℕ)
  | [] => []
  | s :: ss => (s, used.count s + 1) :: uses (s :: used) ss

/-- Every slug is numbered on from the number of uses before, as often as it is used. -/
theorem mem_uses_iff {used ss : List String} {s : String} {k : ℕ} :
    (s, k) ∈ uses used ss ↔ used.count s < k ∧ k ≤ used.count s + ss.count s := by
  induction ss generalizing used with
  | nil => exact iff_of_false List.not_mem_nil fun h ↦ Nat.not_le_of_lt h.1 h.2
  | cons t ss ih =>
    rw [uses, List.mem_cons, ih, Prod.mk.injEq]
    by_cases h : t = s
    · subst h
      rw [List.count_cons_self, List.count_cons_self, and_iff_right rfl]
      omega
    · rw [List.count_cons_of_ne h, List.count_cons_of_ne h]
      exact or_iff_right fun heq ↦ h heq.1.symm

theorem nodup_uses (used ss : List String) : (uses used ss).Nodup := by
  induction ss generalizing used with
  | nil => exact List.nodup_nil
  | cons s ss ih =>
    refine List.nodup_cons.mpr ⟨fun hmem ↦ ?_, ih _⟩
    rw [mem_uses_iff, List.count_cons_self] at hmem
    exact Nat.lt_irrefl _ hmem.1

/-- The names that slugs get one after the other, when those in `used` have been taken. -/
def names (used ss : List String) : List String := (uses used ss).map fun u ↦ numbered u.1 u.2

theorem names_cons (used ss : List String) (s : String) :
    names used (s :: ss) = nextName used s :: names (s :: used) ss := by
  rw [nextName_eq_numbered, names, uses, List.map_cons, names]

section Names

variable {ss : List String}

theorem mem_uses_nil_iff {s : String} {k : ℕ} : (s, k) ∈ uses [] ss ↔ 1 ≤ k ∧ k ≤ ss.count s := by
  rw [mem_uses_iff, List.count_nil, Nat.zero_add, Nat.lt_iff_add_one_le]

/-- The first use of a slug is not numbered. -/
theorem mem_uses_one_iff {s : String} : (s, 1) ∈ uses [] ss ↔ s ∈ ss := by
  rw [mem_uses_nil_iff, ← List.count_pos_iff]
  exact and_iff_right (Nat.le_refl 1)

/-- Names are given once exactly when no slug is the numbered name of another, as far as the numbers
go. -/
theorem nodup_names_iff :
    (names [] ss).Nodup ↔ ∀ s k, 2 ≤ k → k ≤ ss.count s → numbered s k ∉ ss := by
  rw [names, List.nodup_map_iff_inj_on (nodup_uses [] ss)]
  constructor
  · intro hinj s k hk hle hmem
    -- the slug gets its name unnumbered, which is the numbered name of the other
    have heq := hinj (s, k) (mem_uses_nil_iff.mpr ⟨by omega, hle⟩) _ (mem_uses_one_iff.mpr hmem)
      (numbered_one _).symm
    have hone : k = 1 := congrArg Prod.snd heq
    omega
  · intro hclear
    have hmixed : ∀ s t k, (s, 1) ∈ uses [] ss → (t, k) ∈ uses [] ss → 2 ≤ k →
        numbered s 1 ≠ numbered t k := fun s t k hs ht hk heq ↦
      hclear t k hk (mem_uses_nil_iff.mp ht).2
        (heq ▸ (numbered_one s).symm ▸ mem_uses_one_iff.mp hs)
    rintro ⟨s, k⟩ hs ⟨t, l⟩ ht heq
    have hk := (mem_uses_nil_iff.mp hs).1
    have hl := (mem_uses_nil_iff.mp ht).1
    rcases Nat.eq_or_lt_of_le hk with rfl | hk
    · rcases Nat.eq_or_lt_of_le hl with rfl | hl
      · exact Prod.ext heq rfl
      · exact absurd heq (hmixed s t l hs ht hl)
    · rcases Nat.eq_or_lt_of_le hl with rfl | hl
      · exact absurd heq.symm (hmixed t s k ht hs hk)
      · obtain ⟨rfl, rfl⟩ := numbered_inj hk hl heq
        rfl

/-- Only a slug without characters gets a name without any. -/
theorem empty_mem_names_iff : "" ∈ names [] ss ↔ "" ∈ ss := by
  rw [names, List.mem_map]
  constructor
  · rintro ⟨⟨s, k⟩, hmem, hname⟩
    rcases Nat.eq_or_lt_of_le (mem_uses_nil_iff.mp hmem).1 with rfl | hk
    · exact (show s = "" from hname) ▸ mem_uses_one_iff.mp hmem
    · exact absurd hname (numbered_ne_empty hk)
  · exact fun hmem ↦ ⟨("", 1), mem_uses_one_iff.mpr hmem, rfl⟩

end Names

/-! ## Plans as they are written -/

/-- A plan as it is written in a notebook. -/
structure Entry where
  /-- The closest heading above it. -/
  heading : String
  /-- The plan. -/
  plan : Plan

namespace Entry

/-- Whether a plan is called after its heading: it has no name of its own, and there is one. -/
def isCalled (e : Entry) : Bool := e.plan.name = "" && e.heading ≠ ""

end Entry

/-- The slugs of the headings that plans are called after. -/
def slugs (es : List Entry) : List String :=
  (es.filter Entry.isCalled).map fun e ↦ slug e.heading

/-- The names that plans got from their headings. -/
def derivedNames (es : List Entry) (ps : List Plan) : List String :=
  ((es.zip ps).filter fun x ↦ x.1.isCalled).map fun x ↦ x.2.name

/-- The plans with the names they get, when those in `used` have been taken. -/
def named (used : List String) : List Entry → List Plan
  | [] => []
  | e :: es =>
    if e.isCalled then
      { e.plan with name := nextName used (slug e.heading) } :: named (slug e.heading :: used) es
    else e.plan :: named used es

/-- A plan keeps everything but its name, and that as well if it is not called after a heading. -/
theorem forall₂_named (used : List String) (es : List Entry) :
    List.Forall₂ (fun e p ↦ (p = if e.isCalled then { e.plan with name := p.name } else e.plan))
      es (named used es) := by
  induction es generalizing used with
  | nil => exact .nil
  | cons e es ih =>
    rw [named]
    split
    · next h => exact .cons (by rw [if_pos h]) (ih _)
    · next h => exact .cons (by rw [if_neg h]) (ih _)

theorem derivedNames_named (used : List String) (es : List Entry) :
    derivedNames es (named used es) = names used (slugs es) := by
  induction es generalizing used with
  | nil => rfl
  | cons e es ih =>
    simp only [derivedNames, slugs] at ih
    rw [named, derivedNames, slugs]
    split
    · next h => simp [h, names_cons, ih]
    · next h => simp [h, ih]

theorem slugs_append (es es' : List Entry) : slugs (es ++ es') = slugs es ++ slugs es' := by
  rw [slugs, List.filter_append, List.map_append, ← slugs, ← slugs]

theorem named_append (used : List String) (es es' : List Entry) :
    named used (es ++ es') = named used es ++ named ((slugs es).reverse ++ used) es' := by
  induction es generalizing used with
  | nil => rfl
  | cons e es ih =>
    rw [List.cons_append, named, named, slugs]
    split
    · next h => simp [h, ih, slugs]
    · next h => simp [h, ih, slugs]

/-! ## The row of marks -/

/-- A block that matters for the plans of a notebook. -/
inductive Mark where
  /-- A heading with its lines. -/
  | heading (lines : List Markdown.Line)
  /-- A fenced block: the text after its opening fence, and its lines. -/
  | fence (info : String) (lines : List String)

mutual

/-- The marks in a block, in reading order. -/
def marks : Markdown.Block → List Mark
  | .heading _ lines => [.heading lines]
  | .fence info lines => [.fence info lines]
  | .quote body | .list _ body | .item body => marksAll body
  | .paragraph _ | .other | .nothing => []

/-- The marks in blocks, in reading order. -/
def marksAll : List Markdown.Block → List Mark
  | [] => []
  | b :: bs => marks b ++ marksAll bs

end

/-- The text of a heading. -/
def headingText (definitions : List Markdown.Definition) (lines : List Markdown.Line) : String :=
  trimBlanks (Markdown.outerText (Markdown.inlines { definitions } lines))

theorem addHeading_eq (s : State) (lines : List Markdown.Line) :
    s.addHeading definitions lines = { s with heading := headingText definitions lines } := rfl

/-- The plans of a fenced block, if it holds any. -/
def fencePlans (info : String) (lines : List String) : Except PlanError (List Plan) :=
  if isPlanFence info then Plan.parse (String.join lines) else .ok []

/-- The plans that are written in a row of marks below a heading. -/
def entriesFrom (definitions : List Markdown.Definition) (heading : String) :
    List Mark → Except PlanError (List Entry)
  | [] => .ok []
  | .heading lines :: ms => entriesFrom definitions (headingText definitions lines) ms
  | .fence info lines :: ms => do
    let ps ← fencePlans info lines
    let es ← entriesFrom definitions heading ms
    .ok (ps.map (⟨heading, ·⟩) ++ es)

/-- The plans of a notebook as they are written. -/
def outline (text : String) : Except PlanError (List Entry) :=
  let doc := Markdown.read text
  entriesFrom doc.definitions "" (marksAll doc.blocks)

/-! ## Reading a notebook -/

/-- Takes a mark. -/
def State.addMark (definitions : List Markdown.Definition) (s : State) :
    Mark → Except PlanError State
  | .heading lines => .ok (s.addHeading definitions lines)
  | .fence info lines => s.addFence info lines

mutual

theorem addBlock_eq_foldlM : ∀ (b : Markdown.Block) (s : State),
    s.addBlock definitions b = (marks b).foldlM (State.addMark definitions) s
  | .quote body, s | .list _ body, s | .item body, s => by
    rw [State.addBlock, marks, addBlocks_eq_foldlM]
  | .heading .., s | .fence .., s => by
    rw [State.addBlock, marks, List.foldlM_cons]
    exact (bind_pure _).symm
  | .paragraph _, s | .other, s | .nothing, s => rfl

theorem addBlocks_eq_foldlM : ∀ (bs : List Markdown.Block) (s : State),
    s.addBlocks definitions bs = (marksAll bs).foldlM (State.addMark definitions) s
  | [], s => rfl
  | b :: bs, s => by
    rw [State.addBlocks, marksAll, List.foldlM_append, addBlock_eq_foldlM b s]
    exact congrArg _ (funext fun s ↦ addBlocks_eq_foldlM bs s)

end

/-- What plans that are written below the heading of a state add to it. -/
structure Adds (s s' : State) (es : List Entry) : Prop where
  /-- The heading stays. -/
  heading : s'.heading = s.heading
  /-- The slugs that plans are called after are taken. -/
  used : s'.used = (slugs es).reverse ++ s.used
  /-- The plans come behind those before. -/
  plans : s'.plans = s.plans ++ named s.used es

theorem Adds.trans {s s' s'' : State} {es es' : List Entry} (h : Adds s s' es)
    (h' : Adds s' s'' es') : Adds s s'' (es ++ es') where
  heading := h'.heading.trans h.heading
  used := by rw [h'.used, h.used, slugs_append, List.reverse_append, List.append_assoc]
  plans := by rw [h'.plans, h.plans, h.used, named_append, List.append_assoc]

theorem adds_addPlan (s : State) (p : Plan) : Adds s (s.addPlan p) [⟨s.heading, p⟩] := by
  have hstep : s.addPlan p = if (Entry.mk s.heading p).isCalled then
      { s with
        used := slug s.heading :: s.used
        plans := s.plans ++ [{ p with name := nextName s.used (slug s.heading) }] }
      else { s with plans := s.plans ++ [p] } := rfl
  cases h : (Entry.mk s.heading p).isCalled with
  | true => constructor <;> simp [hstep, slugs, named, h]
  | false => constructor <;> simp [hstep, slugs, named, h]

theorem adds_foldl_addPlan (s : State) (ps : List Plan) :
    Adds s (ps.foldl State.addPlan s) (ps.map (⟨s.heading, ·⟩)) := by
  induction ps generalizing s with
  | nil => exact ⟨rfl, rfl, (List.append_nil _).symm⟩
  | cons p ps ih =>
    have hrest := ih (s.addPlan p)
    rw [(adds_addPlan s p).heading] at hrest
    exact (adds_addPlan s p).trans hrest

theorem addFence_eq_ok_iff {s s' : State} {info : String} {lines : List String} :
    s.addFence info lines = .ok s' ↔
      ∃ ps, fencePlans info lines = .ok ps ∧ ps.foldl State.addPlan s = s' := by
  rw [State.addFence, fencePlans]
  split
  · rw [bind_eq_ok_iff]
    simp only [Except.ok.injEq]
  · simp

/-- Taking a row of marks adds the plans that are written in it. -/
theorem exists_foldlM_addMark_iff {ms : List Mark} {s : State} {ps : List Plan} :
    (∃ s', ms.foldlM (State.addMark definitions) s = .ok s' ∧ s'.plans = ps) ↔
      ∃ es, entriesFrom definitions s.heading ms = .ok es ∧ s.plans ++ named s.used es = ps := by
  induction ms generalizing s with
  | nil => simp [entriesFrom, named, pure, Except.pure]
  | cons m ms ih =>
    cases m with
    | heading lines =>
      have hstep : List.foldlM (State.addMark definitions) s (.heading lines :: ms) =
          ms.foldlM (State.addMark definitions) (s.addHeading definitions lines) := by
        rw [List.foldlM_cons, State.addMark]
        rfl
      rw [hstep, entriesFrom, ih, addHeading_eq]
    | fence info lines =>
      rw [List.foldlM_cons, State.addMark, entriesFrom]
      constructor
      · rintro ⟨s', hrun, hps⟩
        obtain ⟨s₁, hfence, hrun⟩ := bind_eq_ok_iff.mp hrun
        obtain ⟨qs, hqs, rfl⟩ := addFence_eq_ok_iff.mp hfence
        have hadds := adds_foldl_addPlan s qs
        obtain ⟨es, hes, hplans⟩ := ih.mp ⟨s', hrun, hps⟩
        rw [hadds.heading] at hes
        refine ⟨_, bind_eq_ok_iff.mpr ⟨qs, hqs, bind_eq_ok_iff.mpr ⟨es, hes, rfl⟩⟩, ?_⟩
        rw [named_append, ← hplans, hadds.plans, hadds.used, List.append_assoc]
      · rintro ⟨all, hall, hplans⟩
        obtain ⟨qs, hqs, hall⟩ := bind_eq_ok_iff.mp hall
        obtain ⟨es, hes, hall⟩ := bind_eq_ok_iff.mp hall
        obtain rfl := Except.ok.inj hall
        have hadds := adds_foldl_addPlan s qs
        rw [← hadds.heading] at hes
        rw [named_append, ← List.append_assoc, ← hadds.plans, ← hadds.used] at hplans
        obtain ⟨s', hrun, hps⟩ := ih.mpr ⟨es, hes, hplans⟩
        exact ⟨s', bind_eq_ok_iff.mpr ⟨_, addFence_eq_ok_iff.mpr ⟨qs, hqs, rfl⟩, hrun⟩, hps⟩

/-- The plans of a notebook are those that are written in it, with the names they get. -/
theorem parseNotebook_eq_ok_iff {text : String} {ps : List Plan} :
    Plan.parseNotebook text = .ok ps ↔
      ∃ es, outline text = .ok es ∧ es ≠ [] ∧ ps = named [] es := by
  have hrun : (∃ s', (marksAll (Markdown.read text).blocks).foldlM
      (State.addMark (Markdown.read text).definitions) {} = .ok s' ∧ s'.plans = ps) ↔
      ∃ es, outline text = .ok es ∧ named [] es = ps := exists_foldlM_addMark_iff
  have hempty : ∀ {es}, named [] es = [] ↔ es = [] := fun {es} ↦ by
    rw [← List.length_eq_zero_iff, ← (forall₂_named [] es).length_eq, List.length_eq_zero_iff]
  rw [Plan.parseNotebook, bind_eq_ok_iff]
  simp only [addBlocks_eq_foldlM]
  constructor
  · rintro ⟨s, hs, hps⟩
    split at hps
    · cases hps
    · next hfilled =>
      obtain ⟨es, hes, hplans⟩ := hrun.mp ⟨s, hs, Except.ok.inj hps⟩
      refine ⟨es, hes, fun hnil ↦ hfilled ?_, hplans.symm⟩
      rw [Except.ok.inj hps, ← hplans, hempty.mpr hnil]
      rfl
  · rintro ⟨es, hes, hfilled, hplans⟩
    obtain ⟨s, hs, hps⟩ := hrun.mpr ⟨es, hes, hplans.symm⟩
    refine ⟨s, hs, ?_⟩
    rw [hps, hplans, if_neg (by rwa [List.isEmpty_iff, hempty])]

end PathQuery.Notebook

namespace PathQuery

open Notebook

/-- **The names that plans get from headings.** Of a notebook that is read, the plans are those that
are written in it, and only the names of those are changed that have none and stand below a heading.
They are distinct exactly when no slug of these headings is the numbered name of another, as far as
the numbers go, and none of them is empty exactly when no slug is. -/
theorem Plan.nodup_derivedNames_iff {text : String} {ps : List Plan}
    (h : Plan.parseNotebook text = .ok ps) :
    ∃ es, outline text = .ok es ∧
      List.Forall₂ (fun e p ↦ p = if e.isCalled then { e.plan with name := p.name } else e.plan)
        es ps ∧
      ((derivedNames es ps).Nodup ↔
        ∀ s k, 2 ≤ k → k ≤ (slugs es).count s → numbered s k ∉ slugs es) ∧
      ("" ∉ derivedNames es ps ↔ "" ∉ slugs es) := by
  obtain ⟨es, hes, -, rfl⟩ := parseNotebook_eq_ok_iff.mp h
  refine ⟨es, hes, forall₂_named [] es, ?_, ?_⟩
  · rw [derivedNames_named, nodup_names_iff]
  · rw [derivedNames_named, empty_mem_names_iff]

/-- Two plans below one heading, and one below a heading that is like the second name. -/
def collidingNotebook : String :=
  "# a\n```plan\nroots: [\x7b\x7d]\n---\nroots: [\x7b\x7d]\n```\n" ++
    "# a 2\n```plan\nroots: [\x7b\x7d]\n```\n"

/-- The second plan is numbered, and the third gets the same name from its heading. -/
theorem Plan.not_nodup_derivedNames_collidingNotebook :
    ∃ ps es, Plan.parseNotebook collidingNotebook = .ok ps ∧
      outline collidingNotebook = .ok es ∧ derivedNames es ps = ["a", "a-2", "a-2"] ∧
      ¬ (derivedNames es ps).Nodup := by
  have hwritten : (match outline collidingNotebook with
      | .ok es => slugs es == ["a", "a", "a-2"]
      | .error _ => false) = true := by decide +kernel
  split at hwritten
  · next es hes =>
    have hslugs : slugs es = ["a", "a", "a-2"] := eq_of_beq hwritten
    have hfilled : es ≠ [] := by
      rintro rfl
      cases hslugs
    have hread := parseNotebook_eq_ok_iff.mpr ⟨es, hes, hfilled, rfl⟩
    obtain ⟨es', hes', -, hnodup, -⟩ := Plan.nodup_derivedNames_iff hread
    obtain rfl : es = es' := Except.ok.inj (hes.symm.trans hes')
    refine ⟨_, es, hread, hes, ?_, ?_⟩
    · rw [derivedNames_named, hslugs]
      decide
    · rw [hnodup, hslugs]
      exact fun hclear ↦ hclear "a" 2 (by decide) (by decide) (by decide)
  · cases hwritten

end PathQuery
