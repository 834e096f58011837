import Mathlib.Data.List.DropRight
import PathQuery.Text.Blank

/-!
# Cutting and trimming

Names are put together from parts with a character between them, and taken apart at the first or
the last place where it stands. What comes out is what went in as long as the part on that side is
free of the character; the other part may have it. Trimming takes blanks away at both ends, and
nothing if there are none.
-/

namespace PathQuery

variable {α : Type}

/-! ## Cutting at a separator -/

section Cut

variable {xs xs' ys ys' : List α} {a : α}

/-- Two lists are cut alike at the last place of an element. -/
theorem append_cons_inj_of_notMem_right (h : a ∉ ys) (h' : a ∉ ys')
    (heq : xs ++ a :: ys = xs' ++ a :: ys') : xs = xs' ∧ ys = ys' := by
  rcases List.append_eq_append_iff.mp heq with ⟨zs, rfl, hys⟩ | ⟨zs, rfl, hys⟩
  · rcases List.cons_eq_append_iff.mp hys with ⟨rfl, hcons⟩ | ⟨zs, rfl, rfl⟩
    · exact ⟨by simp, (List.cons.inj hcons).2.symm⟩
    · exact absurd (by simp) h
  · rcases List.cons_eq_append_iff.mp hys with ⟨rfl, hcons⟩ | ⟨zs, rfl, rfl⟩
    · exact ⟨by simp, (List.cons.inj hcons).2⟩
    · exact absurd (by simp) h'

/-- Two lists are cut alike at the first place of an element. -/
theorem append_cons_inj_of_notMem_left (h : a ∉ xs) (h' : a ∉ xs')
    (heq : xs ++ a :: ys = xs' ++ a :: ys') : xs = xs' ∧ ys = ys' := by
  have hreverse : ys.reverse ++ a :: xs.reverse = ys'.reverse ++ a :: xs'.reverse := by
    simpa using congrArg List.reverse heq
  obtain ⟨hys, hxs⟩ := append_cons_inj_of_notMem_right (by simpa using h) (by simpa using h')
    hreverse
  exact ⟨List.reverse_inj.mp hxs, List.reverse_inj.mp hys⟩

/-- An element of a list stands in it for the last time. -/
theorem exists_append_cons_of_mem (h : a ∈ xs) : ∃ ys zs, xs = ys ++ a :: zs ∧ a ∉ zs := by
  obtain ⟨ys, zs, heq, hys⟩ := List.eq_append_cons_of_mem (List.mem_reverse.mpr h)
  refine ⟨zs.reverse, ys.reverse, ?_, by simpa using hys⟩
  simpa using congrArg List.reverse heq

end Cut

/-! ## Trimming -/

section Trim

variable (p : α → Bool) (l : List α)

theorem trimBoth_eq_rdropWhile : trimBoth p l = (l.dropWhile p).rdropWhile p := rfl

/-- What is trimmed away stands at the ends and is to be trimmed. -/
theorem exists_append_trimBoth : ∃ before after, l = before ++ (trimBoth p l ++ after) ∧
    (∀ x ∈ before, p x) ∧ ∀ x ∈ after, p x := by
  refine ⟨l.takeWhile p, (l.dropWhile p).rtakeWhile p, ?_, fun _ ↦ List.mem_takeWhile_imp,
    fun _ ↦ List.mem_rtakeWhile_imp⟩
  rw [trimBoth_eq_rdropWhile, List.rdropWhile_append_rtakeWhile, List.takeWhile_append_dropWhile]

theorem getLast?_trimBoth : ∀ x ∈ (trimBoth p l).getLast?, p x = false := by
  intro x hx
  obtain ⟨hne, rfl⟩ := List.mem_getLast?_eq_getLast hx
  exact Bool.eq_false_iff.mpr (List.rdropWhile_last_not p (l.dropWhile p) hne)

theorem head?_trimBoth : ∀ x ∈ (trimBoth p l).head?, p x = false := by
  intro x hx
  obtain ⟨after, hafter⟩ := List.rdropWhile_prefix p (l := l.dropWhile p)
  have hhead : x ∈ (l.dropWhile p).head? := by
    rw [← hafter, ← trimBoth_eq_rdropWhile]
    exact List.mem_head?_append_of_mem_head? hx
  have hnot := List.head?_dropWhile_not p l
  rw [Option.mem_def.mp hhead] at hnot
  exact hnot

variable {p l}

theorem trimBoth_eq_self (hhead : ∀ x ∈ l.head?, p x = false)
    (hlast : ∀ x ∈ l.getLast?, p x = false) : trimBoth p l = l := by
  have hdrop : l.dropWhile p = l := by
    cases l with
    | nil => rfl
    | cons x l => rw [List.dropWhile_cons_of_neg (by rw [hhead x rfl]; decide)]
  rw [trimBoth_eq_rdropWhile, hdrop, List.rdropWhile_eq_self_iff]
  intro hne
  rw [hlast _ (List.getLast_mem_getLast? hne)]
  decide

end Trim

end PathQuery
