/-! # Dividing texts

What is known of the parts between the separators of a text, and of the part before the first
one. -/

namespace PawnScope.Text

variable {α : Type} {p : α → Bool}

/-- The parts hold whatever is in the text and no separator. -/
theorem mem_of_mem_splitOnP {s part : List α} {x : α} (hpart : part ∈ s.splitOnP p)
    (hx : x ∈ part) : x ∈ s ∧ p x = false := by
  induction s generalizing part with
  | nil =>
      rw [List.splitOnP_nil, List.mem_singleton] at hpart
      subst hpart
      cases hx
  | cons y s ih =>
      rw [List.splitOnP_cons_eq_if_modifyHead] at hpart
      split at hpart
      · rcases List.mem_cons.mp hpart with rfl | hpart
        · cases hx
        · exact (ih hpart hx).imp_left (List.mem_cons_of_mem y)
      · rename_i hy
        obtain ⟨first, parts, hparts⟩ := List.exists_cons_of_ne_nil (List.splitOnP_ne_nil p s)
        rw [hparts, List.modifyHead_cons, List.mem_cons] at hpart
        rw [hparts] at ih
        rcases hpart with rfl | hpart
        · rcases List.mem_cons.mp hx with rfl | hx
          · exact ⟨List.mem_cons_self, Bool.eq_false_iff.mpr hy⟩
          · exact (ih List.mem_cons_self hx).imp_left (List.mem_cons_of_mem y)
        · exact (ih (List.mem_cons_of_mem first hpart) hx).imp_left (List.mem_cons_of_mem y)

/-- What ends a text and is no separator ends its last part. -/
theorem exists_splitOnP_concat (s : List α) {x : α} (hx : p x = false) :
    ∃ front last, (s ++ [x]).splitOnP p = front ++ [last ++ [x]] := by
  induction s with
  | nil =>
      refine ⟨[], [], ?_⟩
      rw [List.nil_append, List.splitOnP_eq_singleton (by simpa using hx)]
      rfl
  | cons y s ih =>
      obtain ⟨front, last, hparts⟩ := ih
      rw [List.cons_append, List.splitOnP_cons_eq_if_modifyHead, hparts]
      split
      · exact ⟨[] :: front, last, rfl⟩
      · cases front with
        | nil => exact ⟨[], y :: last, rfl⟩
        | cons first front => exact ⟨(y :: first) :: front, last, rfl⟩

/-- The parts together are the text without its separators. -/
theorem flatten_splitOnP (s : List α) : (s.splitOnP p).flatten = s.filter (!p ·) := by
  induction s with
  | nil => rfl
  | cons y s ih =>
      rw [List.splitOnP_cons_eq_if_modifyHead]
      split
      · rename_i hy
        simp [hy, ih]
      · rename_i hy
        obtain ⟨first, parts, hparts⟩ := List.exists_cons_of_ne_nil (List.splitOnP_ne_nil p s)
        rw [hparts] at ih ⊢
        simp only [List.flatten_cons] at ih
        simp [hy, ← ih]

/-- What satisfies a condition is read up to the first element that does not. -/
theorem takeWhile_append_eq_left {s rest : List α} (hs : ∀ x ∈ s, p x = true)
    (hrest : ∀ x ∈ rest.head?, p x = false) : (s ++ rest).takeWhile p = s := by
  rw [List.takeWhile_append_of_pos hs]
  cases rest with
  | nil => simp
  | cons x rest => simp [hrest x rfl]

/-- An element that a text does not hold divides the text from what follows it. -/
theorem takeWhile_append_cons [DecidableEq α] {x : α} {s : List α} (h : x ∉ s) (rest : List α) :
    (s ++ x :: rest).takeWhile (· != x) = s := by
  induction s with
  | nil => simp
  | cons y s ih =>
      rw [List.mem_cons, not_or] at h
      have hy : y ≠ x := fun hyx => h.1 hyx.symm
      simp [hy, ih h.2]

end PawnScope.Text
