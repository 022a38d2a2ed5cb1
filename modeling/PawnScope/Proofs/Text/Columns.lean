import PawnScope.Text.Units
import Mathlib.Order.Bounds.Basic

/-! # Columns and characters

A column counts UTF-16 units and an index counts characters. The characters before a column are as
few as possible to make up its units, so that a column inside a pair stands for the end of the pair.
Everything follows from one comparison: an index is below that of a column exactly if it is inside
the line and the units before it do not reach the column. -/

namespace PawnScope.Text

/-! ## Units -/

theorem unitCount_pos (c : Char) : 0 < unitCount c := by
  unfold unitCount
  split
  · omega
  · omega

theorem units_append (s t : List Char) : units (s ++ t) = units s + units t := by
  induction s with
  | nil => simp [units]
  | cons c s ih =>
      simp only [List.cons_append, units, ih]
      omega

theorem length_le_units (s : List Char) : s.length ≤ units s := by
  induction s with
  | nil => simp
  | cons c s ih =>
      have hc := unitCount_pos c
      simp only [List.length_cons, units]
      omega

/-- A beginning of a line that leaves something out has fewer units. -/
theorem units_take_lt {s : List Char} {i j : Nat} (hij : i < j) (hj : j ≤ s.length) :
    units (s.take i) < units (s.take j) := by
  induction s generalizing i j with
  | nil =>
      simp only [List.length_nil] at hj
      omega
  | cons c s ih =>
      obtain ⟨j, rfl⟩ := Nat.exists_eq_succ_of_ne_zero (by omega : j ≠ 0)
      cases i with
      | zero =>
          have hc := unitCount_pos c
          simp only [List.take_zero, List.take_succ_cons, units]
          omega
      | succ i =>
          simp only [List.length_cons] at hj
          have := ih (i := i) (j := j) (by omega) (by omega)
          simp only [List.take_succ_cons, units]
          omega

/-! ## Indices -/

theorem lt_charIndex_iff {s : List Char} {column i : Nat} :
    i < charIndex s column ↔ i < s.length ∧ units (s.take i) < column := by
  induction s generalizing column i with
  | nil => simp [charIndex]
  | cons c s ih =>
      by_cases hcolumn : column = 0
      · simp [charIndex, hcolumn]
      · cases i with
        | zero =>
            simp only [charIndex, hcolumn, ite_false, List.length_cons, List.take_zero, units]
            omega
        | succ i =>
            have hi := @ih (column - unitCount c) i
            simp only [charIndex, hcolumn, ite_false, List.length_cons, List.take_succ_cons, units]
            omega

theorem charIndex_le_length (s : List Char) (column : Nat) : charIndex s column ≤ s.length := by
  by_contra h
  have := (lt_charIndex_iff.mp (Nat.lt_of_not_le h)).1
  omega

theorem charIndex_mono (s : List Char) {column column' : Nat} (h : column ≤ column') :
    charIndex s column ≤ charIndex s column' := by
  by_contra hlt
  have hbelow := lt_charIndex_iff.mp (Nat.lt_of_not_le hlt)
  exact Nat.lt_irrefl _ (lt_charIndex_iff.mpr ⟨hbelow.1, Nat.lt_of_lt_of_le hbelow.2 h⟩)

/-- The column after some characters stands for them. -/
theorem charIndex_units_take {s : List Char} {i : Nat} (hi : i ≤ s.length) :
    charIndex s (units (s.take i)) = i := by
  apply Nat.le_antisymm
  · by_contra hlt
    have hbelow := lt_charIndex_iff.mp (Nat.lt_of_not_le hlt)
    omega
  · by_contra hlt
    have hunits := units_take_lt (Nat.lt_of_not_le hlt) hi
    have hindex : charIndex s (units (s.take i)) < s.length := by omega
    exact Nat.lt_irrefl _ (lt_charIndex_iff.mpr ⟨hindex, hunits⟩)

theorem charIndex_units (s : List Char) : charIndex s (units s) = s.length := by
  simpa using charIndex_units_take (Nat.le_refl s.length)

/-- The characters before a column have as many units, if the whole line has. -/
theorem le_units_take_charIndex {s : List Char} {column : Nat} (h : column ≤ units s) :
    column ≤ units (s.take (charIndex s column)) := by
  by_contra hfew
  have hlength := charIndex_le_length s column
  by_cases hend : charIndex s column = s.length
  · rw [hend, List.take_length] at hfew
    exact hfew h
  · have hinside : charIndex s column < s.length := by omega
    exact Nat.lt_irrefl _ (lt_charIndex_iff.mpr ⟨hinside, Nat.lt_of_not_le hfew⟩)

theorem charIndex_of_units_lt {s : List Char} {column : Nat} (h : units s < column) :
    charIndex s column = s.length := by
  apply Nat.le_antisymm (charIndex_le_length s column)
  rw [← charIndex_units s]
  exact charIndex_mono s (Nat.le_of_lt h)

/-- The index of a column is the least number of characters that have as many units, and the
length of the line if it has fewer. So indices grow with columns, none is beyond the end, and each
number of characters is the index of the column after them. -/
theorem charIndex_isLeast (line : List Char) :
    (∀ column, if column ≤ units line
        then IsLeast {i | column ≤ units (line.take i)} (charIndex line column)
        else charIndex line column = line.length) ∧
      Monotone (charIndex line) ∧
      (∀ column, charIndex line column ≤ line.length) ∧
      ∀ i ≤ line.length, charIndex line (units (line.take i)) = i := by
  refine ⟨?_, fun _ _ => charIndex_mono line, charIndex_le_length line,
    fun i => charIndex_units_take⟩
  intro column
  split
  · rename_i hreached
    refine ⟨le_units_take_charIndex hreached, ?_⟩
    intro i hi
    by_contra hlt
    have hbelow := (lt_charIndex_iff.mp (Nat.lt_of_not_le hlt)).2
    exact Nat.lt_irrefl _ (Nat.lt_of_lt_of_le hbelow hi)
  · rename_i hbeyond
    exact charIndex_of_units_lt (Nat.lt_of_not_le hbeyond)

end PawnScope.Text
