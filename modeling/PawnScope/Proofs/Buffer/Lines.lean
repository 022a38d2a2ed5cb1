import PawnScope.Buffer
import Mathlib.Data.List.Basic

/-! # Where lines start

A line of a document starts at the beginning of the text and after each character that ends a line.
The lines before such a place are those of the text before it, and the lines after it are those of
the text after it, so that the number of a line is the number of breaks before it. -/

namespace PawnScope.Buffer

/-! ## Breaks -/

/-- A character ends a line: it is a break, and not the carriage return of a line feed that comes
next. -/
def endsLine (c : Char) (rest : List Char) : Bool :=
  isBreak c && !(c == '\r' && rest.head? == some '\n')

/-- The number of characters that end a line. -/
def breakCount : List Char → Nat
  | [] => 0
  | c :: s => (if endsLine c s then 1 else 0) + breakCount s

/-- A line starts between two parts of a text. -/
def IsLineStart (front back : List Char) : Prop :=
  front = [] ∨ ∃ init c, front = init ++ [c] ∧ endsLine c back = true

theorem endsLine_append (c : Char) {front : List Char} (h : front ≠ []) (back : List Char) :
    endsLine c (front ++ back) = endsLine c front := by
  simp [endsLine, List.head?_append_of_ne_nil _ h]

/-- What ends a line before some text ends a line at the end of a text. -/
theorem endsLine_nil {c : Char} {rest : List Char} (h : endsLine c rest = true) :
    endsLine c [] = true := by
  simp only [endsLine, Bool.and_eq_true] at h
  simp [endsLine, h.1]

theorem IsLineStart.cons {front back : List Char} (h : IsLineStart front back) {c : Char}
    (hc : front = [] → endsLine c back = true) : IsLineStart (c :: front) back := by
  right
  obtain rfl | ⟨init, d, rfl, hd⟩ := h
  · exact ⟨[], c, rfl, hc rfl⟩
  · exact ⟨c :: init, d, rfl, hd⟩

/-! ## Lines -/

theorem exists_linesOf_eq_cons (s : List Char) :
    ∃ line rest, linesOf s = line :: rest ∧ line.head? = s.head? := by
  cases s with
  | nil => exact ⟨[], [], rfl, rfl⟩
  | cons c s =>
      change ∃ line rest, addChar c (linesOf s) = line :: rest ∧ line.head? = some c
      unfold addChar
      split
      · split
        · exact ⟨[c], [[]], rfl, rfl⟩
        · exact ⟨[c], [], rfl, rfl⟩
      · split
        · exact ⟨[c], _, rfl, rfl⟩
        · exact ⟨c :: _, _, rfl, rfl⟩

/-- One more character in front: it is a line by itself if it ends one, and belongs to the first
line otherwise. -/
theorem linesOf_cons (c : Char) {s line : List Char} {rest : List (List Char)}
    (h : linesOf s = line :: rest) :
    linesOf (c :: s) = if endsLine c s then [c] :: line :: rest else (c :: line) :: rest := by
  obtain ⟨line', rest', hs, hhead⟩ := exists_linesOf_eq_cons s
  rw [h] at hs
  obtain ⟨rfl, rfl⟩ := List.cons.inj hs
  change addChar c (linesOf s) = _
  simp only [h, addChar, endsLine, hhead]
  rfl

theorem linesOf_cons_of_endsLine {c : Char} {s : List Char} (h : endsLine c s = true) :
    linesOf (c :: s) = [c] :: linesOf s := by
  obtain ⟨line, rest, hs, -⟩ := exists_linesOf_eq_cons s
  rw [linesOf_cons c hs, if_pos h, hs]

theorem flatten_linesOf (s : List Char) : (linesOf s).flatten = s := by
  induction s with
  | nil => rfl
  | cons c s ih =>
      obtain ⟨line, rest, hs, -⟩ := exists_linesOf_eq_cons s
      rw [hs, List.flatten_cons] at ih
      rw [linesOf_cons c hs]
      split
      · simp [ih]
      · simp [ih]

theorem length_linesOf (s : List Char) : (linesOf s).length = breakCount s + 1 := by
  induction s with
  | nil => rfl
  | cons c s ih =>
      obtain ⟨line, rest, hs, -⟩ := exists_linesOf_eq_cons s
      rw [hs, List.length_cons] at ih
      rw [linesOf_cons c hs, breakCount]
      split
      · simp only [List.length_cons]
        omega
      · simp only [List.length_cons]
        omega

theorem ne_nil_of_mem_dropLast_linesOf {s line : List Char} (h : line ∈ (linesOf s).dropLast) :
    line ≠ [] := by
  induction s with
  | nil => simp [linesOf] at h
  | cons c s ih =>
      obtain ⟨first, rest, hs, -⟩ := exists_linesOf_eq_cons s
      rw [linesOf_cons c hs] at h
      rw [hs] at ih
      split at h
      · rcases List.mem_cons.mp h with rfl | h
        · simp
        · exact ih h
      · cases rest with
        | nil => simp at h
        | cons second rest =>
            rcases List.mem_cons.mp h with rfl | h
            · simp
            · exact ih (List.mem_cons_of_mem first h)

/-- The lines up to a character that ends one are the same whatever follows. -/
theorem exists_linesOf_eq_append {c : Char} {back : List Char} (h : endsLine c back = true)
    (init : List Char) :
    ∃ line rest, linesOf (init ++ [c]) = line :: rest ++ [[]] ∧
      linesOf (init ++ c :: back) = line :: rest ++ linesOf back := by
  induction init with
  | nil =>
      exact ⟨[c], [], linesOf_cons_of_endsLine (endsLine_nil h), linesOf_cons_of_endsLine h⟩
  | cons d init ih =>
      obtain ⟨line, rest, hends, hgoes⟩ := ih
      have hsame : endsLine d (init ++ c :: back) = endsLine d (init ++ [c]) := by
        rw [List.append_cons, endsLine_append d (by simp)]
      rw [List.cons_append] at hends hgoes
      rw [List.cons_append, List.cons_append, linesOf_cons d hends, linesOf_cons d hgoes, hsame]
      split
      · exact ⟨[d], line :: rest, rfl, rfl⟩
      · exact ⟨d :: line, rest, rfl, rfl⟩

/-- Where a line starts, the lines of a text are divided into those before and those after. -/
theorem linesOf_append {front back : List Char} (h : IsLineStart front back) :
    linesOf (front ++ back) = (linesOf front).dropLast ++ linesOf back := by
  obtain rfl | ⟨init, c, rfl, hc⟩ := h
  · rfl
  · obtain ⟨line, rest, hends, hgoes⟩ := exists_linesOf_eq_append hc init
    rw [hends, List.dropLast_concat, ← hgoes, List.append_assoc, List.singleton_append]

/-- The breaks of a text are divided as well. -/
theorem breakCount_append {front back : List Char} (h : IsLineStart front back) :
    breakCount (front ++ back) = breakCount front + breakCount back := by
  have hlines := congrArg List.length (linesOf_append h)
  rw [List.length_append, List.length_dropLast, length_linesOf, length_linesOf,
    length_linesOf] at hlines
  omega

/-- A text has a line for each number of breaks. -/
theorem exists_isLineStart {s : List Char} {n : Nat} (hn : n ≤ breakCount s) :
    ∃ front back, s = front ++ back ∧ IsLineStart front back ∧ breakCount front = n := by
  induction s generalizing n with
  | nil =>
      obtain rfl : n = 0 := Nat.le_zero.mp hn
      exact ⟨[], [], rfl, Or.inl rfl, rfl⟩
  | cons c s ih =>
      cases n with
      | zero => exact ⟨[], c :: s, rfl, Or.inl rfl, rfl⟩
      | succ n =>
          rw [breakCount] at hn
          by_cases hc : endsLine c s = true
          · rw [if_pos hc] at hn
            obtain ⟨front, back, rfl, hstart, hcount⟩ := ih (n := n) (by omega)
            have hends : endsLine c front = true := by
              by_cases hfront : front = []
              · rw [hfront]
                exact endsLine_nil hc
              · rwa [endsLine_append c hfront] at hc
            refine ⟨c :: front, back, rfl, hstart.cons ?_, ?_⟩
            · rintro rfl
              exact hc
            · rw [breakCount, if_pos hends, hcount, Nat.add_comm]
          · rw [if_neg hc, Nat.zero_add] at hn
            obtain ⟨front, back, rfl, hstart, hcount⟩ := ih hn
            have hfront : front ≠ [] := by
              rintro rfl
              simp [breakCount] at hcount
            rw [endsLine_append c hfront] at hc
            refine ⟨c :: front, back, rfl, hstart.cons fun hnil => absurd hnil hfront, ?_⟩
            rw [breakCount, if_neg hc, hcount, Nat.zero_add]

/-! ## The start of a line -/

/-- The number of characters before a line. -/
def lineStart (s : List Char) (n : Nat) : Nat := ((linesOf s).take n).flatten.length

/-- The line with a given number starts after some characters: so many breaks are before it. -/
def StartsAt (s : List Char) (n i : Nat) : Prop :=
  ∃ front back, s = front ++ back ∧ IsLineStart front back ∧ breakCount front = n ∧
    front.length = i

theorem lineStart_append {front back : List Char} (h : IsLineStart front back) :
    lineStart (front ++ back) (breakCount front) = front.length := by
  have hlines := linesOf_append h
  have hlength : (linesOf front).dropLast.length = breakCount front := by
    rw [List.length_dropLast, length_linesOf]
    rfl
  have hflatten := congrArg List.flatten hlines
  rw [List.flatten_append, flatten_linesOf, flatten_linesOf] at hflatten
  rw [lineStart, hlines, List.take_left' hlength, ← List.append_cancel_right hflatten]

theorem startsAt_iff {s : List Char} {n i : Nat} :
    StartsAt s n i ↔ n ≤ breakCount s ∧ i = lineStart s n := by
  constructor
  · rintro ⟨front, back, rfl, hstart, rfl, rfl⟩
    rw [lineStart_append hstart, breakCount_append hstart]
    exact ⟨Nat.le_add_right _ _, rfl⟩
  · rintro ⟨hn, rfl⟩
    obtain ⟨front, back, rfl, hstart, rfl⟩ := exists_isLineStart hn
    exact ⟨front, back, rfl, hstart, rfl, (lineStart_append hstart).symm⟩

theorem lineStart_succ {s line : List Char} {n : Nat} (h : (linesOf s)[n]? = some line) :
    lineStart s (n + 1) = lineStart s n + line.length := by
  simp [lineStart, List.take_add_one, h]

theorem lineStart_of_le {s : List Char} {n : Nat} (h : (linesOf s).length ≤ n) :
    lineStart s n = s.length := by
  rw [lineStart, List.take_of_length_le h, flatten_linesOf]

theorem lineStart_mono (s : List Char) {m n : Nat} (h : m ≤ n) : lineStart s m ≤ lineStart s n := by
  induction h with
  | refl => exact Nat.le_refl _
  | @step n hmn ih =>
      refine Nat.le_trans ih ?_
      cases hline : (linesOf s)[n]? with
      | none =>
          have hn := List.getElem?_eq_none_iff.mp hline
          rw [lineStart_of_le hn]
          exact Nat.le_of_eq (lineStart_of_le (Nat.le_succ_of_le hn)).symm
      | some line =>
          rw [lineStart_succ hline]
          exact Nat.le_add_right _ _

theorem lineStart_le_length (s : List Char) (n : Nat) : lineStart s n ≤ s.length := by
  have h := lineStart_mono s (Nat.le_max_left n (linesOf s).length)
  rwa [lineStart_of_le (Nat.le_max_right n (linesOf s).length)] at h

/-- Only the last line can be empty, so that each of the others starts before the next. -/
theorem lineStart_lt {s : List Char} {m n : Nat} (hmn : m < n) (hn : n ≤ breakCount s) :
    lineStart s m < lineStart s n := by
  have hm : m < (linesOf s).dropLast.length := by
    rw [List.length_dropLast, length_linesOf]
    omega
  have hline : (linesOf s)[m]? = some (linesOf s).dropLast[m] := by
    rw [← List.getElem?_eq_getElem hm, List.getElem?_dropLast, if_pos]
    rwa [List.length_dropLast] at hm
  have hne := ne_nil_of_mem_dropLast_linesOf (List.getElem_mem hm)
  refine Nat.lt_of_lt_of_le ?_ (lineStart_mono s hmn)
  rw [lineStart_succ hline]
  exact Nat.lt_add_of_pos_right (List.length_pos_iff.mpr hne)

end PawnScope.Buffer
