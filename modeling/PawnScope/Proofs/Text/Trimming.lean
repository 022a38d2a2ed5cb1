import PawnScope.Text.Space
import Mathlib.Data.List.TakeWhile

/-! # Trimming

A trimmed text is what is left between the white space on both sides. -/

namespace PawnScope.Text

/-- A text without white space on either side. -/
structure IsTrimmed (s : List Char) : Prop where
  head : ∀ c ∈ s.head?, isSpace c = false
  last : ∀ c ∈ s.getLast?, isSpace c = false

theorem isTrimmed_of_forall {s : List Char} (h : ∀ c ∈ s, isSpace c = false) : IsTrimmed s :=
  ⟨fun c hc => h c (List.mem_of_mem_head? hc), fun c hc => h c (List.mem_of_mem_getLast? hc)⟩

theorem IsTrimmed.append {s t : List Char} (hs : IsTrimmed s) (ht : IsTrimmed t) :
    IsTrimmed (s ++ t) := by
  constructor
  · intro c hc
    rw [List.head?_append, Option.mem_def, Option.or_eq_some_iff] at hc
    rcases hc with hc | ⟨-, hc⟩
    · exact hs.head c hc
    · exact ht.head c hc
  · intro c hc
    rw [List.getLast?_append, Option.mem_def, Option.or_eq_some_iff] at hc
    rcases hc with hc | ⟨-, hc⟩
    · exact ht.last c hc
    · exact hs.last c hc

theorem IsTrimmed.between {s t : List Char} (hs : IsTrimmed s) (hsne : s ≠ []) (ht : IsTrimmed t)
    (htne : t ≠ []) (middle : List Char) : IsTrimmed (s ++ (middle ++ t)) := by
  obtain ⟨d, hd⟩ := Option.ne_none_iff_exists'.mp (mt List.head?_eq_none_iff.mp hsne)
  obtain ⟨e, he⟩ := Option.ne_none_iff_exists'.mp (mt List.getLast?_eq_none_iff.mp htne)
  constructor
  · intro c hc
    rw [List.head?_append, hd] at hc
    exact hs.head c (hd.trans hc)
  · intro c hc
    rw [← List.append_assoc, List.getLast?_append, he] at hc
    exact ht.last c (he.trans hc)

theorem notMem_of_isBlank {s : List Char} (h : isBlank s = true) {c : Char}
    (hc : isSpace c = false) : c ∉ s := by
  intro hmem
  rw [List.all_eq_true.mp h c hmem] at hc
  cases hc

theorem trimStart_cons {c : Char} (h : isSpace c = false) (s : List Char) :
    trimStart (c :: s) = c :: s := by
  simp [trimStart, h]

theorem trimStart_of_head {s : List Char} (h : ∀ c ∈ s.head?, isSpace c = false) :
    trimStart s = s := by
  cases s with
  | nil => rfl
  | cons c s => exact trimStart_cons (h c rfl) s

theorem trimStart_blank_append {a : List Char} (ha : isBlank a = true) (s : List Char) :
    trimStart (a ++ s) = trimStart s :=
  List.dropWhile_append_of_pos (List.all_eq_true.mp ha)

theorem trimStart_append_cons {a : List Char} {c : Char} (ha : isBlank a = true)
    (hc : isSpace c = false) (s : List Char) : trimStart (a ++ c :: s) = c :: s := by
  rw [trimStart_blank_append ha, trimStart_cons hc]

theorem exists_blank_append_trimStart (s : List Char) :
    ∃ a, isBlank a = true ∧ s = a ++ trimStart s :=
  ⟨s.takeWhile isSpace, List.all_takeWhile, List.takeWhile_append_dropWhile.symm⟩

theorem trimEnd_eq (s : List Char) : trimEnd s = (trimStart s.reverse).reverse := rfl

/-- What stands between white space on both sides is left. -/
theorem trim_append {a s b : List Char} (ha : isBlank a = true) (hs : IsTrimmed s)
    (hb : isBlank b = true) : trim (a ++ (s ++ b)) = s := by
  have hbreverse : isBlank b.reverse = true := by simpa [isBlank] using hb
  have hreverse : trimStart s.reverse = s.reverse := by
    apply trimStart_of_head
    simpa using hs.last
  cases s with
  | nil =>
      have hblank : trimStart (a ++ ([] ++ b)) = [] := by
        rw [trimStart_blank_append ha, List.nil_append, trimStart, List.dropWhile_eq_nil_iff]
        exact List.all_eq_true.mp hb
      rw [trim, hblank]
      rfl
  | cons c s =>
      have hstart : trimStart (c :: s ++ b) = c :: s ++ b := trimStart_of_head hs.head
      rw [trim, trimStart_blank_append ha, hstart, trimEnd_eq, List.reverse_append,
        trimStart_blank_append hbreverse, hreverse, List.reverse_reverse]

theorem IsTrimmed.trim_eq {s : List Char} (hs : IsTrimmed s) : trim s = s := by
  simpa using trim_append (a := []) rfl hs (b := []) rfl

theorem trimStart_eq_append (s : List Char) :
    trimStart s = trim s ++ ((trimStart s).reverse.takeWhile isSpace).reverse := by
  rw [trim, trimEnd, ← List.reverse_append, List.takeWhile_append_dropWhile, List.reverse_reverse]

/-- A text is white space, the trimmed text and white space. -/
theorem exists_trim (s : List Char) :
    ∃ a b, isBlank a = true ∧ isBlank b = true ∧ s = a ++ (trim s ++ b) := by
  refine ⟨s.takeWhile isSpace, ((trimStart s).reverse.takeWhile isSpace).reverse, ?_, ?_, ?_⟩
  · exact List.all_takeWhile
  · rw [isBlank, List.all_reverse]
    exact List.all_takeWhile
  · rw [← trimStart_eq_append]
    exact List.takeWhile_append_dropWhile.symm

theorem trim_isInfix (s : List Char) : trim s <:+: s := by
  obtain ⟨a, b, -, -, hs⟩ := exists_trim s
  exact ⟨a, b, by rw [List.append_assoc, ← hs]⟩

theorem trim_eq_nil_iff {s : List Char} : trim s = [] ↔ isBlank s = true := by
  have hend : ∀ t, trimEnd t = [] ↔ isBlank t = true := by
    simp [trimEnd, isBlank, List.dropWhile_eq_nil_iff]
  obtain ⟨a, ha, hs⟩ := exists_blank_append_trimStart s
  rw [trim, hend]
  constructor
  · intro h
    rw [hs, isBlank, List.all_append, Bool.and_eq_true]
    exact ⟨ha, h⟩
  · intro h
    rw [hs, isBlank, List.all_append, Bool.and_eq_true] at h
    exact h.2

theorem isSpace_head_trimStart {s : List Char} : ∀ c ∈ (trimStart s).head?, isSpace c = false := by
  intro c hc
  have hhead := List.head?_dropWhile_not isSpace s
  rw [show s.dropWhile isSpace = trimStart s from rfl, hc] at hhead
  simpa using hhead

theorem isTrimmed_trim (s : List Char) : IsTrimmed (trim s) := by
  constructor
  · intro c hc
    -- The head of what is left is the head of what it was cut from.
    apply isSpace_head_trimStart (s := s)
    rw [trimStart_eq_append, List.head?_append, hc]
    rfl
  · intro c hc
    rw [trim, trimEnd_eq, List.getLast?_reverse] at hc
    exact isSpace_head_trimStart c hc

theorem trim_blank_append {a : List Char} (ha : isBlank a = true) (s : List Char) :
    trim (a ++ s) = trim s := by
  rw [trim, trimStart_blank_append ha, ← trim]

theorem trim_append_blank (s : List Char) {b : List Char} (hb : isBlank b = true) :
    trim (s ++ b) = trim s := by
  obtain ⟨a, b', ha, hb', hs⟩ := exists_trim s
  have hblank : isBlank (b' ++ b) = true := by
    rw [isBlank, List.all_append, Bool.and_eq_true]
    exact ⟨hb', hb⟩
  have happend := congrArg (· ++ b) hs
  simp only [List.append_assoc] at happend
  rw [happend, trim_append ha (isTrimmed_trim s) hblank]

end PawnScope.Text
