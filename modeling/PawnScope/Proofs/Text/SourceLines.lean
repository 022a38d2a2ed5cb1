import PawnScope.Text.Lines
import PawnScope.Text.Space

/-! # Lines in their text

A line of a source text stands between the text before it, which has as many line feeds as there are
lines before it and ends in one, and the text after it, which starts with the end of the line. -/

namespace PawnScope.Text

/-- Some text comes right after a line: there is none, or it starts with the end of the line. -/
def FollowsLine (after : List Char) : Prop :=
  after = [] ∨ (∃ rest, after = '\n' :: rest) ∨ ∃ rest, after = '\r' :: '\n' :: rest

/-- Where a line stands in a text: what is before it, the line, and what is after it. -/
structure IsLineAt (text : List Char) (number : Nat) (before line after : List Char) : Prop where
  text_eq : text = before ++ (line ++ after)
  number_eq : before.count '\n' = number
  starts : before = [] ∨ ∃ init, before = init ++ ['\n']
  inner : '\n' ∉ line
  ends : FollowsLine after

/-- The text before the line with a given number: the lines before it with their line feeds. -/
def textBefore (s : List Char) (n : Nat) : List Char :=
  ((s.splitOn '\n').take n).flatMap (· ++ ['\n'])

theorem lines_of_notMem {s : List Char} (h : '\n' ∉ s) :
    lines s = if s.isEmpty then [] else [s] := by
  simp [lines, List.splitOn_eq_singleton h]

theorem splitOn_append_lineFeed {s : List Char} (h : '\n' ∉ s) (rest : List Char) :
    (s ++ '\n' :: rest).splitOn '\n' = s :: rest.splitOn '\n' := by
  rw [List.splitOn_append_cons_self, List.splitOn_eq_singleton h]
  rfl

/-- The lines of a text are its first line and the lines after the first line feed. -/
theorem lines_append_cons {s : List Char} (h : '\n' ∉ s) (rest : List Char) :
    lines (s ++ '\n' :: rest) = dropReturn s :: lines rest := by
  obtain ⟨piece, pieces, hpieces⟩ := List.exists_cons_of_ne_nil (List.splitOn_ne_nil '\n' rest)
  simp only [lines, splitOn_append_lineFeed h, hpieces, List.dropLast_cons_cons, List.map_cons,
    List.getLast?_cons_cons]
  split
  · rfl
  · split
    · rfl
    · rfl

theorem dropReturn_of_notMem {s : List Char} (h : '\r' ∉ s) : dropReturn s = s := by
  have hlast : s.getLast? ≠ some '\r' := fun hlast => h (List.mem_of_getLast? hlast)
  rw [dropReturn, if_neg hlast]

/-- The text of some lines, each ended by a line feed. -/
def unlines (ls : List (List Char)) : List Char := ls.flatMap (· ++ ['\n'])

/-- Lines that are written one after the other are read again, up to a carriage return at their
end. -/
theorem lines_unlines_append {ls : List (List Char)} (h : ∀ s ∈ ls, '\n' ∉ s) (rest : List Char) :
    lines (unlines ls ++ rest) = ls.map dropReturn ++ lines rest := by
  induction ls with
  | nil => rfl
  | cons s ls ih =>
      rw [List.forall_mem_cons] at h
      have htext : unlines (s :: ls) ++ rest = s ++ '\n' :: (unlines ls ++ rest) := by simp [unlines]
      rw [htext, lines_append_cons h.1, ih h.2, List.map_cons, List.cons_append]

theorem textBefore_append_cons {s : List Char} (h : '\n' ∉ s) (rest : List Char) (n : Nat) :
    textBefore (s ++ '\n' :: rest) (n + 1) = s ++ '\n' :: textBefore rest n := by
  simp [textBefore, splitOn_append_lineFeed h]

theorem exists_dropReturn_append (s : List Char) :
    ∃ tail, s = dropReturn s ++ tail ∧ (tail = [] ∨ tail = ['\r']) := by
  unfold dropReturn
  split
  · rename_i hlast
    obtain ⟨init, rfl⟩ := List.getLast?_eq_some_iff.mp hlast
    exact ⟨['\r'], by simp, Or.inr rfl⟩
  · exact ⟨[], by simp, Or.inl rfl⟩

/-- What is left of a text without its line ends. -/
theorem flatten_lines_sublist (s : List Char) : (lines s).flatten.Sublist s := by
  induction hlength : s.length using Nat.strongRecOn generalizing s with
  | ind n ih =>
      by_cases hmem : '\n' ∈ s
      · obtain ⟨first, rest, rfl, hfirst⟩ := List.eq_append_cons_of_mem hmem
        have hrest : rest.length < n := by
          rw [← hlength, List.length_append, List.length_cons]
          omega
        have hreturn : (dropReturn first).Sublist first := by
          obtain ⟨tail, htail, -⟩ := exists_dropReturn_append first
          have hleft := List.sublist_append_left (dropReturn first) tail
          rwa [← htail] at hleft
        rw [lines_append_cons hfirst, List.flatten_cons]
        exact hreturn.append ((ih rest.length hrest rest rfl).cons '\n')
      · rw [lines_of_notMem hmem]
        split
        · exact List.nil_sublist s
        · simp

theorem isBlank_dropReturn {s : List Char} (h : isBlank s = true) :
    isBlank (dropReturn s) = true := by
  obtain ⟨tail, htail, -⟩ := exists_dropReturn_append s
  rw [htail, isBlank, List.all_append, Bool.and_eq_true] at h
  exact h.1

/-- A line of a text stands after the lines before it. -/
theorem exists_isLineAt {s line : List Char} {n : Nat} (h : (lines s)[n]? = some line) :
    ∃ after, IsLineAt s n (textBefore s n) line after := by
  induction n generalizing s with
  | zero =>
      by_cases hmem : '\n' ∈ s
      · obtain ⟨first, rest, rfl, hfirst⟩ := List.eq_append_cons_of_mem hmem
        rw [lines_append_cons hfirst] at h
        obtain rfl := Option.some.inj h
        obtain ⟨tail, htail, hreturn⟩ := exists_dropReturn_append first
        refine ⟨tail ++ '\n' :: rest, ?_, rfl, Or.inl rfl, ?_, ?_⟩
        · rw [← List.append_assoc (dropReturn first), ← htail]
          rfl
        · intro hline
          rw [htail] at hfirst
          exact hfirst (List.mem_append_left tail hline)
        · obtain rfl | rfl := hreturn
          · exact Or.inr (Or.inl ⟨rest, rfl⟩)
          · exact Or.inr (Or.inr ⟨rest, rfl⟩)
      · rw [lines_of_notMem hmem] at h
        split at h
        · cases h
        · obtain rfl := Option.some.inj h
          exact ⟨[], (List.append_nil s).symm, rfl, Or.inl rfl, hmem, Or.inl rfl⟩
  | succ n ih =>
      by_cases hmem : '\n' ∈ s
      · obtain ⟨first, rest, rfl, hfirst⟩ := List.eq_append_cons_of_mem hmem
        rw [lines_append_cons hfirst, List.getElem?_cons_succ] at h
        obtain ⟨after, hat⟩ := ih h
        rw [textBefore_append_cons hfirst]
        refine ⟨after, ?_, ?_, ?_, hat.inner, hat.ends⟩
        · rw [List.append_assoc, List.cons_append, ← hat.text_eq]
        · rw [List.count_append, List.count_eq_zero_of_not_mem hfirst, List.count_cons_self,
            hat.number_eq, Nat.zero_add]
        · right
          obtain hnil | ⟨init, hinit⟩ := hat.starts
          · exact ⟨first, by rw [hnil]⟩
          · exact ⟨first ++ '\n' :: init, by simp [hinit]⟩
      · rw [lines_of_notMem hmem] at h
        split at h
        · cases h
        · cases h

end PawnScope.Text
