import PawnScope.Proofs.Buffer.Lines
import PawnScope.Proofs.Text.Columns

/-! # Positions and changes

The index of a position lies in its line, and a later position has no smaller index. This is why a
change to a range can be made by taking characters out and putting others in, neither of which is
possible with indices that are out of order or beyond the text: the text between the two positions
is replaced and the rest stays as it is. -/

namespace PawnScope

/-- A position comes no later than another: on an earlier line, or on the same line in no later
column. -/
def Position.NoLater (p q : Position) : Prop :=
  p.line < q.line ∨ (p.line = q.line ∧ p.character ≤ q.character)

namespace Buffer

/-- The characters of a document. -/
def chars (b : Buffer) : List Char := b.text.toList

/-! ## Indices of positions -/

theorem length_dropBreak_le (line : List Char) : (dropBreak line).length ≤ line.length := by
  have h := (List.dropWhile_suffix (fun c => c == '\n' || c == '\r') (l := line.reverse)).length_le
  simpa [dropBreak] using h

theorem charIndex_of_line {s line : List Char} {p : Position}
    (h : (linesOf s)[p.line]? = some line) :
    charIndex s p = lineStart s p.line + Text.charIndex (dropBreak line) p.character := by
  simp [charIndex, h, lineStart]

theorem charIndex_of_no_line {s : List Char} {p : Position} (h : (linesOf s)[p.line]? = none) :
    charIndex s p = s.length := by
  simp [charIndex, h]

theorem lineStart_le_charIndex (s : List Char) (p : Position) :
    lineStart s p.line ≤ charIndex s p := by
  cases hline : (linesOf s)[p.line]? with
  | none =>
      rw [charIndex_of_no_line hline]
      exact lineStart_le_length s p.line
  | some line =>
      rw [charIndex_of_line hline]
      exact Nat.le_add_right _ _

theorem charIndex_le_lineStart (s : List Char) (p : Position) :
    charIndex s p ≤ lineStart s (p.line + 1) := by
  cases hline : (linesOf s)[p.line]? with
  | none =>
      have hbeyond := List.getElem?_eq_none_iff.mp hline
      rw [charIndex_of_no_line hline]
      exact Nat.le_of_eq (lineStart_of_le (Nat.le_succ_of_le hbeyond)).symm
  | some line =>
      have hcolumn := Text.charIndex_le_length (dropBreak line) p.character
      have hbreak := length_dropBreak_le line
      rw [charIndex_of_line hline, lineStart_succ hline]
      omega

theorem charIndex_le_length (s : List Char) (p : Position) : charIndex s p ≤ s.length :=
  Nat.le_trans (charIndex_le_lineStart s p) (lineStart_le_length s (p.line + 1))

theorem charIndex_mono (s : List Char) {p q : Position} (h : p.NoLater q) :
    charIndex s p ≤ charIndex s q := by
  obtain hline | ⟨hline, hcolumn⟩ := h
  · calc
      charIndex s p ≤ lineStart s (p.line + 1) := charIndex_le_lineStart s p
      _ ≤ lineStart s q.line := lineStart_mono s hline
      _ ≤ charIndex s q := lineStart_le_charIndex s q
  · cases hp : (linesOf s)[p.line]? with
    | none =>
        rw [charIndex_of_no_line hp]
        exact Nat.le_of_eq (charIndex_of_no_line (hline ▸ hp)).symm
    | some line =>
        rw [charIndex_of_line hp, charIndex_of_line (hline ▸ hp), hline]
        exact Nat.add_le_add_left (Text.charIndex_mono _ hcolumn) _

/-! ## Changes in two steps -/

/-- A text without the characters from `start` up to `stop`, if these are in order and in the
text. -/
def removed? (s : List Char) (start stop : Nat) : Option (List Char) :=
  if start ≤ stop ∧ stop ≤ s.length then some (s.take start ++ s.drop stop) else none

/-- A text with another one put in at an index, if this is in the text. -/
def inserted? (s : List Char) (i : Nat) (new : List Char) : Option (List Char) :=
  if i ≤ s.length then some (s.take i ++ new ++ s.drop i) else none

/-- A text in which a range is taken out and another text is put in its place. -/
def edited? (s : List Char) (range : TextRange) (new : List Char) : Option (List Char) :=
  let start := charIndex s range.start
  let stop := charIndex s range.stop
  (removed? s start (max start stop)).bind (inserted? · start new)

/-- Indices in order and in the text divide it into three parts. -/
theorem exists_parts {s : List Char} {start stop : Nat} (hstart : start ≤ stop)
    (hstop : stop ≤ s.length) :
    ∃ front between back, s = front ++ between ++ back ∧ front.length = start ∧
      (front ++ between).length = stop := by
  have hfront : s.take start ++ (s.take stop).drop start = s.take stop := by
    have h := List.take_append_drop start (s.take stop)
    rwa [List.take_take, Nat.min_eq_left hstart] at h
  refine ⟨s.take start, (s.take stop).drop start, s.drop stop, ?_, ?_, ?_⟩
  · rw [hfront, List.take_append_drop]
  · simp only [List.length_take]
    omega
  · rw [hfront, List.length_take]
    omega

section Parts

variable {s front between back : List Char} {start stop : Nat}
variable (hs : s = front ++ between ++ back) (hstart : front.length = start)
  (hstop : (front ++ between).length = max start stop)

include hs hstart hstop

/-- Both steps succeed at the seams of three parts, and the one in the middle is replaced. -/
theorem bind_removed?_inserted? (new : List Char) :
    (removed? s start (max start stop)).bind (inserted? · start new) =
      some (front ++ new ++ back) := by
  have hdrop : s.drop (front ++ between).length = back := by
    rw [hs]
    exact List.drop_left
  have htake : s.take start = front := by
    rw [hs, ← hstart, List.append_assoc]
    exact List.take_left
  have hremoved : removed? s start (max start stop) = some (front ++ back) := by
    have hlength : max start stop ≤ s.length := by
      simp [hs, ← hstop]
    rw [removed?, if_pos ⟨Nat.le_max_left start stop, hlength⟩, ← hstop, hdrop, htake]
  rw [hremoved, Option.bind_some, inserted?, ← hstart, if_pos (by simp), List.take_left,
    List.drop_left]

theorem splice_eq (new : List Char) : splice s start stop new = front ++ new ++ back := by
  subst hs
  rw [splice, ← hstop, List.drop_left, ← hstart, List.append_assoc front between, List.take_left]

end Parts

theorem chars_apply (b : Buffer) (range : TextRange) (new : String) :
    (b.apply ⟨some range, new⟩).chars =
      splice b.chars (charIndex b.chars range.start) (charIndex b.chars range.stop) new.toList := by
  simp [apply, chars]

/-- Lines start where so many breaks are before them. The index of a position is in the text, from
the start of its line up to the start of the next, and no smaller than that of a position that comes
no later. So a change to any range can be made in two steps, neither of which fails, and replaces
exactly the text from the start of the range up to its end, or nothing if its end comes first. -/
theorem apply_replaces_between (b : Buffer) :
    (∀ n i, StartsAt b.chars n i ↔ n ≤ breakCount b.chars ∧ i = lineStart b.chars n) ∧
      (∀ p, charIndex b.chars p ≤ b.chars.length ∧ lineStart b.chars p.line ≤ charIndex b.chars p ∧
        charIndex b.chars p ≤ lineStart b.chars (p.line + 1)) ∧
      (∀ p q, p.NoLater q → charIndex b.chars p ≤ charIndex b.chars q) ∧
      ∀ range new, edited? b.chars range new.toList = some (b.apply ⟨some range, new⟩).chars ∧
        ∃ front between back, b.chars = front ++ between ++ back ∧
          front.length = charIndex b.chars range.start ∧
          (front ++ between).length =
            max (charIndex b.chars range.start) (charIndex b.chars range.stop) ∧
          (range.start.NoLater range.stop →
            (front ++ between).length = charIndex b.chars range.stop) ∧
          (b.apply ⟨some range, new⟩).chars = front ++ new.toList ++ back := by
  refine ⟨fun n i => startsAt_iff, ?_, fun p q => charIndex_mono b.chars, ?_⟩
  · intro p
    exact ⟨charIndex_le_length b.chars p, lineStart_le_charIndex b.chars p,
      charIndex_le_lineStart b.chars p⟩
  · intro range new
    obtain ⟨front, between, back, hchars, hfront, hbetween⟩ := exists_parts
      (Nat.le_max_left (charIndex b.chars range.start) (charIndex b.chars range.stop))
      (Nat.max_le.mpr ⟨charIndex_le_length b.chars _, charIndex_le_length b.chars _⟩)
    have happly : (b.apply ⟨some range, new⟩).chars = front ++ new.toList ++ back := by
      rw [chars_apply]
      exact splice_eq hchars hfront hbetween new.toList
    refine ⟨?_, front, between, back, hchars, hfront, hbetween, ?_, happly⟩
    · rw [happly]
      exact bind_removed?_inserted? hchars hfront hbetween new.toList
    · intro horder
      rw [hbetween]
      exact Nat.max_eq_right (charIndex_mono b.chars horder)

end Buffer

end PawnScope
