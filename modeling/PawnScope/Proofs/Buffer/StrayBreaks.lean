import PawnScope.Proofs.Buffer.Edits
import PawnScope.Proofs.Text.SourceLines

/-! # Breaks that only the editor counts

Lines of a source text end at line feeds, and lines of a document at other breaks as well. A break
that is neither a line feed nor the carriage return before one is a stray. A line of the source text
has the same number in the document exactly if no stray comes before it. Then it is the text of the
document's line exactly if it is unbroken: a stray in it is no carriage return and its last
character. -/

namespace PawnScope.Buffer

open Text

/-! ## Strays -/

/-- The number of characters other than line feeds that end a line. -/
def strayCount : List Char → Nat
  | [] => 0
  | c :: s => (if c ≠ '\n' ∧ endsLine c s = true then 1 else 0) + strayCount s

/-- No break stands in a line, unless it is the last character and no carriage return. -/
def IsUnbroken (line : List Char) : Prop :=
  (∀ c ∈ line.dropLast, isBreak c = false) ∧ line.getLast? ≠ some '\r'

instance (line : List Char) : Decidable (IsUnbroken line) :=
  @instDecidableAnd _ _ (List.decidableBAll _ line.dropLast) inferInstance

theorem endsLine_lineFeed (rest : List Char) : endsLine '\n' rest = true := by
  have hbreak : isBreak '\n' = true := by decide
  simp [endsLine, hbreak]

theorem endsLine_eq_false_iff {c : Char} (hc : isBreak c = true) {rest : List Char} :
    endsLine c rest = false ↔ c = '\r' ∧ rest.head? = some '\n' := by
  simp [endsLine, hc]

theorem breakCount_eq (s : List Char) : breakCount s = s.count '\n' + strayCount s := by
  induction s with
  | nil => rfl
  | cons c s ih =>
      by_cases hc : c = '\n'
      · subst hc
        simp only [breakCount, strayCount, endsLine_lineFeed, ih, List.count_cons_self, ne_eq,
          not_true_eq_false, false_and, if_true, if_false]
        omega
      · simp only [breakCount, strayCount, ih, List.count_cons_of_ne hc, ne_eq, hc,
          not_false_eq_true, true_and]
        omega

theorem isUnbroken_cons {c : Char} (hc : isBreak c = false) (line : List Char) :
    IsUnbroken (c :: line) ↔ IsUnbroken line := by
  have hreturn : c ≠ '\r' := by
    rintro rfl
    cases hc
  cases line with
  | nil => simp [IsUnbroken, hreturn]
  | cons d line => simp [IsUnbroken, hc]

theorem isUnbroken_cons_of_isBreak {c : Char} (hc : isBreak c = true) (line : List Char) :
    IsUnbroken (c :: line) ↔ line = [] ∧ c ≠ '\r' := by
  cases line with
  | nil => simp [IsUnbroken]
  | cons d line => simp [IsUnbroken, hc]

/-! ## The first line -/

theorem dropBreak_cons {c : Char} (hfeed : c ≠ '\n') (hreturn : c ≠ '\r') (s : List Char) :
    dropBreak (c :: s) = c :: dropBreak s := by
  simp only [dropBreak, List.reverse_cons, List.dropWhile_append]
  split
  · rename_i hempty
    simp [List.isEmpty_iff.mp hempty, hfeed, hreturn]
  · simp

theorem dropBreak_return {s : List Char} (h : dropBreak s = []) : dropBreak ('\r' :: s) = [] := by
  simp only [dropBreak, List.reverse_eq_nil_iff] at h ⊢
  simp [List.dropWhile_append, h]

/-- The first line of a document against the first line of its source text: it is no longer, and as
long exactly if this line is unbroken. -/
theorem exists_first_line {line after : List Char} (hline : '\n' ∉ line)
    (hafter : FollowsLine after) :
    ∃ first rest, linesOf (line ++ after) = first :: rest ∧ dropBreak first <+: line ∧
      (dropBreak first = line ↔ IsUnbroken line) := by
  induction line with
  | nil =>
      have hunbroken : IsUnbroken [] := by simp [IsUnbroken]
      obtain rfl | ⟨rest, rfl⟩ | ⟨rest, rfl⟩ := hafter
      · exact ⟨[], [], rfl, by simp [dropBreak], by simp [dropBreak, hunbroken]⟩
      · refine ⟨['\n'], linesOf rest, linesOf_cons_of_endsLine (endsLine_lineFeed rest), ?_⟩
        simp [dropBreak, hunbroken]
      · have hreturn : endsLine '\r' ('\n' :: rest) = false := by simp [endsLine]
        have hlines := linesOf_cons '\r' (linesOf_cons_of_endsLine (endsLine_lineFeed rest))
        rw [hreturn] at hlines
        refine ⟨['\r', '\n'], linesOf rest, hlines, ?_⟩
        simp [dropBreak, hunbroken]
  | cons c line ih =>
      rw [List.mem_cons, not_or] at hline
      obtain ⟨first, rest, hlines, hprefix, hiff⟩ := ih hline.2
      have hfeed : c ≠ '\n' := Ne.symm hline.1
      rw [List.cons_append, linesOf_cons c hlines]
      cases hc : isBreak c with
      | false =>
          have hreturn : c ≠ '\r' := by
            rintro rfl
            cases hc
          refine ⟨c :: first, rest, by simp [endsLine, hc], ?_, ?_⟩
          · rw [dropBreak_cons hfeed hreturn]
            exact List.cons_prefix_cons.mpr ⟨rfl, hprefix⟩
          · rw [dropBreak_cons hfeed hreturn, isUnbroken_cons hc, ← hiff]
            simp
      | true =>
          rw [isUnbroken_cons_of_isBreak hc]
          split
          · -- The break is a line of the document by itself.
            refine ⟨[c], first :: rest, rfl, ?_⟩
            by_cases hreturn : c = '\r'
            · simp [dropBreak, hreturn]
            · rw [dropBreak_cons hfeed hreturn]
              simp [dropBreak, hreturn, eq_comm]
          · -- The break is a carriage return before the line feed that ends the line.
            rename_i hends
            obtain ⟨rfl, hnext⟩ := (endsLine_eq_false_iff hc).mp (Bool.eq_false_iff.mpr hends)
            obtain rfl : line = [] := by
              cases line with
              | nil => rfl
              | cons d line =>
                  obtain rfl : d = '\n' := by simpa using hnext
                  exact absurd List.mem_cons_self hline.2
            have hnil := dropBreak_return (List.prefix_nil.mp hprefix)
            exact ⟨'\r' :: first, rest, rfl, by simp [hnil], by simp [hnil]⟩

/-! ## Lines of both kinds -/

/-- The range of a line of a document, from its start to its end. -/
def lineRange (b : Buffer) (n : Nat) : TextRange :=
  ⟨⟨n, 0⟩, ⟨n, ((b.line? n).map units).getD 0⟩⟩

/-- A range of a text is exactly the part after some other part. -/
def Covers (s : List Char) (range : TextRange) (before part : List Char) : Prop :=
  charIndex s range.start = before.length ∧ charIndex s range.stop = (before ++ part).length

theorem charIndex_line_zero (s : List Char) (n : Nat) : charIndex s ⟨n, 0⟩ = lineStart s n := by
  have hzero : ∀ line, Text.charIndex line 0 = 0 := by
    intro line
    cases line with
    | nil => rfl
    | cons c line => rfl
  cases hn : (linesOf s)[n]? with
  | none =>
      have hbeyond := List.getElem?_eq_none_iff.mp hn
      rw [charIndex_of_no_line hn, lineStart_of_le hbeyond]
  | some line => rw [charIndex_of_line hn, hzero, Nat.add_zero]

section LineAt

variable {b : Buffer} {n : Nat} {before line after : List Char}
variable (h : IsLineAt b.chars n before line after)

include h

theorem isLineStart_of_isLineAt : IsLineStart before (line ++ after) := by
  obtain rfl | ⟨init, rfl⟩ := h.starts
  · exact Or.inl rfl
  · exact Or.inr ⟨init, '\n', rfl, endsLine_lineFeed _⟩

theorem breakCount_before : breakCount before = n + strayCount before := by
  rw [breakCount_eq, h.number_eq]

theorem lineStart_add_strayCount : lineStart b.chars (n + strayCount before) = before.length := by
  rw [← breakCount_before h, h.text_eq]
  exact lineStart_append (isLineStart_of_isLineAt h)

/-- After a stray, the line of the document with the same number ends where the line starts or
earlier. -/
theorem lineStart_succ_le_of_strayCount (hstray : strayCount before ≠ 0) :
    lineStart b.chars (n + 1) ≤ before.length := by
  rw [← lineStart_add_strayCount h]
  exact lineStart_mono _ (by omega)

/-- A line starts where the line of the document with the same number does, exactly if there is no
stray before it. -/
theorem charIndex_line_zero_eq_iff :
    charIndex b.chars ⟨n, 0⟩ = before.length ↔ strayCount before = 0 := by
  have hstart := lineStart_add_strayCount h
  rw [charIndex_line_zero]
  constructor
  · intro heq
    by_contra hstray
    have hcount : n + strayCount before ≤ breakCount b.chars := by
      rw [h.text_eq, breakCount_append (isLineStart_of_isLineAt h), breakCount_before h]
      exact Nat.le_add_right _ _
    have hlt := lineStart_lt (m := n) (by omega) hcount
    omega
  · intro hstray
    rwa [hstray, Nat.add_zero] at hstart

/-- Without a stray before it, a line is compared with the line of the document that has its
number. -/
theorem exists_line?_of_strayCount (hstray : strayCount before = 0) :
    ∃ shown, b.line? n = some shown ∧ shown <+: line ∧ (shown = line ↔ IsUnbroken line) ∧
      charIndex b.chars ⟨n, units shown⟩ = (before ++ shown).length := by
  obtain ⟨first, rest, hlines, hprefix, hiff⟩ := exists_first_line h.inner h.ends
  have hn : (linesOf b.chars)[n]? = some first := by
    have hlength : (linesOf before).dropLast.length = n := by
      rw [List.length_dropLast, length_linesOf, breakCount_before h, hstray]
      rfl
    rw [h.text_eq, linesOf_append (isLineStart_of_isLineAt h), hlines,
      List.getElem?_append_right (Nat.le_of_eq hlength), hlength, Nat.sub_self]
    rfl
  refine ⟨dropBreak first, ?_, hprefix, hiff, ?_⟩
  · change ((linesOf b.chars)[n]?).map dropBreak = _
    rw [hn]
    rfl
  · have hstart := lineStart_add_strayCount h
    rw [hstray, Nat.add_zero] at hstart
    rw [charIndex_of_line (p := ⟨n, _⟩) hn, charIndex_units, hstart, List.length_append]

/-- Without a stray before it, a line has the range of the line of the document exactly if it is
unbroken. -/
theorem lineRange_eq_iff (hstray : strayCount before = 0) :
    b.lineRange n = ⟨⟨n, 0⟩, ⟨n, units line⟩⟩ ↔ IsUnbroken line := by
  obtain ⟨shown, hshown, ⟨rest, hrest⟩, hiff, -⟩ := exists_line?_of_strayCount h hstray
  rw [← hiff]
  simp only [lineRange, hshown, Option.map_some, Option.getD_some, TextRange.mk.injEq,
    Position.mk.injEq, true_and]
  constructor
  · intro hunits
    rw [← hrest, units_append] at hunits
    have hlength := length_le_units rest
    obtain rfl : rest = [] := List.length_eq_zero_iff.mp (by omega)
    rw [← hrest, List.append_nil]
  · intro heq
    rw [heq]

/-- The range of a line of the document covers exactly the line with its number if no stray comes
before this and it is unbroken, and something else otherwise. -/
theorem covers_lineRange_iff :
    Covers b.chars (b.lineRange n) before line ↔ strayCount before = 0 ∧ IsUnbroken line := by
  rw [Covers, lineRange, charIndex_line_zero_eq_iff h]
  apply and_congr_right
  intro hstray
  obtain ⟨shown, hshown, hprefix, hiff, hstop⟩ := exists_line?_of_strayCount h hstray
  rw [hshown, Option.map_some, Option.getD_some, hstop, ← hiff]
  constructor
  · intro hlength
    rw [List.length_append, List.length_append] at hlength
    exact hprefix.eq_of_length (Nat.add_left_cancel hlength)
  · intro heq
    rw [heq]

theorem charIndex_lineRange_stop_le (hstray : strayCount before ≠ 0) :
    charIndex b.chars (b.lineRange n).stop ≤ before.length :=
  Nat.le_trans (charIndex_le_lineStart b.chars (b.lineRange n).stop)
    (lineStart_succ_le_of_strayCount h hstray)

end LineAt

end PawnScope.Buffer
