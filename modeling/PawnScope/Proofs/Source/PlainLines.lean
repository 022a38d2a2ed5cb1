import PawnScope.Proofs.Source.ClosedComments
import PawnScope.Proofs.Source.Headings

/-! # Plain lines

A line without quotes and slashes has neither literals nor comments, so that its code is the line
itself. Outside comments such a line goes on with the open header, if there is one, and is read as a
line of code otherwise. -/

namespace PawnScope.Source

open Text

/-- A line that can hold neither a literal nor a comment. -/
def IsPlain (s : List Char) : Prop := '"' ∉ s ∧ '\'' ∉ s ∧ '/' ∉ s

instance : DecidablePred IsPlain := fun _ => instDecidableAnd

theorem isPlain_append {s t : List Char} : IsPlain (s ++ t) ↔ IsPlain s ∧ IsPlain t := by
  simp only [IsPlain, List.mem_append, not_or]
  constructor
  · rintro ⟨⟨h₁, h₂⟩, ⟨h₃, h₄⟩, h₅, h₆⟩
    exact ⟨⟨h₁, h₃, h₅⟩, h₂, h₄, h₆⟩
  · rintro ⟨⟨h₁, h₃, h₅⟩, h₂, h₄, h₆⟩
    exact ⟨⟨h₁, h₂⟩, ⟨h₃, h₄⟩, h₅, h₆⟩

theorem IsPlain.of_subset {s t : List Char} (ht : IsPlain t) (h : s ⊆ t) : IsPlain s :=
  ⟨fun hmem => ht.1 (h hmem), fun hmem => ht.2.1 (h hmem), fun hmem => ht.2.2 (h hmem)⟩

theorem IsPlain.isQuote_eq_false {s : List Char} (h : IsPlain s) : ∀ c ∈ s, isQuote c = false := by
  intro c hc
  rw [Bool.eq_false_iff]
  intro hquote
  rw [isQuote, Bool.or_eq_true, beq_iff_eq, beq_iff_eq] at hquote
  rcases hquote with rfl | rfl
  · exact h.1 hc
  · exact h.2.1 hc

theorem IsPlain.codeOf_eq {s : List Char} (h : IsPlain s) : codeOf false s = (s, false) :=
  Scan.codeOf_eq_self h.isQuote_eq_false h.2.2

theorem isPlain_of_isBlank {s : List Char} (h : isBlank s = true) : IsPlain s :=
  ⟨notMem_of_isBlank h (by decide), notMem_of_isBlank h (by decide), notMem_of_isBlank h (by decide)⟩

namespace Scan

/-- A line that does not start with a slash is no comment. -/
theorem collectDoc_of_head? {s : Scan} (hdoc : s.inDoc = false) {raw : List Char}
    (hhead : (trim raw).head? ≠ some '/') : s.collectDoc raw = (s, false) := by
  unfold collectDoc
  simp only [hdoc, Bool.false_eq_true, if_false]
  split
  · rfl
  · split
    · rename_i heq
      exact absurd (heq ▸ rfl) hhead
    · rename_i heq
      exact absurd (heq ▸ rfl) hhead
    · rfl

theorem collectDoc_of_isPlain {s : Scan} (hdoc : s.inDoc = false) {raw : List Char}
    (hraw : IsPlain raw) : s.collectDoc raw = (s, false) :=
  collectDoc_of_head? hdoc fun hhead =>
    hraw.2.2 ((trim_isInfix raw).subset (List.mem_of_mem_head? hhead))

/-- A plain line outside comments. -/
theorem scanLine_of_isPlain {s : Scan} (hdoc : s.inDoc = false) (hcomment : s.inComment = false)
    {raw : List Char} (hraw : IsPlain raw) (line : Nat) :
    s.scanLine line raw =
      match s.header with
      | some h => (s.continueHeader h raw).trackBraces raw
      | none =>
          if isBlank raw then { s with docs := [] }
          else (s.declarationLine line raw raw).trackBraces raw := by
  have hcollect := collectDoc_of_isPlain hdoc hraw
  obtain ⟨found, docs, inDoc, inComment, depth, block, awaited, header⟩ := s
  cases hcomment
  simp only [scanLine, hcollect, hraw.codeOf_eq, Bool.false_eq_true, if_false]
  cases header with
  | some h => rfl
  | none =>
      simp only
      split
      · rfl
      · rfl

theorem scanLines_append (s : Scan) (line : Nat) (first second : List (List Char)) :
    s.scanLines line (first ++ second) =
      (s.scanLines line first).scanLines (line + first.length) second := by
  induction first generalizing s line with
  | nil => rfl
  | cons raw rest ih =>
      rw [List.cons_append, scanLines, ih, scanLines, List.length_cons, Nat.add_right_comm]
      rfl

/-- A plain line outside blocks and braces that declares a function. -/
theorem scanLine_of_isFunctionLine {s : Scan} (hdoc : s.inDoc = false) (hcomment : s.inComment = false)
    (hheader : s.header = none) (hblock : s.block = none) (hdepth : s.depth = 0)
    {raw : List Char} (hraw : IsPlain raw) {stored : Bool} {c : Callable}
    (h : IsFunctionLine raw stored c) (line : Nat) :
    s.scanLine line raw =
      (take { s with docs := [] } (.header (headerOf c line .function none s.documentation))).trackBraces
        raw := by
  have hblank : ¬isBlank raw = true := by
    intro hblank
    obtain ⟨d, hd, -⟩ := isNameStart_of_function? h.heading
    rw [trimStart, List.dropWhile_eq_nil_iff.mpr (List.all_eq_true.mp hblank)] at hd
    cases hd
  have hfound : s.declared line raw raw s.documentation =
      ([.header (headerOf c line .function none s.documentation)], none) := by
    simp [declared, hblock, hdepth, topLevelFindings, h.topLevel_eq]
  rw [scanLine_of_isPlain hdoc hcomment hraw, hheader]
  simp only [hblank, declarationLine_eq, hfound]
  rfl

/-! ## Braces outside blocks -/

/-- The number of open braces after one more character. -/
def braceDepth (depth : Nat) (c : Char) : Nat :=
  if c = '\x7b' then depth + 1 else if c = '\x7d' then depth - 1 else depth

theorem trackBrace_outside {s : Scan} (hblock : s.block = none) (hawaited : s.awaited = none)
    (c : Char) : s.trackBrace c = { s with depth := braceDepth s.depth c } := by
  obtain ⟨found, docs, inDoc, inComment, depth, block, awaited, header⟩ := s
  cases hblock
  cases hawaited
  unfold trackBrace braceDepth
  split
  · rfl
  · split
    · rfl
    · split
      · rfl
      · rfl

/-- Where no block is open or awaited, braces are counted and nothing else. -/
theorem trackBraces_outside {s : Scan} (hblock : s.block = none) (hawaited : s.awaited = none)
    (code : List Char) : s.trackBraces code = { s with depth := code.foldl braceDepth s.depth } := by
  induction code generalizing s with
  | nil => rfl
  | cons c code ih =>
      change (s.trackBrace c).trackBraces code = _
      rw [trackBrace_outside hblock hawaited]
      exact ih (s := { s with depth := braceDepth s.depth c }) hblock hawaited

/-- A scan that remembers nothing but what it has found and the number of open braces. -/
def within (found : List Symbol) (depth : Nat) : Scan := { found := found, depth := depth }

theorem trackBraces_within (found : List Symbol) (depth : Nat) (code : List Char) :
    (within found depth).trackBraces code = within found (code.foldl braceDepth depth) :=
  trackBraces_outside rfl rfl code

theorem foldl_braceDepth_of_notMem {s : List Char} (hopen : '\x7b' ∉ s) (hclose : '\x7d' ∉ s)
    (depth : Nat) : s.foldl braceDepth depth = depth := by
  induction s with
  | nil => rfl
  | cons c s ih =>
      rw [List.mem_cons, not_or] at hopen hclose
      rw [List.foldl_cons, braceDepth, if_neg (Ne.symm hopen.1), if_neg (Ne.symm hclose.1),
        ih hopen.2 hclose.2]

end Scan

end PawnScope.Source
