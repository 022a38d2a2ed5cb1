import PawnScope.Editor
import PawnScope.Proofs.Buffer.StrayBreaks
import PawnScope.Proofs.Source.Directives
import PawnScope.Proofs.Workspace.MissingIncludes

/-! # Ranges of diagnostics

A warning about a missing include has the number of the directive's line in the source text and the
length of the line with this number in the document. The two are the same line, and the warning
covers it, exactly if no stray break comes before it and it is unbroken. After a stray break the
warning stands before the directive. -/

namespace PawnScope

/-! ## Lines of directives -/

namespace Source

theorem exists_line_of_mem_includesFrom {inside : Bool} {n : Nat} {ls : List (List Char)}
    {i : Include} (h : i ∈ includesFrom inside n ls) : ∃ k s, ls[k]? = some s ∧ i.line = n + k := by
  induction ls generalizing inside n with
  | nil => cases h
  | cons s ls ih =>
      rw [includesFrom] at h
      rcases List.mem_append.mp h with h | h
      · exact ⟨0, s, rfl, line_of_include? (Option.mem_toList.mp h)⟩
      · obtain ⟨k, t, ht, hline⟩ := ih h
        exact ⟨k + 1, t, ht, by omega⟩

/-- A directive has the number of a line. -/
theorem exists_line_of_mem_includes {text : String} {i : Include} (h : i ∈ includes text) :
    ∃ s, (Text.lines text.toList)[i.line]? = some s := by
  obtain ⟨k, s, hs, hline⟩ := exists_line_of_mem_includesFrom h
  rw [Nat.zero_add] at hline
  exact ⟨s, hline ▸ hs⟩

end Source

namespace Workspace

variable {w : Workspace} {l : Location} {b : Buffer}

theorem buffersIndexed_afterOn {steps : List (Disk × Event)}
    (hsteps : ∀ step ∈ steps, ∀ l text, step.2 ≠ .indexed l text) :
    BuffersIndexed (afterOn steps) := by
  refine List.foldlRecOn steps _ ?_ fun _ h step hstep => h.perform step.1 (hsteps step hstep)
  intro l b hb
  cases hb

/-- The missing includes of an open document are directives of its text. -/
theorem mem_includes_of_mem_unresolved (hw : Consistent w) (hindexed : BuffersIndexed w)
    (hb : w.buffers.get? l = some b) {i : Include} (hi : i ∈ w.unresolved l) :
    i ∈ Source.includes b.text := by
  obtain ⟨f, hf, houtline⟩ := Option.map_eq_some_iff.mp (hindexed l b hb)
  have hrequired := isRequired_of_mem_unresolved hi
  have hmem : i ∈ f.edges.map (·.1) := by
    rw [unresolved, hf] at hi
    obtain ⟨e, he, rfl⟩ := List.mem_map.mp hi
    exact List.mem_map_of_mem (List.mem_filter.mp he).1
  rw [hw.includes l f hf, Config.effectiveIncludes, houtline, List.mem_append] at hmem
  refine hmem.resolve_left ?_
  intro himplicit
  split at himplicit
  · obtain rfl := List.mem_singleton.mp himplicit
    cases hrequired
  · cases himplicit

end Workspace

namespace Editor

open Buffer

variable {w : Workspace} {l : Location} {b : Buffer}

/-! ## Warnings -/

theorem range_diagnostic (hb : w.buffers.get? l = some b) (i : Include) :
    (diagnostic w l i).range = b.lineRange i.line := by
  simp [diagnostic, Workspace.line?, hb, lineRange]

/-- Whatever happens, a warning for an open document is about a directive of its text. It starts at
the line that has the number of the directive's line and ends on it. If no stray comes before the
directive's line, the warning ends at the end of this line exactly if the line is unbroken, and if
one does, it ends before the line starts. So it covers the directive's line exactly if no stray
comes before the line and the line is unbroken. -/
theorem diagnostic_covers_line_iff {steps : List (Disk × Event)}
    (hsteps : ∀ step ∈ steps, ∀ l text, step.2 ≠ .indexed l text)
    (hb : (Workspace.afterOn steps).buffers.get? l = some b) {d : Diagnostic}
    (hd : d ∈ diagnostics (Workspace.afterOn steps) l) :
    ∃ i ∈ Source.includes b.text, ∃ line, (Text.lines b.chars)[i.line]? = some line ∧
      d.message = "Include \"" ++ i.reference ++ "\" not found." ∧
      d.range.start = ⟨i.line, 0⟩ ∧ d.range.stop.line = i.line ∧
      (strayCount (Text.textBefore b.chars i.line) = 0 →
        (d.range = ⟨⟨i.line, 0⟩, ⟨i.line, Text.units line⟩⟩ ↔ IsUnbroken line)) ∧
      (strayCount (Text.textBefore b.chars i.line) ≠ 0 →
        charIndex b.chars d.range.stop ≤ (Text.textBefore b.chars i.line).length) ∧
      (Covers b.chars d.range (Text.textBefore b.chars i.line) line ↔
        strayCount (Text.textBefore b.chars i.line) = 0 ∧ IsUnbroken line) := by
  obtain ⟨i, hi, rfl⟩ := List.mem_map.mp hd
  have hmem := Workspace.mem_includes_of_mem_unresolved (Workspace.consistent_afterOn steps)
    (Workspace.buffersIndexed_afterOn hsteps) hb hi
  obtain ⟨line, hline⟩ := Source.exists_line_of_mem_includes hmem
  obtain ⟨after, hat⟩ := Text.exists_isLineAt hline
  refine ⟨i, hmem, line, hline, rfl, rfl, rfl, ?_⟩
  rw [range_diagnostic hb]
  exact ⟨lineRange_eq_iff hat, charIndex_lineRange_stop_le hat, covers_lineRange_iff hat⟩

/-- The document `a.sp` is opened. -/
def openedWith (text : String) : List (Disk × Event) :=
  [(.blank [], .opened (.ofSegments ["a.sp"]) text none)]

/-- The line feeds come with and without a carriage return, and a form feed ends the directive's
line. -/
def pagedText : String := "int g_Page;\r\n#include \"smile😀\"\x0c\nint g_Last;\r"

theorem diagnostic_covers_line_iff_paged :
    (∀ step ∈ openedWith pagedText, ∀ l text, step.2 ≠ .indexed l text) ∧
      (Workspace.afterOn (openedWith pagedText)).buffers.get? (.ofSegments ["a.sp"]) =
        some ⟨pagedText, none, 0⟩ ∧
      ⟨⟨⟨1, 0⟩, ⟨1, 19⟩⟩, "Include \"smile😀\" not found."⟩ ∈
        diagnostics (Workspace.afterOn (openedWith pagedText)) (.ofSegments ["a.sp"]) ∧
      Covers pagedText.toList ⟨⟨1, 0⟩, ⟨1, 19⟩⟩ "int g_Page;\r\n".toList
        "#include \"smile😀\"\x0c".toList := by
  have hsteps : ∀ step ∈ openedWith pagedText, ∀ l text, step.2 ≠ .indexed l text := by
    simp [openedWith]
  have hb : (Workspace.afterOn (openedWith pagedText)).buffers.get? (.ofSegments ["a.sp"]) =
      some ⟨pagedText, none, 0⟩ := by
    decide +kernel
  have hd : ⟨⟨⟨1, 0⟩, ⟨1, 19⟩⟩, "Include \"smile😀\" not found."⟩ ∈
      diagnostics (Workspace.afterOn (openedWith pagedText)) (.ofSegments ["a.sp"]) := by
    decide +kernel
  refine ⟨hsteps, hb, hd, ?_⟩
  obtain ⟨i, -, line, hline, -, hstart, -, -, -, hcovers⟩ := diagnostic_covers_line_iff hsteps hb hd
  have hnumber : i.line = 1 := (congrArg Position.line hstart).symm
  have hown : (Text.lines pagedText.toList)[1]? = some "#include \"smile😀\"\x0c".toList := by
    decide +kernel
  have hbefore : Text.textBefore pagedText.toList 1 = "int g_Page;\r\n".toList := by
    decide +kernel
  simp only [chars, hnumber, hown, hbefore, Option.some.injEq] at hline hcovers
  subst hline
  exact hcovers.mpr (by decide +kernel)

/-- A form feed ends the comment before the directive, so that the warning is about the empty rest
of that line. -/
theorem diagnostic_misplaced_after_formFeed :
    (Text.lines "// page\x0c\n#include \"util\"".toList)[1]? = some "#include \"util\"".toList ∧
      Text.units "#include \"util\"".toList = 15 ∧
      diagnostics (Workspace.afterOn (openedWith "// page\x0c\n#include \"util\""))
        (.ofSegments ["a.sp"]) = [⟨⟨⟨1, 0⟩, ⟨1, 0⟩⟩, "Include \"util\" not found."⟩] := by
  decide +kernel

end Editor

end PawnScope
