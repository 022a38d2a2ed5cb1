import PawnScope.Proofs.Source.Directives
import PawnScope.Proofs.Text.SourceLines
import PawnScope.Sample

/-! # What sample files include

A sample text is read line by line as it was written. All directives of a header stand in its first
lines, before anything that could open a block comment, and no other line has the sign of a
directive, except those that define constants. So the includes of a file are those that were
written. -/

namespace PawnScope

namespace Source

variable {ls front back : List (List Char)}

/-- Lines without the sign of a directive hold none, wherever block comments start and end. -/
theorem includesFrom_of_hash_notMem (h : ∀ s ∈ ls, '#' ∉ s) (inside : Bool) (n : Nat) :
    includesFrom inside n ls = [] := by
  induction ls generalizing inside n with
  | nil => rfl
  | cons s ls ih =>
      rw [List.forall_mem_cons] at h
      have hnone : include? n (stripBlocks inside s).1 = none := by
        rw [include?_eq_none_iff]
        rintro isTry isBuiltin r ⟨head, rest, ⟨a, b, c, -, -, -, rfl⟩, hs, -⟩
        apply h.1
        apply (stripBlocks_sublist inside s).subset
        simp [hs]
      simp only [includesFrom, hnone, ih h.2]
      rfl

theorem cutAt_eq_none_of_notMem {a b : Char} {s : List Char} (h : a ∉ s) : cutAt a b s = none := by
  cases hcut : cutAt a b s with
  | none => rfl
  | some parts =>
      obtain ⟨x, y⟩ := parts
      rw [eq_of_cutAt hcut] at h
      simp at h

/-- Before the first slash, every line is read as it stands. -/
theorem includesFrom_append (h : ∀ s ∈ front, '/' ∉ s) (n : Nat) :
    includesFrom false n (front ++ back) =
      directivesFrom n front ++ includesFrom false (n + front.length) back := by
  induction front generalizing n with
  | nil => rfl
  | cons s front ih =>
      rw [List.forall_mem_cons] at h
      have hstrip := stripBlocks_of_cutAt_eq_none (cutAt_eq_none_of_notMem (b := '*') h.1)
      rw [List.cons_append, includesFrom, hstrip, directivesFrom_cons, List.append_assoc]
      simp only [ih h.2, List.length_cons, Nat.add_assoc, Nat.add_comm 1]

end Source

namespace Sample

open Source Text

/-! ## Numbers in texts -/

theorem isDigit_of_mem_toDigits {c : Char} {k : Nat} (h : c ∈ Nat.toDigits 10 k) :
    c.isDigit = true :=
  Nat.isDigit_of_mem_toDigits (by decide) (by decide) h

/-- None of the given characters is in the text. -/
def Avoids (marks : List Char) (s : String) : Prop := ∀ c ∈ s.toList, c ∉ marks

instance (marks : List Char) (s : String) : Decidable (Avoids marks s) :=
  List.decidableBAll _ s.toList

theorem avoids_append {marks : List Char} {s t : String} :
    Avoids marks (s ++ t) ↔ Avoids marks s ∧ Avoids marks t := by
  rw [Avoids, String.toList_append, List.forall_mem_append]
  rfl

/-- A number is written in digits. -/
theorem avoids_repr {marks : List Char} (h : marks.any Char.isDigit = false) (k : Nat) :
    Avoids marks k.repr := by
  intro c hc hmark
  rw [Nat.toList_repr] at hc
  rw [List.any_eq_false] at h
  exact h c hmark (isDigit_of_mem_toDigits hc)

theorem Avoids.notMem {marks : List Char} {s : String} (h : Avoids marks s) {c : Char}
    (hc : c ∈ marks) : c ∉ s.toList :=
  fun hmem => h c hmem hc

theorem Avoids.mono {marks marks' : List Char} {s : String} (h : Avoids marks s)
    (hsub : marks' ⊆ marks) : Avoids marks' s :=
  fun c hc hmark => h c hc (hsub hmark)

theorem toDigits_injective : Function.Injective (Nat.toDigits 10) := by
  intro i j h
  rw [← Nat.ofDigitChars_ten_toDigits (n := i), h, Nat.ofDigitChars_ten_toDigits]

theorem bounds_of_isDigit {c : Char} (h : c.isDigit = true) : 48 ≤ c.toNat ∧ c.toNat ≤ 57 := by
  simpa [Char.isDigit, UInt32.le_iff_toNat_le] using h

theorem isSpace_of_isDigit {c : Char} (h : c.isDigit = true) : isSpace c = false := by
  have hbounds := bounds_of_isDigit h
  simp only [isSpace, Bool.or_eq_false_iff, Bool.and_eq_false_iff, decide_eq_false_iff_not,
    beq_eq_false_iff_ne]
  omega

/-! ## Lines -/

/-- Lines that hold no line break are read as they were written. -/
theorem lines_textOfLines {ls : List String} (h : ∀ s ∈ ls, Avoids ['\n', '\r'] s) :
    lines (textOfLines ls).toList = ls.map String.toList := by
  have htext : (textOfLines ls).toList = unlines (ls.map String.toList) ++ [] := by
    simp [textOfLines, unlines, List.flatMap_map, String.toList_join]
  have hinner : ∀ s ∈ ls.map String.toList, '\n' ∉ s := by
    simpa using fun s hs => (h s hs).notMem (by simp)
  have hreturn : ∀ s ∈ ls.map String.toList, dropReturn s = s := by
    simpa using fun s hs => dropReturn_of_notMem ((h s hs).notMem (by simp))
  have hnil : lines [] = [] := by decide
  rw [htext, lines_unlines_append hinner, hnil, List.append_nil]
  exact (List.map_congr_left hreturn).trans (List.map_id _)

/-- The header of the standard library that header `i` includes. -/
def builtinHeader (i : Nat) : String := (builtinHeaders[i % builtinHeaders.length]?).getD ""

theorem builtinHeader_mem (i : Nat) : builtinHeader i ∈ builtinHeaders := by
  have hlt : i % builtinHeaders.length < builtinHeaders.length := Nat.mod_lt i (by decide)
  rw [builtinHeader, List.getElem?_eq_getElem hlt, Option.getD_some]
  exact List.getElem_mem hlt

/-- The reference by which a header is included. -/
def reference (i : Nat) : String := "file_" ++ i.repr

theorem avoids_reference {i : Nat} : Avoids ['\n', '\r', '/', '#', '"'] (reference i) := by
  rw [reference, avoids_append]
  exact ⟨by decide, avoids_repr (by decide) i⟩

/-- The number of the last header in the chain. -/
def chainEnd (s : Sample) : Nat := min s.includeChainDepth (s.fileCount - 1)

theorem lt_chainEnd_iff {s : Sample} {i : Nat} :
    i < s.chainEnd ↔ i < s.includeChainDepth ∧ i + 1 < s.fileCount := by
  rw [chainEnd]
  omega

theorem includeLines_eq (s : Sample) (i : Nat) :
    s.includeLines i = ("#include <" ++ builtinHeader i ++ ">") ::
      if i < s.chainEnd then ["#include \"" ++ reference (i + 1) ++ "\""] else [] := by
  have hquote : "#include \"file_" ++ (i + 1).repr ++ "\"" =
      "#include \"" ++ reference (i + 1) ++ "\"" := by
    rw [reference, ← String.append_assoc]
    rfl
  simp only [includeLines, lt_chainEnd_iff, hquote]
  rfl

/-- The lines of a header between its directives and its code: those that define constants, and an
empty line on either side. -/
def defineLines (s : Sample) (i : Nat) : List String :=
  [""] ++ (List.range s.definesPerFile).map (defineLine i) ++ [""]

/-- The lines of a header that declare something other than constants. -/
def codeLines (s : Sample) (i : Nat) : List String :=
  (List.range s.functionsPerFile).flatMap (functionLines i) ++ methodmapLines i ++
    (List.range s.extraLinesPerFile).map (extraLine i)

theorem headerLines_eq (s : Sample) (i : Nat) :
    s.headerLines i = (s.includeLines i ++ s.defineLines i) ++ s.codeLines i := by
  simp [headerLines, defineLines, codeLines]

/-- Before the code of a header there is nothing that could open a block comment. -/
theorem avoids_of_mem_includeLines {s : Sample} {i : Nat} :
    ∀ l ∈ s.includeLines i, Avoids ['\n', '\r', '/'] l := by
  have hbuiltin : ∀ h ∈ builtinHeaders, Avoids ['\n', '\r', '/'] h := by decide
  have hheader := hbuiltin _ (builtinHeader_mem i)
  have hnumber : ∀ k : Nat, Avoids ['\n', '\r', '/'] k.repr := avoids_repr (by decide)
  rw [includeLines_eq]
  split
  · simp only [List.forall_mem_cons, reference, avoids_append, hheader, hnumber]
    decide
  · simp only [List.forall_mem_cons, avoids_append, hheader]
    decide

theorem avoids_of_mem_defineLines {s : Sample} {i : Nat} :
    ∀ l ∈ s.defineLines i, Avoids ['\n', '\r', '/'] l := by
  have hnumber : ∀ k : Nat, Avoids ['\n', '\r', '/'] k.repr := avoids_repr (by decide)
  have hdefine : ∀ k, Avoids ['\n', '\r', '/'] (defineLine i k) := by
    intro k
    -- The equation of a definition with long literals is slow to make, so it is unfolded as it is.
    delta defineLine
    simp only [avoids_append, hnumber, and_true]
    decide
  have hempty : Avoids ['\n', '\r', '/'] "" := by decide
  intro l hl
  rw [defineLines, List.mem_append, List.mem_append, List.mem_singleton, List.mem_map] at hl
  rcases hl with (rfl | ⟨k, -, rfl⟩) | rfl
  · exact hempty
  · exact hdefine k
  · exact hempty

/-- The code of a header has block comments, but no sign of a directive. -/
theorem avoids_of_mem_codeLines {s : Sample} {i : Nat} :
    ∀ l ∈ s.codeLines i, Avoids ['\n', '\r', '#'] l := by
  have hnumber : ∀ k : Nat, Avoids ['\n', '\r', '#'] k.repr := avoids_repr (by decide)
  have hfunction : ∀ k, ∀ l ∈ functionLines i k, Avoids ['\n', '\r', '#'] l := by
    intro k
    simp only [functionLines, List.forall_mem_cons, avoids_append, hnumber, and_true]
    decide
  have hmethodmap : ∀ l ∈ methodmapLines i, Avoids ['\n', '\r', '#'] l := by
    simp only [methodmapLines, List.forall_mem_cons, avoids_append, hnumber, and_true]
    decide
  have hextra : ∀ k, Avoids ['\n', '\r', '#'] (extraLine i k) := by
    intro k
    delta extraLine
    simp only [avoids_append, hnumber, and_true]
    decide
  intro l hl
  rw [codeLines, List.mem_append, List.mem_append, List.mem_flatMap, List.mem_map] at hl
  rcases hl with (⟨k, -, hl⟩ | hl) | ⟨k, -, rfl⟩
  · exact hfunction k l hl
  · exact hmethodmap l hl
  · exact hextra k

/-! ## Directives -/

/-- The word of the line is not that of a directive. -/
theorem include?_defineLine (n i k : Nat) : include? n (defineLine i k).toList = none := by
  have hword : ∀ rest, include? n ("#define FILE_".toList ++ rest) = none := fun _ => rfl
  delta defineLine
  simp only [String.toList_append, List.append_assoc, hword]

theorem directivesFrom_defineLines (n : Nat) (s : Sample) (i : Nat) :
    directivesFrom n ((s.defineLines i).map String.toList) = [] := by
  rw [directivesFrom, List.filterMap_eq_nil_iff]
  intro e he
  obtain ⟨l, hl, hline⟩ := List.mem_map.mp (List.fst_mem_of_mem_zipIdx he)
  rw [← hline]
  rw [defineLines, List.mem_append, List.mem_append, List.mem_singleton, List.mem_map] at hl
  rcases hl with (rfl | ⟨k, -, rfl⟩) | rfl
  · rfl
  · exact include?_defineLine e.2 i k
  · rfl

theorem include?_builtinHeader (n i : Nat) :
    include? n ("#include <" ++ builtinHeader i ++ ">").toList =
      some { reference := builtinHeader i, isBuiltin := true, line := n } := by
  have hall : ∀ h ∈ builtinHeaders, include? n ("#include <" ++ h ++ ">").toList =
      some { reference := h, isBuiltin := true, line := n } := by
    simp only [builtinHeaders, List.forall_mem_cons]
    exact ⟨rfl, rfl, rfl, rfl, rfl, by simp⟩
  exact hall _ (builtinHeader_mem i)

theorem isSpace_of_mem_reference {i : Nat} : ∀ c ∈ (reference i).toList, isSpace c = false := by
  have hstem : ("file_".toList.all fun c => !isSpace c) = true := by decide
  intro c hc
  rw [reference, String.toList_append, Nat.toList_repr] at hc
  rcases List.mem_append.mp hc with hc | hc
  · simpa using List.all_eq_true.mp hstem c hc
  · exact isSpace_of_isDigit (isDigit_of_mem_toDigits hc)

theorem include?_reference (n i : Nat) :
    include? n ("#include \"" ++ reference i ++ "\"").toList =
      some { reference := reference i, line := n } := by
  have hdirective : IsDirective ("#include \"" ++ reference i ++ "\"").toList false false
      (reference i).toList := by
    refine ⟨"#include \"".toList, [], ⟨[], [], [' '], by decide⟩, ?_, ?_, ?_⟩
    · simp [closing]
    · exact avoids_reference.notMem (by simp [closing])
    · rw [reference, String.toList_append]
      rfl
  rw [include?_of_isDirective hdirective, (isTrimmed_of_forall isSpace_of_mem_reference).trim_eq,
    String.ofList_toList]

/-! ## Files -/

theorem mem_files_iff {s : Sample} {f : String × String} :
    f ∈ s.files ↔ (∃ i < s.fileCount, f = (headerName i, textOfLines (s.headerLines i))) ∨
      f = (pluginName, textOfLines s.pluginLines) := by
  simp [files, eq_comm]

theorem header_mem_files {s : Sample} {i : Nat} (h : i < s.fileCount) :
    (headerName i, textOfLines (s.headerLines i)) ∈ s.files :=
  mem_files_iff.mpr (Or.inl ⟨i, h, rfl⟩)

theorem plugin_mem_files (s : Sample) : (pluginName, textOfLines s.pluginLines) ∈ s.files :=
  mem_files_iff.mpr (Or.inr rfl)

/-- The includes of a header: its header of the standard library, then the next header of the
chain. -/
theorem includes_header (s : Sample) (i : Nat) :
    includes (textOfLines (s.headerLines i)) =
      { reference := builtinHeader i, isBuiltin := true } ::
        if i < s.chainEnd then [{ reference := reference (i + 1), line := 1 }] else [] := by
  have hlines : ∀ l ∈ s.headerLines i, Avoids ['\n', '\r'] l := by
    intro l hl
    rw [headerLines_eq, List.mem_append, List.mem_append] at hl
    rcases hl with (hl | hl) | hl
    · exact (avoids_of_mem_includeLines l hl).mono (by simp)
    · exact (avoids_of_mem_defineLines l hl).mono (by simp)
    · exact (avoids_of_mem_codeLines l hl).mono (by simp)
  have hslash : ∀ l ∈ (s.includeLines i ++ s.defineLines i).map String.toList, '/' ∉ l := by
    simp only [List.forall_mem_map, List.forall_mem_append]
    exact ⟨fun l hl => (avoids_of_mem_includeLines l hl).notMem (by simp),
      fun l hl => (avoids_of_mem_defineLines l hl).notMem (by simp)⟩
  have hhash : ∀ l ∈ (s.codeLines i).map String.toList, '#' ∉ l := by
    rw [List.forall_mem_map]
    exact fun l hl => (avoids_of_mem_codeLines l hl).notMem (by simp)
  have hdefine := fun n => directivesFrom_defineLines n s i
  rw [includes, lines_textOfLines hlines, headerLines_eq, List.map_append,
    includesFrom_append hslash, includesFrom_of_hash_notMem hhash, List.append_nil,
    List.map_append, includeLines_eq]
  split
  · simp only [List.map_cons, List.map_nil, List.cons_append, List.nil_append,
      directivesFrom_cons, include?_builtinHeader, include?_reference, hdefine]
    rfl
  · simp only [List.map_cons, List.map_nil, List.cons_append, List.nil_append,
      directivesFrom_cons, include?_builtinHeader, hdefine]
    rfl

/-- The plugin includes the first header. -/
theorem includes_plugin {s : Sample} (h : 0 < s.fileCount) :
    includes (textOfLines s.pluginLines) = [{ reference := reference 0 }] := by
  have hzero : reference 0 = "file_0" := by decide
  rw [pluginLines, if_pos h, hzero]
  decide +kernel

/-- Each include of a file is one of a header of the standard library, or one of a header of the
sample. -/
theorem include_cases {s : Sample} (hcount : 0 < s.fileCount) {f : String × String}
    (hf : f ∈ s.files) {i : Include} (hi : i ∈ includes f.2) :
    (∃ k, i.reference = builtinHeader k ∧ i.isBuiltin = true) ∨
      ∃ k < s.fileCount, i.reference = reference k ∧ i.isBuiltin = false := by
  rcases mem_files_iff.mp hf with ⟨k, -, rfl⟩ | rfl
  · rw [includes_header, List.mem_cons] at hi
    rcases hi with rfl | hi
    · exact Or.inl ⟨k, rfl, rfl⟩
    · split at hi
      · rename_i hk
        rw [List.mem_singleton.mp hi]
        exact Or.inr ⟨k + 1, (lt_chainEnd_iff.mp hk).2, rfl, rfl⟩
      · cases hi
  · rw [includes_plugin hcount, List.mem_singleton] at hi
    rw [hi]
    exact Or.inr ⟨0, hcount, rfl, rfl⟩

end Sample

end PawnScope
