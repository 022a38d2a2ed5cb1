import PawnScope.Proofs.Source.PlainLines

/-! # Headers on several lines

A parameter list may go on over several lines. The header is then read like the one line that its
lines make when they are put together, as long as it ends within the lines that a header may have.
A header that is still open after that many lines is given up with the next line. -/

namespace PawnScope.Source

open Text

/-! ## Lists that are closed -/

theorem untilClosed_append {depth : Nat} {s list : List Char} (h : untilClosed depth s = some list)
    (t : List Char) : untilClosed depth (s ++ t) = some list := by
  fun_induction untilClosed depth s generalizing list with
  | case1 depth => cases h
  | case2 depth c s hopening ih =>
      obtain ⟨inner, hinner, rfl⟩ := Option.map_eq_some_iff.mp h
      simp [untilClosed, hopening, ih hinner]
  | case3 depth c s hopening hclosing hdepth =>
      cases h
      simp [untilClosed, hopening, hclosing, hdepth]
  | case4 depth c s hopening hclosing hdepth ih =>
      obtain ⟨inner, hinner, rfl⟩ := Option.map_eq_some_iff.mp h
      simp [untilClosed, hopening, hclosing, hdepth, ih hinner]
  | case5 depth c s hopening hclosing ih =>
      obtain ⟨inner, hinner, rfl⟩ := Option.map_eq_some_iff.mp h
      simp [untilClosed, hopening, hclosing, ih hinner]

/-- A list that is closed stays so, whatever follows. -/
theorem parameterList?_append {s list : List Char} (h : parameterList? s = some list)
    (t : List Char) : parameterList? (s ++ t) = some list := by
  unfold parameterList? at h ⊢
  rw [List.dropWhile_append]
  split at h
  · cases h
  · rename_i c inner hdrop
    simp only [hdrop, List.isEmpty_cons, Bool.false_eq_true, if_false, List.cons_append]
    exact untilClosed_append h t

theorem parameterList?_eq_none_of_append {s t : List Char} (h : parameterList? (s ++ t) = none) :
    parameterList? s = none := by
  cases hs : parameterList? s with
  | none => rfl
  | some list =>
      rw [parameterList?_append hs] at h
      cases h

/-! ## Putting lines together -/

/-- What further lines add to a header. -/
def continuation (rest : List (List Char)) : List Char := rest.flatMap fun raw => ' ' :: trim raw

/-- A line with further lines behind it, each trimmed and after one blank. -/
def onOneLine (first : List Char) (rest : List (List Char)) : List Char :=
  first ++ continuation rest

theorem onOneLine_nil (first : List Char) : onOneLine first [] = first := List.append_nil first

theorem isPlain_continuation {rest : List (List Char)} (h : ∀ raw ∈ rest, IsPlain raw) :
    IsPlain (continuation rest) := by
  induction rest with
  | nil => decide
  | cons raw rest ih =>
      rw [List.forall_mem_cons] at h
      have hraw : IsPlain (trim raw) := h.1.of_subset (trim_isInfix raw).subset
      have hcons : continuation (raw :: rest) = [' '] ++ (trim raw ++ continuation rest) := rfl
      rw [hcons, isPlain_append, isPlain_append]
      exact ⟨by decide, hraw, ih h.2⟩

namespace Scan

/-- A scan with an open header, which remembers nothing else but the number of open braces. -/
def holding (h : Header) (depth : Nat) : Scan := { depth := depth, header := some h }

/-- One more line that leaves the header open. -/
theorem scanLine_holding {h : Header} {raw : List Char} (hraw : IsPlain raw)
    (hseen : h.linesSeen < 32) (hopen : parameterList? (continued h raw).text = none)
    (depth line : Nat) :
    (holding h depth).scanLine line raw =
      holding (continued h raw) (raw.foldl braceDepth depth) := by
  have hlines : ¬maxHeaderLines < (continued h raw).linesSeen := Nat.not_lt.mpr hseen
  have htake : (holding h depth).take (.header (continued h raw)) =
      holding (continued h raw) depth := by
    simp [take, hold, hopen, holding]
  rw [scanLine_of_isPlain rfl rfl hraw]
  simp only [holding, continueHeader_eq, hlines] at htake ⊢
  rw [if_false, htake, trackBraces_outside rfl rfl]

/-- The line that closes the header. -/
theorem scanLine_holding_closed {h : Header} (hkind : h.kind = .function) {raw list : List Char}
    (hraw : IsPlain raw) (hseen : h.linesSeen < 32)
    (hclosed : parameterList? (continued h raw).text = some list) (depth line : Nat) :
    (holding h depth).scanLine line raw =
      within [symbolOf h list] (raw.foldl braceDepth depth) := by
  have hlines : ¬maxHeaderLines < (continued h raw).linesSeen := Nat.not_lt.mpr hseen
  have hfunction : (continued h raw).kind ≠ .methodmap := by
    change h.kind ≠ .methodmap
    rw [hkind]
    decide
  have htake : (holding h depth).take (.header (continued h raw)) =
      within [symbolOf h list] depth := by
    simp only [take, hold, hclosed, finish, if_neg hfunction]
    rfl
  rw [scanLine_of_isPlain rfl rfl hraw]
  simp only [holding, continueHeader_eq, hlines] at htake ⊢
  rw [if_false, htake, trackBraces_within]

/-- The line that comes too late, whatever it holds. -/
theorem scanLine_holding_late {h : Header} (hseen : h.linesSeen = 32) (depth line : Nat)
    (raw : List Char) :
    ∃ depth' inComment, (holding h depth).scanLine line raw =
      { depth := depth', inComment := inComment } := by
  have hcollect : (holding h depth).collectDoc raw = (holding h depth, false) := rfl
  have hlines : maxHeaderLines < (continued h (codeOf false raw).1).linesSeen := by
    change 32 < h.linesSeen + 1
    omega
  refine ⟨(codeOf false raw).1.foldl braceDepth depth, (codeOf false raw).2, ?_⟩
  simp only [scanLine, hcollect, Bool.false_eq_true, if_false]
  simp only [holding, continueHeader_eq]
  rw [if_pos hlines, trackBraces_outside rfl rfl]

/-- The header with further lines. -/
def continuedBy (h : Header) (rest : List (List Char)) : Header :=
  { h with text := h.text ++ continuation rest, linesSeen := h.linesSeen + rest.length }

theorem continuedBy_cons (h : Header) (raw : List Char) (rest : List (List Char)) :
    continuedBy h (raw :: rest) = continuedBy (continued h raw) rest := by
  simp [continuedBy, continued, continuation, Nat.add_assoc, Nat.add_comm 1]

/-- Lines that leave the header open, within the lines that it may have. -/
theorem scanLines_holding {h : Header} {rest : List (List Char)} (hrest : ∀ raw ∈ rest, IsPlain raw)
    (hseen : h.linesSeen + rest.length ≤ 32)
    (hopen : parameterList? (continuedBy h rest).text = none) (depth line : Nat) :
    ∃ depth', (holding h depth).scanLines line rest = holding (continuedBy h rest) depth' := by
  induction rest generalizing h depth line with
  | nil => exact ⟨depth, by simp [scanLines, continuedBy, continuation]⟩
  | cons raw rest ih =>
      rw [List.forall_mem_cons] at hrest
      rw [List.length_cons] at hseen
      rw [continuedBy_cons] at hopen ⊢
      rw [scanLines, scanLine_holding hrest.1 (by omega) (parameterList?_eq_none_of_append hopen)]
      exact ih hrest.2 (by simp only [continued]; omega) hopen _ _

end Scan

/-! ## Functions whose header goes on -/

namespace IsFunctionLine

open Scan

variable {first : List Char} {stored : Bool} {c : Callable}

theorem parameterList?_append (h : IsFunctionLine first stored c) (t : List Char) :
    parameterList? (first ++ t) = parameterList? (c.tail ++ t) := by
  have hstart := startsParen_of_function? h.heading
  have hself : StartsParen c.tail c.tail := ⟨LeavesParen.refl _, hstart.2⟩
  rw [parameterList?, parameterList?, hstart.dropWhile_eq, hself.dropWhile_eq]

theorem parameterList?_eq (h : IsFunctionLine first stored c) :
    parameterList? first = parameterList? c.tail := by
  simpa using h.parameterList?_append []

theorem scanLine_eq (h : IsFunctionLine first stored c) (hfirst : IsPlain first) :
    scanLine {} 0 first =
      (take {} (.header (headerOf c 0 .function none none))).trackBraces first :=
  scanLine_of_isFunctionLine rfl rfl rfl rfl rfl hfirst h 0

theorem scanLine_open (h : IsFunctionLine first stored c) (hfirst : IsPlain first)
    (hopen : parameterList? first = none) :
    scanLine {} 0 first =
      holding (headerOf c 0 .function none none) (first.foldl braceDepth 0) := by
  rw [h.parameterList?_eq] at hopen
  have htake : take {} (.header (headerOf c 0 .function none none)) =
      holding (headerOf c 0 .function none none) 0 := by
    simp [take, hold, headerOf, hopen, holding]
  rw [h.scanLine_eq hfirst, htake, trackBraces_outside rfl rfl]
  rfl

theorem found_scanLine_closed (h : IsFunctionLine first stored c) (hfirst : IsPlain first)
    {list : List Char} (hclosed : parameterList? first = some list) :
    (scanLine {} 0 first).found = [symbolOf (headerOf c 0 .function none none) list] := by
  rw [h.parameterList?_eq] at hclosed
  rw [h.scanLine_eq hfirst, found_trackBraces]
  simp [take, hold, headerOf, hclosed, finish, push, symbolOf]

/-- Lines that leave the list open leave the header open. -/
theorem scanLines_open (h : IsFunctionLine first stored c) {rest : List (List Char)}
    (hplain : ∀ raw ∈ first :: rest, IsPlain raw) (hlength : rest.length < 32)
    (hopen : parameterList? (onOneLine first rest) = none) :
    ∃ depth, scanLines {} 0 (first :: rest) =
      holding (continuedBy (headerOf c 0 .function none none) rest) depth := by
  rw [List.forall_mem_cons] at hplain
  rw [scanLines, h.scanLine_open hplain.1 (parameterList?_eq_none_of_append hopen)]
  rw [onOneLine, h.parameterList?_append] at hopen
  have hseen : (headerOf c 0 .function none none).linesSeen + rest.length ≤ 32 := by
    simp only [headerOf]
    omega
  exact scanLines_holding (h := headerOf c 0 .function none none) hplain.2 hseen hopen _ _

/-- The function is found where its list ends, with what is put together from all the lines. -/
theorem found_scanLines (h : IsFunctionLine first stored c) {rest : List (List Char)}
    (hplain : ∀ raw ∈ first :: rest, IsPlain raw) (hlength : rest.length < 32)
    (hopen : ∀ k < rest.length, parameterList? (onOneLine first (rest.take k)) = none)
    {list : List Char} (hclosed : parameterList? (onOneLine first rest) = some list) :
    (scanLines {} 0 (first :: rest)).found =
      [symbolOf (headerOf c 0 .function none none) list] := by
  rcases rest.eq_nil_or_concat with rfl | ⟨init, last, rfl⟩
  · rw [onOneLine_nil] at hclosed
    exact h.found_scanLine_closed (hplain first List.mem_cons_self) hclosed
  · rw [List.concat_eq_append] at hplain hlength hopen hclosed ⊢
    rw [List.length_append, List.length_singleton] at hlength
    have hinit := hopen init.length (by simp)
    rw [List.take_left] at hinit
    rw [← List.cons_append, List.forall_mem_append] at hplain
    obtain ⟨depth, hdepth⟩ := h.scanLines_open hplain.1 (by omega) hinit
    have htext : parameterList? (continued (continuedBy (headerOf c 0 .function none none) init)
        last).text = some list := by
      rw [onOneLine, h.parameterList?_append] at hclosed
      simpa [continued, continuedBy, continuation, headerOf] using hclosed
    have hseen : (continuedBy (headerOf c 0 .function none none) init).linesSeen < 32 := by
      simp only [continuedBy, headerOf]
      omega
    rw [← List.cons_append, scanLines_append, hdepth, scanLines,
      scanLine_holding_closed rfl (hplain.2 last (by simp)) hseen htext]
    rfl

end IsFunctionLine

/-! ## Texts -/

theorem lines_unlines {ls : List (List Char)} (hls : ∀ s ∈ ls, '\n' ∉ s ∧ '\r' ∉ s)
    (rest : List Char) : lines (unlines ls ++ rest) = ls ++ lines rest := by
  have hmap : ls.map dropReturn = ls.map id :=
    List.map_congr_left fun s hs => dropReturn_of_notMem (hls s hs).2
  rw [lines_unlines_append fun s hs => (hls s hs).1, hmap, List.map_id]

theorem declarations_unlines {ls : List (List Char)} (hls : ∀ s ∈ ls, '\n' ∉ s ∧ '\r' ∉ s) :
    declarations (String.ofList (unlines ls)) = (Scan.scanLines {} 0 ls).found.reverse := by
  have hlines := lines_unlines hls []
  rw [List.append_nil] at hlines
  rw [declarations, String.toList_ofList, hlines]
  exact congrArg (fun ls => (Scan.scanLines {} 0 ls).found.reverse) (List.append_nil ls)

theorem notMem_onOneLine {d : Char} (hspace : d ≠ ' ') {first : List Char}
    {rest : List (List Char)} (h : ∀ raw ∈ first :: rest, d ∉ raw) : d ∉ onOneLine first rest := by
  rw [List.forall_mem_cons] at h
  simp only [onOneLine, continuation, List.mem_append, List.mem_flatMap, List.mem_cons, not_or,
    not_exists, not_and]
  exact ⟨h.1, fun raw hraw => ⟨hspace, fun hmem => h.2 raw hraw ((trim_isInfix raw).subset hmem)⟩⟩

/-- A state that remembers no line numbers finds nothing but what is declared from here on. -/
theorem le_line_of_mem_scanLines {s : Scan} (hfound : s.found = []) (hheader : s.header = none)
    (k : Nat) (ls : List (List Char)) : ∀ x ∈ (s.scanLines k ls).found, k ≤ x.line := by
  have hself : s.moveDown k = s := by
    obtain ⟨found, docs, inDoc, inComment, depth, block, awaited, header⟩ := s
    cases hfound
    cases hheader
    rfl
  have hmoved := Scan.scanLines_moveDown s 0 k ls
  rw [hself, Nat.zero_add] at hmoved
  rw [hmoved]
  intro x hx
  obtain ⟨y, -, rfl⟩ := List.mem_map.mp hx
  exact Nat.le_add_left k y.line

section FunctionLines

variable {first : List Char} {rest : List (List Char)} {stored : Bool} {c : Callable}

/-- The line that plain lines make is plain. -/
theorem forall_mem_onOneLine (hlines : ∀ raw ∈ first :: rest, '\n' ∉ raw ∧ '\r' ∉ raw ∧ IsPlain raw) :
    ∀ raw ∈ [onOneLine first rest], '\n' ∉ raw ∧ '\r' ∉ raw ∧ IsPlain raw := by
  have hplain : IsPlain (onOneLine first rest) := by
    rw [List.forall_mem_cons] at hlines
    exact isPlain_append.mpr
      ⟨hlines.1.2.2, isPlain_continuation fun raw hraw => (hlines.2 raw hraw).2.2⟩
  rw [List.forall_mem_singleton]
  exact ⟨notMem_onOneLine (by decide) fun raw hraw => (hlines raw hraw).1,
    notMem_onOneLine (by decide) fun raw hraw => (hlines raw hraw).2.1, hplain⟩

theorem IsFunctionLine.declarations_unlines (h : IsFunctionLine first stored c)
    (hlines : ∀ raw ∈ first :: rest, '\n' ∉ raw ∧ '\r' ∉ raw ∧ IsPlain raw)
    (hlength : rest.length < 32)
    (hopen : ∀ k < rest.length, parameterList? (onOneLine first (rest.take k)) = none)
    {list : List Char} (hclosed : parameterList? (onOneLine first rest) = some list) :
    declarations (String.ofList (unlines (first :: rest))) =
      [Scan.symbolOf (Scan.headerOf c 0 .function none none) list] := by
  have hbreaks : ∀ raw ∈ first :: rest, '\n' ∉ raw ∧ '\r' ∉ raw :=
    fun raw hraw => ⟨(hlines raw hraw).1, (hlines raw hraw).2.1⟩
  rw [Source.declarations_unlines hbreaks,
    h.found_scanLines (fun raw hraw => (hlines raw hraw).2.2) hlength hopen hclosed]
  rfl

/-- A header that is still open after 32 lines is given up with the next line, and nothing is found
up to there. -/
theorem IsFunctionLine.le_line_of_open (h : IsFunctionLine first stored c)
    (hlines : ∀ raw ∈ first :: rest, '\n' ∉ raw ∧ '\r' ∉ raw ∧ IsPlain raw)
    (hlength : (first :: rest).length = 32) (hopen : parameterList? (onOneLine first rest) = none)
    (text : String) :
    ∀ x ∈ declarations (String.ofList (unlines (first :: rest)) ++ text), 33 ≤ x.line := by
  have hbreaks : ∀ raw ∈ first :: rest, '\n' ∉ raw ∧ '\r' ∉ raw :=
    fun raw hraw => ⟨(hlines raw hraw).1, (hlines raw hraw).2.1⟩
  have hrest : rest.length + 1 = 32 := hlength
  obtain ⟨depth, hdepth⟩ :=
    h.scanLines_open (fun raw hraw => (hlines raw hraw).2.2) (by omega) hopen
  intro x hx
  rw [declarations, List.mem_reverse, String.toList_append, String.toList_ofList,
    lines_unlines hbreaks, Scan.scanLines_append, hdepth, hlength] at hx
  cases htext : lines text.toList with
  | nil =>
      rw [htext] at hx
      cases hx
  | cons late later =>
      have hseen : (Scan.continuedBy (Scan.headerOf c 0 .function none none) rest).linesSeen =
          32 := by
        simp only [Scan.continuedBy, Scan.headerOf]
        omega
      obtain ⟨depth', inComment, hlate⟩ := Scan.scanLine_holding_late hseen depth (0 + 32) late
      rw [htext, Scan.scanLines, hlate] at hx
      exact le_line_of_mem_scanLines rfl rfl 33 later x hx

/-- A function whose header goes on over several lines, without literals and comments, is declared
like one whose header stands on one line, if the list of its parameters ends on the last of at most
32 lines. If the list is still open after 32 lines, these and the next line declare nothing. -/
theorem declarations_onOneLine
    (hlines : ∀ raw ∈ first :: rest, '\n' ∉ raw ∧ '\r' ∉ raw ∧ IsPlain raw)
    (h : IsFunctionLine first stored c) :
    ((first :: rest).length ≤ 32 →
      (∀ k < rest.length, parameterList? (onOneLine first (rest.take k)) = none) →
      ∀ list, parameterList? (onOneLine first rest) = some list →
        declarations (String.ofList (unlines (first :: rest))) =
            declarations (String.ofList (unlines [onOneLine first rest])) ∧
          declarations (String.ofList (unlines [onOneLine first rest])) =
            [Scan.symbolOf (Scan.headerOf c 0 .function none none) list]) ∧
    ((first :: rest).length = 32 → parameterList? (onOneLine first rest) = none →
      ∀ text, ∀ x ∈ declarations (String.ofList (unlines (first :: rest)) ++ text), 33 ≤ x.line) := by
  constructor
  · intro hlength hopen list hclosed
    have hseveral := h.declarations_unlines hlines hlength hopen hclosed
    -- The line that the lines make starts with the same heading and is a header of one line.
    have hline : IsFunctionLine (onOneLine first rest) stored (c.extend (continuation rest)) :=
      h.append (continuation rest)
    rw [← onOneLine_nil (onOneLine first rest)] at hclosed
    have hone := hline.declarations_unlines (forall_mem_onOneLine hlines) (by decide)
      (fun k hk => absurd hk (Nat.not_lt_zero k)) hclosed
    exact ⟨hseveral.trans hone.symm, hone⟩
  · exact h.le_line_of_open hlines

end FunctionLines

/-- The first line of a header. -/
def sumHeading : List Char := "stock int Sum(".toList

theorem isFunctionLine_sumHeading :
    IsFunctionLine sumHeading true ⟨some "int".toList, "Sum".toList, ['(']⟩ := by
  have hheading : sumHeading = "stock".toList ++ ' ' :: typedHeading "int".toList "Sum".toList [] := by
    decide
  rw [hheading]
  exact isFunctionLine_stock (by decide) (by decide) (by decide) (by decide) []

/-- The other lines of a header. -/
def sumParameters : List (List Char) :=
  ["  int first[2] = \x7b1,", "\t2\x7d,  ", "Float:scale) \x7b"].map String.toList

theorem declarations_onOneLine_sum :
    declarations (String.ofList (unlines (sumHeading :: sumParameters))) =
        declarations "stock int Sum( int first[2] = \x7b1, 2\x7d, Float:scale) \x7b\n" ∧
      ∀ x ∈ declarations (String.ofList (unlines (sumHeading :: List.replicate 31 "int a,".toList)) ++
        ")\nint b;\n"), 33 ≤ x.line := by
  have hopen : ∀ k < sumParameters.length,
      parameterList? (onOneLine sumHeading (sumParameters.take k)) = none := by decide +kernel
  have hclosed : parameterList? (onOneLine sumHeading sumParameters) =
      some " int first[2] = \x7b1, 2\x7d, Float:scale".toList := by decide +kernel
  have hline : String.ofList (unlines [onOneLine sumHeading sumParameters]) =
      "stock int Sum( int first[2] = \x7b1, 2\x7d, Float:scale) \x7b\n" := by decide +kernel
  have hparameters : ∀ raw ∈ sumHeading :: sumParameters,
      '\n' ∉ raw ∧ '\r' ∉ raw ∧ IsPlain raw := by decide +kernel
  have hendless : ∀ raw ∈ sumHeading :: List.replicate 31 "int a,".toList,
      '\n' ∉ raw ∧ '\r' ∉ raw ∧ IsPlain raw := by decide +kernel
  have hclosing := declarations_onOneLine hparameters isFunctionLine_sumHeading
  constructor
  · rw [← hline]
    exact (hclosing.1 (by decide) hopen _ hclosed).1
  · exact (declarations_onOneLine hendless isFunctionLine_sumHeading).2 (by decide)
      (by decide +kernel) _

/-- A heading that is also read as the start of an enumeration, which is looked for first. -/
def enumHeading : List Char := "enum[] F(".toList

def enumMembers : List Char := "\x7bb\x7d)".toList

/-- The list of such a heading ends on the second line, and yet the two lines do not declare what
the one line declares. -/
theorem declarations_enumHeading :
    ((function? enumHeading).map fun (stored, c) => Scan.isDeclared stored c) = some true ∧
      (∀ raw ∈ [enumHeading, enumMembers], '\n' ∉ raw ∧ '\r' ∉ raw ∧ IsPlain raw) ∧
      parameterList? (onOneLine enumHeading []) = none ∧
      parameterList? (onOneLine enumHeading [enumMembers]) = some " \x7bb\x7d".toList ∧
      declarations (String.ofList (unlines [enumHeading, enumMembers])) ≠
        declarations (String.ofList (unlines [onOneLine enumHeading [enumMembers]])) := by
  decide +kernel

end PawnScope.Source
