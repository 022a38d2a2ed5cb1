import PawnScope.Proofs.Source.FunctionBodies

/-! # Documentation above a declaration

Comment lines right above a declaration document it, whether they make one block comment or are line
comments. Both give the same text: the signs of the comment go, and with them the white space on
both sides of each line. A blank line in between detaches them. -/

namespace PawnScope.Text

/-- What comes after the end of a line. -/
def nextLines (after : List Char) : List Char := (after.dropWhile (· != '\n')).tail

theorem lines_append_of_followsLine {s after : List Char} (hne : s ≠ []) (hbreak : '\n' ∉ s)
    (hreturn : '\r' ∉ s) (h : FollowsLine after) :
    lines (s ++ after) = s :: lines (nextLines after) := by
  rcases h with rfl | ⟨rest, rfl⟩ | ⟨rest, rfl⟩
  · rw [List.append_nil, lines_of_notMem hbreak, if_neg (by simpa using hne)]
    rfl
  · rw [lines_append_cons hbreak, dropReturn_of_notMem hreturn]
    rfl
  · have hline : '\n' ∉ s ++ ['\r'] := by simpa using hbreak
    have hdrop : dropReturn (s ++ ['\r']) = s := by simp [dropReturn]
    have hassoc : s ++ '\r' :: '\n' :: rest = s ++ ['\r'] ++ '\n' :: rest := by simp
    rw [hassoc, lines_append_cons hline, hdrop]
    rfl

theorem trim_dropReturn (s : List Char) : trim (dropReturn s) = trim s := by
  obtain ⟨tail, hs, htail⟩ := exists_dropReturn_append s
  have hblank : isBlank tail = true := by
    rcases htail with rfl | rfl
    all_goals rfl
  have htrim := trim_append_blank (dropReturn s) hblank
  rw [← hs] at htrim
  exact htrim.symm

theorem intercalate_ne_nil {l : List Char} (hl : l ≠ []) (ls : List (List Char)) :
    ['\n'].intercalate (l :: ls) ≠ [] := by
  cases ls with
  | nil => simpa using hl
  | cons m ls => simp [List.intercalate_cons_cons, hl]

/-- Trimmed texts with line feeds between them make a trimmed text. -/
theorem isTrimmed_intercalate {ls : List (List Char)} (h : ∀ l ∈ ls, l ≠ [] ∧ IsTrimmed l) :
    IsTrimmed (['\n'].intercalate ls) := by
  induction ls with
  | nil => exact isTrimmed_of_forall fun c hc => absurd hc List.not_mem_nil
  | cons l ls ih =>
      rw [List.forall_mem_cons] at h
      cases ls with
      | nil => simpa using h.1.2
      | cons m ls =>
          have hrest := intercalate_ne_nil (h.2 m List.mem_cons_self).1 ls
          rw [List.intercalate_cons_cons, List.append_assoc]
          exact h.1.2.between h.1.1 (ih h.2) hrest ['\n']

end PawnScope.Text

namespace PawnScope.Source

open Text

/-! ## Comments that document -/

/-- A line of documentation as it is written between the signs of a comment. -/
structure IsDocLine (l : List Char) : Prop where
  inner : '\n' ∉ l
  unclosed : ¬['*', '/'] <:+: l
  visible : ¬isBlank l = true

instance : DecidablePred IsDocLine := fun l =>
  decidable_of_iff ('\n' ∉ l ∧ ¬['*', '/'] <:+: l ∧ ¬isBlank l = true)
    ⟨fun ⟨h₁, h₂, h₃⟩ => ⟨h₁, h₂, h₃⟩, fun ⟨h₁, h₂, h₃⟩ => ⟨h₁, h₂, h₃⟩⟩

/-- The lines as a block comment, each after a star. -/
def blockComment (ls : List (List Char)) : List (List Char) :=
  "/**".toList :: (ls.map ("* ".toList ++ ·) ++ ["*/".toList])

/-- The lines as line comments. -/
def lineComments (ls : List (List Char)) : List (List Char) := ls.map ("// ".toList ++ ·)

/-- The documentation that the lines make. -/
def docText (ls : List (List Char)) : List Char := ['\n'].intercalate (ls.map trim)

namespace Scan

/-- A comment line that is used up is read without the white space at its end. -/
theorem scanLine_dropReturn {s t : Scan} {raw : List Char} (h : s.collectDoc raw = (t, true))
    (line : Nat) : s.scanLine line (dropReturn raw) = t := by
  apply scanLine_of_collectDoc
  rw [← h]
  simp only [collectDoc, trim_dropReturn]

section DocLine

variable {l : List Char} (hl : IsDocLine l)
include hl

/-- A line after the sign of a comment and a blank. -/
theorem exists_trim_sign {sign : List Char} (hsign : IsTrimmed sign) (hne : sign ≠ []) :
    ∃ a, isBlank a = true ∧ a ++ trim l <:+: l ∧
      trim (sign ++ ' ' :: l) = sign ++ ' ' :: (a ++ trim l) := by
  obtain ⟨a, b, ha, hb, hs⟩ := exists_trim l
  have htrim : trim l ≠ [] := fun hnil => hl.visible (trim_eq_nil_iff.mp hnil)
  have hbetween := hsign.between hne (isTrimmed_trim l) htrim (' ' :: a)
  refine ⟨a, ha, ⟨[], b, by simpa using hs.symm⟩, ?_⟩
  have happend := trim_append (a := []) rfl hbetween hb
  simp only [List.nil_append, List.append_assoc, List.cons_append] at happend
  rwa [← hs] at happend

theorem pushDoc_docLine (s : Scan) {a : List Char} (ha : isBlank a = true) :
    s.pushDoc (' ' :: (a ++ trim l)) = { s with docs := s.docs ++ [trim l] } := by
  have hblank : isBlank (' ' :: a) = true := by
    rw [isBlank, List.all_cons, Bool.and_eq_true]
    exact ⟨rfl, ha⟩
  have htrim : trim (' ' :: (a ++ trim l)) = trim l :=
    (trim_blank_append hblank (trim l)).trans (isTrimmed_trim l).trim_eq
  have hempty : ¬(trim l).isEmpty = true := by
    rw [List.isEmpty_iff, trim_eq_nil_iff]
    exact hl.visible
  rw [pushDoc, htrim]
  exact if_neg hempty

theorem scanLine_lineComment (docs : List (List Char)) (line : Nat) :
    scanLine { docs := docs } line (dropReturn ("// ".toList ++ l)) =
      { docs := docs ++ [trim l] } := by
  have hsign : IsTrimmed ['/', '/'] := isTrimmed_of_forall (by simp [isSpace])
  obtain ⟨a, ha, -, htrim⟩ := exists_trim_sign hl hsign (by decide)
  have hraw : trim ("// ".toList ++ l) = '/' :: '/' :: ' ' :: (a ++ trim l) := htrim
  apply scanLine_dropReturn
  simp only [collectDoc, hraw]
  exact congrArg (·, true) (pushDoc_docLine hl _ ha)

theorem scanLine_docLine (docs : List (List Char)) (line : Nat) :
    scanLine { docs := docs, inDoc := true } line (dropReturn ("* ".toList ++ l)) =
      { docs := docs ++ [trim l], inDoc := true } := by
  have hsign : IsTrimmed ['*'] := isTrimmed_of_forall (by simp [isSpace])
  obtain ⟨a, ha, hinfix, htrim⟩ := exists_trim_sign hl hsign (by decide)
  have hraw : trim ("* ".toList ++ l) = '*' :: ' ' :: (a ++ trim l) := htrim
  -- The sign of the line and the blank after it do not close the comment either.
  have hcut : cutAt '*' '/' ('*' :: ' ' :: (a ++ trim l)) = none := by
    rw [cutAt_eq_none_iff]
    intro front back heq
    cases front with
    | nil => cases heq
    | cons c front =>
        cases front with
        | nil => cases heq
        | cons d front =>
            simp only [List.cons_append, List.cons.injEq] at heq
            have hsigns : ['*', '/'] <:+: a ++ trim l := ⟨front, back, by simp [heq.2.2]⟩
            exact hl.unclosed (hsigns.trans hinfix)
  apply scanLine_dropReturn
  simp only [collectDoc, hraw, continueDoc, hcut]
  exact congrArg (·, true) (pushDoc_docLine hl _ ha)

end DocLine

theorem scanLines_lineComments {ls : List (List Char)} (hls : ∀ l ∈ ls, IsDocLine l)
    (docs : List (List Char)) (line : Nat) :
    scanLines { docs := docs } line ((lineComments ls).map dropReturn) =
      { docs := docs ++ ls.map trim } := by
  induction ls generalizing docs line with
  | nil => simp [lineComments, scanLines]
  | cons l ls ih =>
      rw [List.forall_mem_cons] at hls
      have htail := ih hls.2 (docs ++ [trim l]) (line + 1)
      rw [lineComments] at htail ⊢
      rw [List.map_cons, List.map_cons, scanLines, scanLine_lineComment hls.1, htail]
      simp

theorem scanLines_docLines {ls : List (List Char)} (hls : ∀ l ∈ ls, IsDocLine l)
    (docs : List (List Char)) (line : Nat) :
    scanLines { docs := docs, inDoc := true } line
        ((ls.map ("* ".toList ++ ·)).map dropReturn) =
      { docs := docs ++ ls.map trim, inDoc := true } := by
  induction ls generalizing docs line with
  | nil => simp [scanLines]
  | cons l ls ih =>
      rw [List.forall_mem_cons] at hls
      rw [List.map_cons, List.map_cons, scanLines, scanLine_docLine hls.1, ih hls.2]
      simp

theorem scanLines_blockComment {ls : List (List Char)} (hls : ∀ l ∈ ls, IsDocLine l) :
    scanLines {} 0 ((blockComment ls).map dropReturn) = { docs := ls.map trim } := by
  have hopen : scanLine {} 0 (dropReturn "/**".toList) = { inDoc := true } := by decide +kernel
  have hclose : ∀ docs line, scanLine { docs := docs, inDoc := true } line
      (dropReturn "*/".toList) = { docs := docs } := by
    intro docs line
    apply scanLine_dropReturn
    rfl
  rw [blockComment, List.map_cons, scanLines, hopen, List.map_append, scanLines_append,
    scanLines_docLines hls [], List.map_singleton, scanLines, hclose, scanLines, List.nil_append]

end Scan

/-! ## The declaration below -/

/-- A function without parameters and with an empty body. -/
def emptyFunction (name : String) : String := heading name ++ " \x7b\x7d"

theorem toList_emptyFunction (name : String) :
    (emptyFunction name).toList =
      typedHeading "void".toList name.toList [')', ' ', '\x7b', '\x7d'] := by
  simp [emptyFunction, heading, typedHeading]

section EmptyFunction

variable {name : String} (hname : IsIdentifier name.toList)
include hname

theorem notMem_emptyFunction {c : Char} (hc : isWord c = false)
    (hother : c ∉ [' ', '(', ')', '\x7b', '\x7d']) : c ∉ (emptyFunction name).toList := by
  rw [toList_emptyFunction]
  simp only [List.mem_cons, List.not_mem_nil, or_false, not_or] at hother
  exact notMem_typedHeading isIdentifier_void hname hc (by simp [hother]) (by simp [hother])

/-- The declaration takes the comment lines above it, and nothing but its symbol is left. -/
theorem Scan.scanLine_emptyFunction (hkeyword : isKeyword name.toList = false)
    (docs : List (List Char)) (line : Nat) :
    Scan.scanLine { docs := docs } line (emptyFunction name).toList =
      Scan.within [{ plainFunction name with
        documentation := Scan.documentation { docs := docs }, line := line }] 0 := by
  rw [toList_emptyFunction]
  exact scanLine_withoutParameters hname hkeyword (by decide) docs line

end EmptyFunction

/-- A text of comment lines, of the function below them and of what follows it. -/
def documented (above : List (List Char)) (name : String) (after : List Char) : String :=
  String.ofList (unlines above ++ ((emptyFunction name).toList ++ after))

section Documented

variable {name : String} (hname : IsIdentifier name.toList) (hkeyword : isKeyword name.toList = false)
  {above : List (List Char)} {after : List Char}
  (hafter : FollowsLine after)
include hname hafter

theorem lines_documented (habove : ∀ raw ∈ above, '\n' ∉ raw) :
    lines (documented above name after).toList =
      above.map dropReturn ++ (emptyFunction name).toList :: lines (nextLines after) := by
  have hne : (emptyFunction name).toList ≠ [] := by
    rw [toList_emptyFunction]
    exact List.append_ne_nil_of_right_ne_nil _ (List.cons_ne_nil _ _)
  rw [documented, String.toList_ofList, lines_unlines_append habove,
    lines_append_of_followsLine hne (notMem_emptyFunction hname (by decide) (by decide))
      (notMem_emptyFunction hname (by decide) (by decide)) hafter]

include hkeyword

/-- The lines above a function reach its symbol only through the comment lines that they leave. -/
theorem declarations_documented (habove : ∀ raw ∈ above, '\n' ∉ raw) {docs : List (List Char)}
    (hdocs : Scan.scanLines {} 0 (above.map dropReturn) = { docs := docs }) :
    declarations (documented above name after) =
      { plainFunction name with
          documentation := Scan.documentation { docs := docs }, line := above.length } ::
        (declarations (String.ofList (nextLines after))).map
          (Symbol.moveDown (above.length + 1)) := by
  generalize hsymbol : ({ plainFunction name with
    documentation := Scan.documentation { docs := docs }, line := above.length } : Symbol) = symbol
  have hfound : Scan.within [symbol] 0 = Scan.above [symbol] {} := rfl
  have hkinds : ∀ x ∈ [symbol], x.kind ≠ .methodmap := by
    rw [← hsymbol]
    simp [plainFunction]
  rw [declarations, lines_documented hname hafter habove, Scan.scanLines_append, hdocs,
    Scan.scanLines, List.length_map, Nat.zero_add, Scan.scanLine_emptyFunction hname hkeyword,
    hsymbol, hfound, Scan.scanLines_above hkinds, Scan.above, Scan.found_scanLines_add,
    List.reverse_append, declarations, String.toList_ofList, List.map_reverse]
  rfl

end Documented

theorem documentation_docText {ls : List (List Char)} (hne : ls ≠ []) (hls : ∀ l ∈ ls, IsDocLine l) :
    Scan.documentation { docs := ls.map trim } = some (String.ofList (docText ls)) := by
  have hvisible : ∀ l ∈ ls.map trim, l ≠ [] ∧ IsTrimmed l := by
    rw [List.forall_mem_map]
    exact fun l hl => ⟨fun hnil => (hls l hl).visible (trim_eq_nil_iff.mp hnil), isTrimmed_trim l⟩
  have htrim : trim (docText ls) = docText ls := (isTrimmed_intercalate hvisible).trim_eq
  have hdoc : docText ls ≠ [] := by
    obtain ⟨l, ls, rfl⟩ := List.exists_cons_of_ne_nil hne
    exact intercalate_ne_nil (hvisible _ List.mem_cons_self).1 _
  rw [Scan.documentation]
  change nonempty? (trim (docText ls)) = _
  rw [htrim, nonempty?, if_neg (by simpa using hdoc)]

theorem scanLines_comment {ls above : List (List Char)} (hls : ∀ l ∈ ls, IsDocLine l)
    (habove : above ∈ [blockComment ls, lineComments ls]) :
    (∀ raw ∈ above, '\n' ∉ raw) ∧
      Scan.scanLines {} 0 (above.map dropReturn) = { docs := ls.map trim } := by
  have hinner : ∀ sign : List Char, '\n' ∉ sign → ∀ raw ∈ ls.map (sign ++ ·), '\n' ∉ raw := by
    intro sign hsign
    rw [List.forall_mem_map]
    intro l hl hmem
    rcases List.mem_append.mp hmem with h | h
    · exact hsign h
    · exact (hls l hl).inner h
  rw [List.mem_cons, List.mem_singleton] at habove
  rcases habove with rfl | rfl
  · refine ⟨?_, Scan.scanLines_blockComment hls⟩
    simp only [blockComment, List.forall_mem_cons, List.forall_mem_append]
    exact ⟨by decide, hinner _ (by decide), by decide, by simp⟩
  · exact ⟨hinner _ (by decide), Scan.scanLines_lineComments hls [] 0⟩

/-- A block comment and line comments with the same lines give a function below them the same
documentation. With a blank line in between they give it none. -/
theorem declarations_below_documentation {ls : List (List Char)} (hne : ls ≠ [])
    (hls : ∀ l ∈ ls, IsDocLine l) {name : String} (hname : IsIdentifier name.toList)
    (hkeyword : isKeyword name.toList = false) {after : List Char} (hafter : FollowsLine after) :
    ∀ above ∈ [blockComment ls, lineComments ls],
      declarations (documented above name after) =
          { plainFunction name with
              documentation := some (String.ofList (docText ls)), line := above.length } ::
            (declarations (String.ofList (nextLines after))).map
              (Symbol.moveDown (above.length + 1)) ∧
        ∀ blank, IsBlankLine blank →
          declarations (documented (above ++ [blank.toList]) name after) =
            { plainFunction name with line := above.length + 1 } ::
              (declarations (String.ofList (nextLines after))).map
                (Symbol.moveDown (above.length + 2)) := by
  intro above habove
  obtain ⟨hbreaks, hscan⟩ := scanLines_comment hls habove
  refine ⟨?_, fun blank hblank => ?_⟩
  · rw [declarations_documented hname hkeyword hafter hbreaks hscan, documentation_docText hne hls]
  · have hbelow : ∀ raw ∈ above ++ [blank.toList], '\n' ∉ raw := by
      rw [List.forall_mem_append, List.forall_mem_singleton]
      exact ⟨hbreaks, hblank.2⟩
    have hnone : Scan.scanLines {} 0 ((above ++ [blank.toList]).map dropReturn) =
        { docs := [] } := by
      rw [List.map_append, Scan.scanLines_append, hscan, List.map_singleton, Scan.scanLines,
        Scan.scanLine_blank (isBlank_dropReturn hblank.1)]
      rfl
    rw [declarations_documented hname hkeyword hafter hbelow hnone, List.length_append,
      List.length_singleton]
    rfl

/-- Lines that look like signs of comments themselves. -/
def signLines : List (List Char) :=
  ["* starred", "/// three slashes ", "/* no end", "\t// indented", "**"].map String.toList

theorem declarations_below_signLines :
    (∀ l ∈ signLines, IsDocLine l) ∧
      declarations (documented (blockComment signLines) "Foo" "\nint g_Next;".toList) =
        [{ plainFunction "Foo" with
            documentation :=
              some "* starred\n/// three slashes\n/* no end\n// indented\n**", line := 7 },
          { name := "g_Next", kind := .variable, line := 8 }] ∧
      declarations (documented (lineComments signLines ++ [[' ', '\t']]) "Foo"
          "\nint g_Next;".toList) =
        [{ plainFunction "Foo" with line := 6 },
          { name := "g_Next", kind := .variable, line := 7 }] := by
  have hls : ∀ l ∈ signLines, IsDocLine l := by decide +kernel
  have hafter : FollowsLine "\nint g_Next;".toList := Or.inr (Or.inl ⟨_, rfl⟩)
  have hname : IsIdentifier "Foo".toList := by decide
  have hboth := declarations_below_documentation (by decide) hls hname (by decide) hafter
  refine ⟨hls, ?_, ?_⟩
  · exact (hboth _ List.mem_cons_self).1.trans (by decide +kernel)
  · have hblank := (hboth _ (List.mem_cons_of_mem _ List.mem_cons_self)).2 " \t" (by decide)
    exact hblank.trans (by decide +kernel)

end PawnScope.Source
