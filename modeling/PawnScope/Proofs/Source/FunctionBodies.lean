import PawnScope.Proofs.Source.PlainLines
import Mathlib.Data.List.Infix

/-! # Bodies of functions

Nothing is declared inside braces that no block of declarations has opened. So the body of a
function leaves no trace, whatever its lines look like, and a text below it is read as if it stood
alone. -/

namespace PawnScope.Source

open Text

namespace Scan

/-! ## Symbols found before

What a scan has found changes what it finds next only through constructors, which sign the methodmap
that was found last. Below symbols of other kinds it finds the same. -/

/-- The same state with older symbols below those that were found. -/
def above (older : List Symbol) (s : Scan) : Scan := { s with found := s.found ++ older }

theorem signMethodmap_append {older : List Symbol} (hkinds : ∀ x ∈ older, x.kind ≠ .methodmap)
    (name : String) (signature : Signature) (doc : Option String) (found : List Symbol) :
    signMethodmap name signature doc (found ++ older) =
      signMethodmap name signature doc found ++ older := by
  induction found with
  | cons x found ih =>
      simp only [List.cons_append, signMethodmap, ih]
      split
      · rfl
      · rfl
  | nil =>
      simp only [List.nil_append, signMethodmap]
      induction older with
      | nil => rfl
      | cons x older ih =>
          rw [List.forall_mem_cons] at hkinds
          simp [signMethodmap, hkinds.1, ih hkinds.2]

theorem addTo_append {older : List Symbol} (hkinds : ∀ x ∈ older, x.kind ≠ .methodmap)
    (found : List Symbol) (f : Finding) : addTo (found ++ older) f = addTo found f ++ older := by
  cases f with
  | symbol x => rfl
  | header h =>
      simp only [addTo_header, signMethodmap_append hkinds]
      cases parameterList? h.text with
      | none => rfl
      | some list =>
          simp only
          split
          · rfl
          · rfl

theorem take_above {older : List Symbol} (hkinds : ∀ x ∈ older, x.kind ≠ .methodmap) (s : Scan)
    (f : Finding) : (s.above older).take f = (s.take f).above older := by
  simp only [take_eq, above, addTo_append hkinds]

theorem relabel_append (s : Scan) (older : List Symbol) :
    s.relabel (· ++ older) id = s.above older := by
  rw [relabel, Option.map_id]
  rfl

/-- Older symbols below, with all else as it is. -/
def withOlder (older : List Symbol) (hkinds : ∀ x ∈ older, x.kind ≠ .methodmap) : Relabelling where
  symbols := (· ++ older)
  header := id
  finding := id
  number := id
  number_succ _ := rfl
  finding_continued _ _ := rfl
  linesSeen_header _ := rfl
  take_relabel s f := by
    rw [relabel_append, relabel_append]
    exact take_above hkinds s f
  declared_relabel s line raw code doc := by
    rw [List.map_id]
    rfl

theorem scanLines_above {older : List Symbol} (hkinds : ∀ x ∈ older, x.kind ≠ .methodmap)
    (s : Scan) (line : Nat) (ls : List (List Char)) :
    (s.above older).scanLines line ls = (s.scanLines line ls).above older := by
  rw [← relabel_append, ← relabel_append]
  exact (withOlder older hkinds).scanLines_apply s line ls

/-! ## Lines inside braces -/

/-- Braces that are never closed before they are opened are counted exactly. -/
theorem foldl_braceDepth {s : List Char} {depth : Nat}
    (h : ∀ front, front <+: s → front.count '\x7d' ≤ front.count '\x7b' + depth) :
    s.foldl braceDepth depth + s.count '\x7d' = depth + s.count '\x7b' := by
  induction s generalizing depth with
  | nil => rfl
  | cons c s ih =>
      have hcons : ∀ front, front <+: s →
          (c :: front).count '\x7d' ≤ (c :: front).count '\x7b' + depth :=
        fun front hfront => h _ ((List.prefix_cons_inj c).mpr hfront)
      rw [List.foldl_cons, braceDepth]
      by_cases hopen : c = '\x7b'
      · subst hopen
        have hnext : s.foldl braceDepth (depth + 1) + s.count '\x7d' =
            depth + 1 + s.count '\x7b' := by
          apply ih
          intro front hfront
          have hle := hcons front hfront
          simp only [List.count_cons_self, List.count_cons_of_ne (by decide : '\x7b' ≠ '\x7d')] at hle
          omega
        simp only [if_true, List.count_cons_self,
          List.count_cons_of_ne (by decide : '\x7b' ≠ '\x7d')]
        omega
      · by_cases hclose : c = '\x7d'
        · subst hclose
          have hpos := hcons [] s.nil_prefix
          simp only [List.count_cons_self, List.count_cons_of_ne (by decide : '\x7d' ≠ '\x7b'),
            List.count_nil] at hpos
          have hnext : s.foldl braceDepth (depth - 1) + s.count '\x7d' =
              depth - 1 + s.count '\x7b' := by
            apply ih
            intro front hfront
            have hle := hcons front hfront
            simp only [List.count_cons_self,
              List.count_cons_of_ne (by decide : '\x7d' ≠ '\x7b')] at hle
            omega
          simp only [if_neg hopen, if_true, List.count_cons_self,
            List.count_cons_of_ne (by decide : '\x7d' ≠ '\x7b')]
          omega
        · have hnext : s.foldl braceDepth depth + s.count '\x7d' = depth + s.count '\x7b' := by
            apply ih
            intro front hfront
            have hle := hcons front hfront
            rwa [List.count_cons_of_ne hopen, List.count_cons_of_ne hclose] at hle
          rw [if_neg hopen, if_neg hclose, List.count_cons_of_ne hopen,
            List.count_cons_of_ne hclose, hnext]

/-- A plain line inside braces is followed for its braces only. -/
theorem scanLine_within (found : List Symbol) (depth line : Nat) {raw : List Char}
    (hraw : IsPlain raw) :
    (within found (depth + 1)).scanLine line raw =
      within found (raw.foldl braceDepth (depth + 1)) := by
  have hcode : (within found (depth + 1)).declarationLine line raw raw =
      within found (depth + 1) := rfl
  rw [scanLine_of_isPlain rfl rfl hraw, hcode, trackBraces_within]
  by_cases hblank : isBlank raw = true
  · have hsame := foldl_braceDepth_of_notMem (notMem_of_isBlank hblank (by decide))
      (notMem_of_isBlank hblank (by decide)) (depth + 1)
    simp only [hblank, if_true, hsame]
    rfl
  · simp only [hblank]
    rfl

theorem foldl_braceDepth_dropReturn (s : List Char) (depth : Nat) :
    (dropReturn s).foldl braceDepth depth = s.foldl braceDepth depth := by
  obtain ⟨tail, hs, rfl | rfl⟩ := exists_dropReturn_append s
  · rw [List.append_nil] at hs
    rw [← hs]
  · rw [hs, List.foldl_append, ← hs]
    rfl

/-- Lines that never close the brace in which they stand are followed for their braces only. -/
theorem scanLines_within (found : List Symbol) {body : List (List Char)}
    (hplain : ∀ raw ∈ body, IsPlain raw) {depth : Nat}
    (h : ∀ front, front <+: body.flatten → front.count '\x7d' ≤ front.count '\x7b' + depth)
    (line : Nat) :
    (within found (depth + 1)).scanLines line (body.map dropReturn) =
      within found (depth + 1 + body.flatten.count '\x7b' - body.flatten.count '\x7d') := by
  induction body generalizing depth line with
  | nil => rfl
  | cons raw rest ih =>
      rw [List.forall_mem_cons] at hplain
      have hreturn : IsPlain (dropReturn raw) := by
        obtain ⟨tail, hs, -⟩ := exists_dropReturn_append raw
        rw [hs, isPlain_append] at hplain
        exact hplain.1.1
      rw [List.flatten_cons] at h
      have hraw := h raw (List.prefix_append raw _)
      have hcount : raw.foldl braceDepth (depth + 1) + raw.count '\x7d' =
          depth + 1 + raw.count '\x7b' := by
        apply foldl_braceDepth
        intro front hfront
        have hle := h front (hfront.trans (List.prefix_append raw _))
        omega
      -- The line ends inside the brace again, so that the next line starts there.
      obtain ⟨depth', hdepth'⟩ : ∃ depth', raw.foldl braceDepth (depth + 1) = depth' + 1 :=
        ⟨depth + raw.count '\x7b' - raw.count '\x7d', by omega⟩
      have hrest : ∀ front, front <+: rest.flatten →
          front.count '\x7d' ≤ front.count '\x7b' + depth' := by
        intro front hfront
        have hle := h (raw ++ front) ((List.prefix_append_right_inj raw).mpr hfront)
        rw [List.count_append, List.count_append] at hle
        omega
      rw [List.map_cons, scanLines, scanLine_within found depth line hreturn,
        foldl_braceDepth_dropReturn, hdepth', ih hplain.2 hrest, List.flatten_cons,
        List.count_append, List.count_append]
      congr 1
      omega

end Scan

/-! ## Functions with a body -/

/-- Read inside a brace, the text never closes it, and closes all that it opens. -/
def KeepsDepth (s : List Char) : Prop :=
  (∀ front, front <+: s → front.count '\x7d' ≤ front.count '\x7b') ∧ s.count '\x7d' = s.count '\x7b'

instance (s : List Char) : Decidable (KeepsDepth s) :=
  decidable_of_iff
    ((∀ front ∈ s.inits, front.count '\x7d' ≤ front.count '\x7b') ∧
      s.count '\x7d' = s.count '\x7b')
    (by simp only [KeepsDepth, List.mem_inits])

/-- The line that starts a function without parameters. -/
def heading (name : String) : String := "void " ++ name ++ "()"

/-- The symbol of a function without parameters that starts on the first line. -/
def plainFunction (name : String) : Symbol where
  name := name
  kind := .function
  signature := some ⟨[], some "void"⟩

theorem toList_heading (name : String) :
    (heading name).toList = typedHeading "void".toList name.toList [')'] := by
  simp [heading, typedHeading]

theorem isIdentifier_void : IsIdentifier "void".toList := by decide

theorem notMem_heading {name : String} (hname : IsIdentifier name.toList) {c : Char}
    (hc : isWord c = false) (hother : c ∉ [' ', '(', ')']) : c ∉ (heading name).toList := by
  rw [List.mem_cons, List.mem_cons, not_or, not_or] at hother
  rw [toList_heading]
  exact notMem_typedHeading isIdentifier_void hname hc (by simp [hother]) hother.2.2

/-- A function without parameters is declared on its line, and the rest of the line is followed for
its braces. -/
theorem scanLine_withoutParameters {name : String} (hname : IsIdentifier name.toList)
    (hkeyword : isKeyword name.toList = false) {rest : List Char} (hrest : IsPlain rest)
    (docs : List (List Char)) (line : Nat) :
    Scan.scanLine { docs := docs } line (typedHeading "void".toList name.toList (')' :: rest)) =
      Scan.within [{ plainFunction name with
        documentation := Scan.documentation { docs := docs }, line := line }]
        (rest.foldl Scan.braceDepth 0) := by
  have htype : isKeyword "void".toList = false := by decide
  have happend : typedHeading "void".toList name.toList (')' :: rest) = (heading name).toList ++ rest := by
    simp [toList_heading, typedHeading]
  have hplain : IsPlain (typedHeading "void".toList name.toList (')' :: rest)) := by
    rw [happend, isPlain_append]
    exact ⟨⟨notMem_heading hname (by decide) (by decide), notMem_heading hname (by decide) (by decide),
      notMem_heading hname (by decide) (by decide)⟩, hrest⟩
  have hline : IsFunctionLine (typedHeading "void".toList name.toList (')' :: rest)) false
      ⟨some "void".toList, name.toList, '(' :: ')' :: rest⟩ :=
    ⟨function?_typedHeading isIdentifier_void htype hname _,
      isDeclared_typed isIdentifier_void htype hkeyword false, rfl⟩
  have htake : ∀ doc, Scan.take {} (.header (Scan.headerOf ⟨some "void".toList, name.toList,
      '(' :: ')' :: rest⟩ line .function none doc)) =
        Scan.within [{ plainFunction name with documentation := doc, line := line }] 0 := by
    intro doc
    have hlist : parameterList? ('(' :: ')' :: rest) = some [] := rfl
    have hnone : parameters [] = [] := rfl
    simp [Scan.take, Scan.hold, Scan.headerOf, hlist, Scan.finish, hnone, Scan.push, plainFunction,
      Scan.within]
  have hstart : ({ ({ docs := docs } : Scan) with docs := [] }) = ({} : Scan) := rfl
  rw [Scan.scanLine_of_isFunctionLine rfl rfl rfl rfl rfl hplain hline, hstart, htake,
    Scan.trackBraces_within, happend, List.foldl_append,
    Scan.foldl_braceDepth_of_notMem (notMem_heading hname (by decide) (by decide))
      (notMem_heading hname (by decide) (by decide))]

theorem scanLine_heading {name : String} (hname : IsIdentifier name.toList)
    (hkeyword : isKeyword name.toList = false) :
    Scan.scanLine {} 0 (heading name).toList = Scan.within [plainFunction name] 0 := by
  rw [toList_heading]
  exact scanLine_withoutParameters hname hkeyword (by decide) [] 0

/-- A line outside blocks that starts with a brace declares nothing. -/
theorem topLevel_brace {code rest : List Char} (h : trimStart code = '\x7b' :: rest) (line : Nat)
    (doc : Option String) : topLevel line code code doc = (none, none) := by
  have hfunction : function? code = none := by
    rw [function?_eq, h, modifiers_of_none rfl]
    rfl
  have hglobal : global? code = none := by
    rw [global?, h, modifiers_of_none rfl]
    rfl
  have hcallable : callableOrGlobal? line code doc = none := by
    simp [callableOrGlobal?, hfunction, hglobal]
  have hdefine : define? code = none := by simp [define?, mark?, h]
  have hmethodmap : methodmap? code = none := by
    rw [methodmap?, h]
    rfl
  have henum : enum? code = none := by
    rw [enum?, h]
    rfl
  have htypedef : typedef? code = none := by
    rw [typedef?, h]
    rfl
  simp [topLevel, hdefine, h, hmethodmap, henum, htypedef, hcallable]

theorem scanLine_brace (found : List Symbol) (line : Nat) :
    Scan.scanLine (Scan.within found 0) line ['\x7b'] = Scan.within found 1 := by
  have hblank : ¬isBlank ['\x7b'] = true := by decide
  have hdeclared : ∀ doc, Scan.declared (Scan.within found 0) line ['\x7b'] ['\x7b'] doc =
      ([], none) := by
    intro doc
    have htop : topLevel line ['\x7b'] ['\x7b'] doc = (none, none) := topLevel_brace rfl line doc
    simp [Scan.declared, Scan.within, Scan.topLevelFindings, htop]
  have hline : Scan.declarationLine (Scan.within found 0) line ['\x7b'] ['\x7b'] =
      Scan.within found 0 := by
    rw [Scan.declarationLine_eq, hdeclared]
    rfl
  rw [Scan.scanLine_of_isPlain rfl rfl (by decide), hline, Scan.trackBraces_within]
  simp only [hblank]
  rfl

/-- The lines of a function with its body. -/
def linesWithBody (name : String) (body : List (List Char)) : List (List Char) :=
  (heading name).toList :: ['\x7b'] :: (body ++ [['\x7d']])

/-- After the body, nothing is left but the symbol of the function. -/
theorem scanLines_linesWithBody {name : String} (hname : IsIdentifier name.toList)
    (hkeyword : isKeyword name.toList = false) {body : List (List Char)}
    (hplain : ∀ raw ∈ body, IsPlain raw) (hdepth : KeepsDepth body.flatten) :
    Scan.scanLines {} 0 (linesWithBody name (body.map dropReturn)) =
      Scan.within [plainFunction name] 0 := by
  have hinside : Scan.scanLines (Scan.within [plainFunction name] 1) 2 (body.map dropReturn) =
      Scan.within [plainFunction name] 1 := by
    rw [Scan.scanLines_within [plainFunction name] hplain hdepth.1, hdepth.2]
    simp
  rw [linesWithBody, Scan.scanLines, scanLine_heading hname hkeyword, Scan.scanLines,
    scanLine_brace, Scan.scanLines_append, hinside, Scan.scanLines,
    Scan.scanLine_within _ 0 _ (by decide)]
  rfl

/-- A function without parameters, its body on lines of their own, and the text below it. -/
def withBody (name : String) (body : List (List Char)) (text : String) : String :=
  String.ofList (unlines (linesWithBody name body)) ++ text

theorem lines_withBody {name : String} (hname : IsIdentifier name.toList)
    {body : List (List Char)} (hbody : ∀ raw ∈ body, '\n' ∉ raw) (text : String) :
    lines (withBody name body text).toList =
      linesWithBody name (body.map dropReturn) ++ lines text.toList := by
  have hbreaks : ∀ raw ∈ linesWithBody name body, '\n' ∉ raw := by
    simp only [linesWithBody, List.forall_mem_cons, List.forall_mem_append]
    exact ⟨notMem_heading hname (by decide) (by decide), by decide, hbody, by decide, by simp⟩
  have hreturn : dropReturn (heading name).toList = (heading name).toList :=
    dropReturn_of_notMem (notMem_heading hname (by decide) (by decide))
  have htext : (withBody name body text).toList =
      unlines (linesWithBody name body) ++ text.toList := by
    simp [withBody]
  rw [htext, lines_unlines_append hbreaks, linesWithBody, List.map_cons, List.map_cons,
    List.map_append, hreturn]
  rfl

/-- The body of a function leaves no trace: what follows is read as if it stood alone, further
down. -/
theorem declarations_withBody {name : String} (hname : IsIdentifier name.toList)
    (hkeyword : isKeyword name.toList = false) {body : List (List Char)}
    (hbody : ∀ raw ∈ body, '\n' ∉ raw ∧ IsPlain raw) (hdepth : KeepsDepth body.flatten)
    (text : String) :
    declarations (withBody name body text) =
      plainFunction name :: (declarations text).map (Symbol.moveDown (body.length + 3)) := by
  have hlength : (linesWithBody name (body.map dropReturn)).length = body.length + 3 := by
    simp [linesWithBody]
  have habove : Scan.within [plainFunction name] 0 = Scan.above [plainFunction name] {} := rfl
  have hkinds : ∀ x ∈ [plainFunction name], x.kind ≠ .methodmap := by simp [plainFunction]
  rw [declarations, lines_withBody hname fun raw hraw => (hbody raw hraw).1,
    Scan.scanLines_append, hlength,
    scanLines_linesWithBody hname hkeyword (fun raw hraw => (hbody raw hraw).2) hdepth, habove,
    Scan.scanLines_above hkinds, Nat.zero_add, Scan.above, Scan.found_scanLines_add,
    List.reverse_append, declarations, List.map_reverse]
  rfl

/-- A body with lines that declare something where they stand outside braces. -/
def nestedBody : List (List Char) :=
  ["    int local = 3;", "    if (local > 0) \x7b", "stock void Inner(int x)", "\x7b",
    "\x7d enum Team \x7b Red,", "Blue \x7d; #define LIMIT 3", "\x7d"].map String.toList

theorem declarations_withBody_nested :
    KeepsDepth nestedBody.flatten ∧
      declarations (withBody "Foo" nestedBody "// Next.\nint g_Next;\n") =
        plainFunction "Foo" ::
          (declarations "// Next.\nint g_Next;\n").map (Symbol.moveDown 10) := by
  have hdepth : KeepsDepth nestedBody.flatten := by decide +kernel
  exact ⟨hdepth, declarations_withBody (by decide) (by decide) (by decide +kernel) hdepth _⟩

end PawnScope.Source
