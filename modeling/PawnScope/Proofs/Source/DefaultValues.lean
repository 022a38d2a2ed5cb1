import PawnScope.Proofs.Source.Directives
import PawnScope.Proofs.Source.Rendering

/-! # Default values

A default is read from the code of its line, in which the contents of literals are blank and from
which block comments are gone. So it is kept as it is written exactly if its literals hold nothing
but blanks. The start of a comment inside a literal is taken for a comment, and what is left of the
line then has too few characters for the default. -/

namespace PawnScope.Source

open Text

/-! ## Parts of an expression -/

/-- A part of an expression: a character of code, or a literal with its quote and its content. -/
inductive Part where
  | code (c : Char)
  | literal (quote : Char) (content : List Char)

/-- Whether a literal may have the content: a backslash hides the character after it, and no quote
that is not hidden comes before the end. -/
def isContent (quote : Char) : List Char → Bool
  | [] => true
  | ['\\'] => false
  | '\\' :: _ :: s => isContent quote s
  | c :: s => c != quote && isContent quote s

namespace Part

/-- The part as it is written. -/
def text : Part → List Char
  | code c => [c]
  | literal quote content => quote :: (content ++ [quote])

/-- The part with a blank content. -/
def outline : Part → List Char
  | code c => [c]
  | literal quote content => quote :: (List.replicate content.length ' ' ++ [quote])

def IsWritten : Part → Prop
  | code c => isQuote c = false ∧ c ≠ '\n'
  | literal quote content =>
      isQuote quote = true ∧ isContent quote content = true ∧ '\n' ∉ content

/-- A literal, if it is one, holds nothing but blanks. -/
def IsVoid : Part → Prop
  | code _ => True
  | literal _ content => ∀ c ∈ content, c = ' '

theorem outline_eq_text_iff {p : Part} : p.outline = p.text ↔ p.IsVoid := by
  cases p with
  | code c => simp [outline, text, IsVoid]
  | literal quote content =>
      rw [outline, text, List.cons_inj_right, List.append_left_inj, eq_comm, List.eq_replicate_iff]
      simp [IsVoid]

theorem length_outline (p : Part) : p.outline.length = p.text.length := by
  cases p with
  | code c => rfl
  | literal quote content => simp [outline, text]

end Part

/-- The expression as it is written. -/
def textOf (ps : List Part) : List Char := ps.flatMap Part.text

/-- The expression with blank literals. -/
def outlineOf (ps : List Part) : List Char := ps.flatMap Part.outline

theorem outlineOf_eq_textOf_iff {ps : List Part} :
    outlineOf ps = textOf ps ↔ ∀ p ∈ ps, p.IsVoid := by
  induction ps with
  | nil => simp [outlineOf, textOf]
  | cons p ps ih =>
      rw [List.forall_mem_cons, ← ih, ← Part.outline_eq_text_iff, outlineOf, textOf,
        List.flatMap_cons, List.flatMap_cons]
      exact ⟨fun h => List.append_inj h p.length_outline, fun ⟨hp, hps⟩ => by rw [hp]; exact congrArg _ hps⟩

theorem head?_textOf_append (ps : List Part) (s : List Char) :
    (textOf ps ++ s).head? = (outlineOf ps ++ s).head? := by
  cases ps with
  | nil => rfl
  | cons p ps =>
      cases p with
      | code c => rfl
      | literal quote content => rfl

theorem getLast?_textOf (ps : List Part) : (textOf ps).getLast? = (outlineOf ps).getLast? := by
  cases ps using List.reverseRecOn with
  | nil => rfl
  | append_singleton ps p =>
      rw [textOf, outlineOf, List.flatMap_append, List.flatMap_append, List.flatMap_singleton,
        List.flatMap_singleton]
      cases p with
      | code c => simp [Part.text, Part.outline]
      | literal quote content => simp [Part.text, Part.outline, List.getLast?_append, List.getLast?_cons]

/-- An expression as a default: its literals are complete, it has no comments, its brackets are
balanced, commas stand in brackets or literals only, and no white space is around it. -/
structure IsExpression (ps : List Part) : Prop where
  written : ∀ p ∈ ps, p.IsWritten
  trimmed : IsTrimmed (textOf ps)
  noLineComment : ¬['/', '/'] <:+: outlineOf ps
  noBlockComment : ¬['/', '*'] <:+: outlineOf ps
  balanced : IsBalanced (outlineOf ps)
  commas : Encloses ',' 0 (outlineOf ps)

/-! ## The code of an expression -/

theorem blankLiterals_quote {quote : Char} (hquote : isQuote quote = true) (s : List Char) :
    blankLiterals (some quote) (quote :: s) = quote :: blankLiterals none s := by
  rw [isQuote, Bool.or_eq_true, beq_iff_eq, beq_iff_eq] at hquote
  rcases hquote with rfl | rfl
  · simp [blankLiterals]
  · simp [blankLiterals]

theorem blankLiterals_content {quote : Char} (hquote : isQuote quote = true) {content : List Char}
    (h : isContent quote content = true) (s : List Char) :
    blankLiterals (some quote) (content ++ quote :: s) =
      List.replicate content.length ' ' ++ quote :: blankLiterals none s := by
  fun_induction isContent quote content with
  | case1 => exact blankLiterals_quote hquote s
  | case2 => cases h
  | case3 _ rest ih => simp [blankLiterals, ih h, List.replicate_succ]
  | case4 c rest hlast hmore ih =>
      rw [Bool.and_eq_true, bne_iff_ne] at h
      have hslash : c ≠ '\\' := by
        rintro rfl
        cases rest with
        | nil => exact hlast rfl rfl
        | cons d rest => exact hmore d rest rfl rfl
      rw [List.cons_append, blankLiterals.eq_def]
      simp [hslash, h.1, ih h.2, List.replicate_succ]

/-- Plain code is left as it is, whatever follows. -/
theorem blankLiterals_append {s : List Char} (hs : IsPlain s) (t : List Char) :
    blankLiterals none (s ++ t) = s ++ blankLiterals none t := by
  have hquote := hs.isQuote_eq_false
  have hslash := hs.2.2
  induction s with
  | nil => rfl
  | cons c s ih =>
      rw [List.mem_cons, not_or] at hslash
      rw [← List.singleton_append, isPlain_append] at hs
      rw [List.forall_mem_cons] at hquote
      simp [blankLiterals, hquote.1, Ne.symm hslash.1, ih hs.2 hquote.2 hslash.2]

/-- The code of an expression is its outline. -/
theorem blankLiterals_textOf {ps : List Part} (hps : ∀ p ∈ ps, p.IsWritten)
    (hcomment : ¬['/', '/'] <:+: outlineOf ps) {s : List Char} (hs : s.head? ≠ some '/') :
    blankLiterals none (textOf ps ++ s) = outlineOf ps ++ blankLiterals none s := by
  induction ps with
  | nil => rfl
  | cons p ps ih =>
      rw [List.forall_mem_cons] at hps
      have hrest : ¬['/', '/'] <:+: outlineOf ps := fun h =>
        hcomment (h.trans (List.suffix_append p.outline (outlineOf ps)).isInfix)
      have htext : textOf (p :: ps) ++ s = p.text ++ (textOf ps ++ s) := by simp [textOf]
      have houtline : outlineOf (p :: ps) = p.outline ++ outlineOf ps := by simp [outlineOf]
      rw [htext, houtline, List.append_assoc, ← ih hps.2 hrest]
      cases p with
      | literal quote content =>
          obtain ⟨hquote, hcontent, -⟩ := hps.1
          have hcons : (Part.literal quote content).text ++ (textOf ps ++ s) =
              quote :: (content ++ quote :: (textOf ps ++ s)) := by simp [Part.text]
          rw [hcons, blankLiterals, if_pos hquote, blankLiterals_content hquote hcontent]
          simp [Part.outline]
      | code c =>
          have hslashes : ¬(c = '/' ∧ (textOf ps ++ s).head? = some '/') := by
            rintro ⟨rfl, hhead⟩
            rw [head?_textOf_append] at hhead
            cases hps' : outlineOf ps with
            | nil =>
                rw [hps', List.nil_append] at hhead
                exact hs hhead
            | cons d rest =>
                rw [hps'] at hhead
                obtain rfl : d = '/' := Option.some.inj hhead
                rw [houtline, hps'] at hcomment
                exact hcomment ⟨[], rest, rfl⟩
          have hcons : (Part.code c).text ++ (textOf ps ++ s) = c :: (textOf ps ++ s) := rfl
          rw [hcons, blankLiterals, if_neg (by simp [hps.1.1]), if_neg hslashes]
          rfl

/-! ## Characters that are no white space -/

/-- The number of characters that can be seen. -/
def ink (s : List Char) : Nat := s.countP (!isSpace ·)

@[simp] theorem ink_append (s t : List Char) : ink (s ++ t) = ink s + ink t := List.countP_append

theorem ink_cons (c : Char) (s : List Char) :
    ink (c :: s) = ink s + if isSpace c = true then 0 else 1 := by
  by_cases h : isSpace c = true
  · simp [ink, h]
  · simp [ink, h]

theorem ink_of_isBlank {s : List Char} (h : isBlank s = true) : ink s = 0 := by
  rw [ink, List.countP_eq_zero]
  intro c hc
  simp [List.all_eq_true.mp h c hc]

theorem ink_trim (s : List Char) : ink (trim s) = ink s := by
  obtain ⟨a, b, ha, hb, hs⟩ := exists_trim s
  have hink := congrArg ink hs
  rw [ink_append, ink_append, ink_of_isBlank ha, ink_of_isBlank hb] at hink
  omega

theorem ink_le_of_sublist {s t : List Char} (h : s.Sublist t) : ink s ≤ ink t := h.countP_le

theorem ink_blank_cons (s : List Char) : ink (' ' :: s) = ink s := ink_cons ' ' s

theorem ink_blankLiterals_le (quote : Option Char) (s : List Char) :
    ink (blankLiterals quote s) ≤ ink s :=
  Scan.countP_blankLiterals_le rfl quote s

/-- A text is divided behind a front that does not hold the element. -/
theorem exists_append_of_notMem {α : Type} {x : α} {front rest f k : List α}
    (h : front ++ rest = f ++ x :: k) (hx : x ∉ front) :
    ∃ f', f = front ++ f' ∧ rest = f' ++ x :: k := by
  rcases List.append_eq_append_iff.mp h with ⟨f', rfl, hrest⟩ | ⟨g, hfront, hrest⟩
  · exact ⟨f', rfl, hrest⟩
  · cases g with
    | nil => exact ⟨[], by simpa using hfront.symm, by simpa using hrest.symm⟩
    | cons c g =>
        obtain rfl := (List.cons.inj hrest).1
        exact absurd (hfront ▸ by simp) hx

/-- The start of a line that holds neither literals nor slashes stays. What follows it loses the two
signs of a comment, if it has one. -/
theorem exists_codeOf_append {front : List Char} (hfront : IsPlain front) (rest : List Char) :
    ∃ code, (codeOf false (front ++ rest)).1 = front ++ code ∧
      (['/', '*'] <:+: rest → ink code + 2 ≤ ink rest) := by
  cases hcut : cutAt '/' '*' (front ++ rest) with
  | none =>
      refine ⟨blankLiterals none rest, ?_, ?_⟩
      · rw [codeOf, stripBlocks_of_cutAt_eq_none hcut]
        exact blankLiterals_append hfront rest
      · rintro ⟨f, k, rfl⟩
        exact absurd (by simp) (cutAt_eq_none_iff.mp hcut (front ++ f) k)
  | some cut =>
      obtain ⟨f, k⟩ := cut
      -- The comment starts behind the front, which has no slash.
      obtain ⟨f, rfl, rfl⟩ := exists_append_of_notMem (eq_of_cutAt hcut) hfront.2.2
      have hsublist := stripBlocks_sublist true k
      refine ⟨blankLiterals none (f ++ (stripBlocks true k).1), ?_, fun _ => ?_⟩
      · have hcode : (codeOf false (front ++ (f ++ '/' :: '*' :: k))).1 =
            blankLiterals none (front ++ f ++ (stripBlocks true k).1) := by
          rw [codeOf, ← stripBlocks_of_cutAt hcut]
        rw [hcode, List.append_assoc]
        exact blankLiterals_append hfront _
      · have hle := ink_blankLiterals_le none (f ++ (stripBlocks true k).1)
        have hvisible := ink_le_of_sublist hsublist
        have hsigns : ink ('/' :: '*' :: k) = ink k + 2 := by simp [ink_cons, isSpace]
        rw [ink_append] at hle
        rw [ink_append, hsigns]
        omega

/-! ## The list of one parameter -/

/-- Where a list is closed there is a closing sign. -/
theorem exists_of_untilClosed {depth : Nat} {s list : List Char} (h : untilClosed depth s = some list) :
    ∃ c rest, isClosing c = true ∧ s = list ++ c :: rest := by
  fun_induction untilClosed depth s generalizing list with
  | case1 depth => cases h
  | case2 depth c s hopening ih =>
      obtain ⟨inner, hinner, rfl⟩ := Option.map_eq_some_iff.mp h
      obtain ⟨d, rest, hd, rfl⟩ := ih hinner
      exact ⟨d, rest, hd, rfl⟩
  | case3 depth c s hopening hclosing hdepth =>
      cases h
      exact ⟨c, s, hclosing, rfl⟩
  | case4 depth c s hopening hclosing hdepth ih =>
      obtain ⟨inner, hinner, rfl⟩ := Option.map_eq_some_iff.mp h
      obtain ⟨d, rest, hd, rfl⟩ := ih hinner
      exact ⟨d, rest, hd, rfl⟩
  | case5 depth c s hopening hclosing ih =>
      obtain ⟨inner, hinner, rfl⟩ := Option.map_eq_some_iff.mp h
      obtain ⟨d, rest, hd, rfl⟩ := ih hinner
      exact ⟨d, rest, hd, rfl⟩

/-- What follows a trimmed text is trimmed at its end only. -/
theorem exists_trim_append {s : List Char} (hs : IsTrimmed s) (hne : s ≠ []) (t : List Char) :
    ∃ back, trim (s ++ t) = s ++ back ∧ trim back = trim t := by
  obtain ⟨a, b, ha, hb, ht⟩ := exists_trim t
  by_cases hblank : trim t = []
  · refine ⟨[], ?_, hblank.symm⟩
    rw [trim_append_blank s (trim_eq_nil_iff.mp hblank), hs.trim_eq, List.append_nil]
  · refine ⟨a ++ trim t, ?_, ?_⟩
    · have hbetween := hs.between hne (isTrimmed_trim t) hblank a
      have hend := trim_append_blank (s ++ (a ++ trim t)) hb
      rw [hbetween.trim_eq, List.append_assoc, List.append_assoc, ← ht] at hend
      exact hend
    · rw [trim_blank_append ha, (isTrimmed_trim t).trim_eq]

theorem encloses_of_signsOf_eq_nil {x : Char} (hx : x ∈ signs) {s : List Char}
    (h : signsOf s = []) : Encloses x 0 s := by
  rw [← encloses_signsOf hx, h]
  trivial

theorem rise_of_signsOf_eq_nil {s : List Char} (h : signsOf s = []) : rise s = 0 := by
  rw [← rise_signsOf, h, rise_nil]

/-- A type and a name, and the blank after them. -/
def declaration (type name : List Char) : List Char := type ++ ' ' :: (name ++ [' '])

section Parameter

variable {type name : List Char} (htype : IsIdentifier type) (hname : IsIdentifier name)
include htype hname

theorem signsOf_declaration : signsOf (declaration type name) = [] := by
  have hblank : ' ' ∉ signs := by decide
  rw [declaration, signsOf_append, signsOf_of_isIdentifier htype, signsOf_cons_of_notMem hblank,
    signsOf_append, signsOf_of_isIdentifier hname, signsOf_cons_of_notMem hblank]
  rfl

theorem parts?_of_isIdentifier :
    parts? (type ++ ' ' :: name) = some (type, name) := by
  have hdots : beforeDots? (type ++ ' ' :: name) = none := by
    rw [Option.eq_none_iff_forall_ne_some]
    intro front hfront
    obtain ⟨c, hc, hword⟩ := hname.exists_getLast
    have hlast := congrArg List.getLast? (beforeDots?_eq_some_iff.mp hfront)
    rw [List.getLast?_append, List.getLast?_cons, hc, List.getLast?_append] at hlast
    obtain rfl : c = '.' := by simpa using hlast
    exact absurd hword (by decide)
  have hbreak : '\n' ∉ type ++ [' '] := by simpa using htype.notMem (by decide)
  have hcut : cutName (type ++ [' '] ++ name) = some (type ++ [' '], name, []) :=
    cutName_append hbreak (by simp [isWord]) hname
  have htrim : trim (type ++ [' ']) = type :=
    (trim_append_blank type rfl).trans (isTrimmed_of_forall htype.isSpace).trim_eq
  have happend : type ++ ' ' :: name = type ++ [' '] ++ name := by simp
  rw [parts?, hdots, happend, hcut]
  simp [htrim]

/-- A parameter with a default. -/
theorem parameter?_default (value : List Char) :
    parameter? (declaration type name ++ '=' :: value) =
      some (parameterOf type name (some (String.ofList (trim value)))) := by
  have htypeTrimmed : IsTrimmed type := isTrimmed_of_forall htype.isSpace
  have hnameTrimmed : IsTrimmed name := isTrimmed_of_forall hname.isSpace
  have hsign : IsTrimmed ['='] := isTrimmed_of_forall (by simp [isSpace])
  have hfront : IsTrimmed (declaration type name ++ ['=']) := by
    have hbetween := htypeTrimmed.between htype.ne_nil hsign (by decide) (' ' :: (name ++ [' ']))
    rwa [← List.append_assoc] at hbetween
  obtain ⟨back, hback, htrim⟩ := exists_trim_append hfront (by simp) value
  have hwhole : trim (declaration type name ++ '=' :: value) =
      declaration type name ++ '=' :: back := by simpa using hback
  have hdecl : trim (declaration type name) = type ++ ' ' :: name := by
    have hbetween := htypeTrimmed.between htype.ne_nil hnameTrimmed hname.ne_nil [' ']
    have hend := trim_append_blank (type ++ ([' '] ++ name)) (b := [' ']) rfl
    rw [hbetween.trim_eq, List.append_assoc] at hend
    exact hend
  have hsigns := signsOf_declaration htype hname
  have hcut : cutDefault 0 (declaration type name ++ '=' :: back) =
      some (declaration type name, back) :=
    cutDefault_append (encloses_of_signsOf_eq_nil (by decide) hsigns)
      (by rw [rise_of_signsOf_eq_nil hsigns]; rfl) back
  rw [parameter?_of_trim_eq hwhole (by simp), hcut]
  simp only
  rw [hdecl, htrim, declared?_eq, parts?_of_isIdentifier htype hname]
  rfl

theorem encloses_declaration {value : List Char} :
    Encloses ',' 0 (declaration type name ++ '=' :: value) ↔ Encloses ',' 0 value := by
  have hsign : '=' ∈ signs := by decide
  have hnesting : nesting '=' = 0 := rfl
  rw [← encloses_signsOf (by decide), signsOf_append, signsOf_declaration htype hname,
    List.nil_append, signsOf_cons_of_mem hsign, Encloses, hnesting, Int.add_zero,
    encloses_signsOf (by decide)]
  simp

theorem rise_declaration (value : List Char) :
    rise (declaration type name ++ '=' :: value) = rise value := by
  have hnesting : nesting '=' = 0 := rfl
  rw [rise_append, rise_of_signsOf_eq_nil (signsOf_declaration htype hname), rise_cons, hnesting,
    Int.zero_add, Int.zero_add]

/-- The first parameter of a list has a default from the text after the equals sign, all of it if no
comma divides it. -/
theorem exists_parameters_default (value : List Char) :
    ∃ first more, first <+: value ∧
      parameters (declaration type name ++ '=' :: value) =
        parameterOf type name (some (String.ofList (trim first))) :: more ∧
      (Encloses ',' 0 value → first = value ∧ more = []) := by
  rcases encloses_or_exists ',' 0 value with hvalue | ⟨first, back, rfl, hfirst, hrise⟩
  · refine ⟨value, [], List.prefix_rfl, ?_, fun _ => ⟨rfl, rfl⟩⟩
    rw [parameters, splitCommas_of_encloses ((encloses_declaration htype hname).mpr hvalue)]
    simp [parameter?_default htype hname]
  · refine ⟨first, (splitCommas 0 back).filterMap parameter?, List.prefix_append _ _, ?_, ?_⟩
    · have hlist : declaration type name ++ '=' :: (first ++ ',' :: back) =
          declaration type name ++ '=' :: first ++ ',' :: back := by simp
      have hrise' : 0 + rise (declaration type name ++ '=' :: first) = 0 := by
        rw [rise_declaration htype hname]
        exact hrise
      rw [parameters, hlist,
        splitCommas_append ((encloses_declaration htype hname).mpr hfirst) hrise',
        List.filterMap_cons, parameter?_default htype hname]
    · intro hvalue
      have hsplit := splitCommas_append hfirst hrise back
      rw [splitCommas_of_encloses hvalue] at hsplit
      have hlength := congrArg List.length (List.cons.inj hsplit).1
      rw [List.length_append, List.length_cons] at hlength
      omega

end Parameter

/-! ## The line -/

/-- The heading of a stock function, from its parenthesis on followed by the given text. -/
def stockLine (name inner : List Char) : List Char :=
  "stock".toList ++ ' ' :: typedHeading "void".toList name inner

/-- The symbol of such a function. -/
def stockFunction (name : List Char) (ps : List Parameter) : Symbol where
  name := String.ofList name
  kind := .function
  signature := some ⟨ps, some "void"⟩

theorem head?_trim {c : Char} (hc : isSpace c = false) (s : List Char) :
    (trim (c :: s)).head? = some c := by
  obtain ⟨back, hback, -⟩ := exists_trim_append (isTrimmed_of_forall (List.forall_mem_singleton.mpr hc))
    (List.cons_ne_nil c []) s
  rw [List.singleton_append] at hback
  rw [hback]
  rfl

/-- Only the reader of `#define` looks at the line as it is written. -/
theorem topLevel_eq_of_define? {raw code : List Char} (hraw : define? raw = none)
    (hcode : define? code = none) (line : Nat) (doc : Option String) :
    topLevel line raw code doc = topLevel line code code doc := by
  simp only [topLevel, hraw, hcode]

section StockLine

variable {name : List Char} (hname : IsIdentifier name) (hkeyword : isKeyword name = false)
  {written inner : List Char} (hcode : (codeOf false (stockLine name written)).1 = stockLine name inner)
include hname hkeyword hcode

/-- The line gives the header of a function, cut from its code. -/
theorem findings_stockLine :
    Scan.findings {} 0 (stockLine name written) =
      [.header (Scan.headerOf ⟨some "void".toList, name, '(' :: inner⟩ 0 .function none none)] := by
  have hheading : IsFunctionLine (stockLine name inner) true
      ⟨some "void".toList, name, '(' :: inner⟩ :=
    isFunctionLine_stock (by decide) (by decide) hname hkeyword inner
  have hhead : (trim (stockLine name written)).head? = some 's' := head?_trim (by decide) _
  have hcollect : Scan.collectDoc {} (stockLine name written) = ({}, false) :=
    Scan.collectDoc_of_head? rfl (by simp [hhead])
  have htop : topLevel 0 (stockLine name written) (stockLine name inner) none =
      (some (.header (Scan.headerOf ⟨some "void".toList, name, '(' :: inner⟩ 0 .function none none)),
        none) :=
    (topLevel_eq_of_define? rfl rfl 0 none).trans (hheading.topLevel_eq 0 none)
  have hdeclared : Scan.declared {} 0 (stockLine name written) (stockLine name inner) none =
      ([.header (Scan.headerOf ⟨some "void".toList, name, '(' :: inner⟩ 0 .function none none)],
        none) := by
    simp [Scan.declared, Scan.topLevelFindings, htop]
  have hblank : isBlank (stockLine name inner) = false := rfl
  have hdoc : Scan.documentation {} = none := rfl
  simp only [Scan.findings, hcollect, hcode, hblank, hdoc, hdeclared, Bool.false_eq_true, if_false]

/-- The function that is declared on one line is read from its code. -/
theorem declarations_stockLine (hbreak : '\n' ∉ stockLine name written) :
    declarations (String.ofList (stockLine name written)) =
      ((parameterList? ('(' :: inner)).map fun list => stockFunction name (parameters list)).toList := by
  have hlines : lines (stockLine name written) = [stockLine name written] := by
    rw [lines_of_notMem hbreak]
    rfl
  rw [declarations, String.toList_ofList, hlines, Scan.found_scanLines, Scan.trace,
    findings_stockLine hname hkeyword hcode]
  simp only [Scan.trace, List.append_nil, List.foldl_cons, List.foldl_nil, Scan.addTo_header]
  have htext : (Scan.headerOf ⟨some "void".toList, name, '(' :: inner⟩ 0 .function none none).text =
      '(' :: inner := rfl
  rw [htext]
  cases parameterList? ('(' :: inner) with
  | none => rfl
  | some list => rfl

end StockLine

/-- The text declares one function and nothing else, and its one parameter has the given default. -/
def HasDefault (text : String) (value : List Char) : Prop :=
  ∃ x signature p, declarations text = [x] ∧ x.kind = .function ∧ x.signature = some signature ∧
    signature.parameters = [p] ∧ p.default = some (String.ofList value)

/-- A function that is read has the default of its one parameter and no other. -/
theorem hasDefault_iff {text : String} {name type parameter value default : List Char}
    (h : declarations text =
      [stockFunction name [parameterOf type parameter (some (String.ofList default))]]) :
    HasDefault text value ↔ default = value := by
  constructor
  · rintro ⟨x, signature, p, hx, -, hsignature, hp, hdefault⟩
    rw [h] at hx
    obtain rfl := (List.cons.inj hx).1
    obtain rfl := Option.some.inj hsignature
    obtain rfl := (List.cons.inj hp).1
    exact String.ofList_injective (Option.some.inj hdefault)
  · rintro rfl
    exact ⟨_, _, _, h, rfl, rfl, rfl, rfl⟩

/-- What comes before a default. -/
def beforeDefault (type parameter : List Char) : List Char := declaration type parameter ++ ['=', ' ']

/-- A stock function with one parameter that has a default. -/
def defaultLine (name type parameter value : List Char) : List Char :=
  stockLine name (beforeDefault type parameter ++ (value ++ [')', ';']))

theorem stockLine_append (name front back : List Char) :
    stockLine name (front ++ back) = stockLine name front ++ back := by
  have hheading : typedHeading "void".toList name (front ++ back) =
      typedHeading "void".toList name front ++ back := by simp [typedHeading]
  have hassoc := List.append_assoc "stock".toList (' ' :: typedHeading "void".toList name front) back
  exact (congrArg ("stock".toList ++ ' ' :: ·) hheading).trans hassoc.symm

section Line

variable {name type parameter : List Char} (hname : IsIdentifier name)
  (hkeyword : isKeyword name = false) (htype : IsIdentifier type)
  (hparameter : IsIdentifier parameter)

include htype hparameter in
theorem notMem_beforeDefault {c : Char} (hc : isWord c = false) (hother : c ∉ [' ', '=']) :
    c ∉ beforeDefault type parameter := by
  rw [List.mem_cons, List.mem_singleton, not_or] at hother
  simp only [beforeDefault, declaration, List.mem_append, List.mem_cons, List.not_mem_nil, or_false,
    not_or]
  exact ⟨⟨htype.notMem hc, hother.1, hparameter.notMem hc, hother.1⟩, hother.2, hother.1⟩

include hname htype hparameter in
theorem notMem_stockLine {c : Char} (hc : isWord c = false) (hother : c ∉ [' ', '=', '(']) :
    c ∉ stockLine name (beforeDefault type parameter) := by
  simp only [List.mem_cons, List.not_mem_nil, or_false, not_or] at hother
  exact notMem_stockHeading (by decide) hname hc (by simp [hother])
    (notMem_beforeDefault htype hparameter hc (by simp [hother]))

include hname htype hparameter in
theorem isPlain_stockLine : IsPlain (stockLine name (beforeDefault type parameter)) :=
  ⟨notMem_stockLine hname htype hparameter (by decide) (by decide),
    notMem_stockLine hname htype hparameter (by decide) (by decide),
    notMem_stockLine hname htype hparameter (by decide) (by decide)⟩

include hname hkeyword in
/-- The default is one of the parameters up to a closing sign. -/
theorem exists_untilClosed_of_hasDefault {written inner value : List Char}
    (hcode : (codeOf false (stockLine name written)).1 = stockLine name inner)
    (hbreak : '\n' ∉ stockLine name written)
    (h : HasDefault (String.ofList (stockLine name written)) value) :
    ∃ list p, untilClosed 1 inner = some list ∧ parameters list = [p] ∧
      p.default = some (String.ofList value) := by
  obtain ⟨x, signature, p, hx, -, hsignature, hp, hdefault⟩ := h
  rw [declarations_stockLine hname hkeyword hcode hbreak] at hx
  cases hlist : parameterList? ('(' :: inner) with
  | none =>
      rw [hlist] at hx
      cases hx
  | some list =>
      rw [hlist] at hx
      obtain rfl : stockFunction name (parameters list) = x := (List.cons.inj hx).1
      obtain rfl : ⟨parameters list, some "void"⟩ = signature := Option.some.inj hsignature
      exact ⟨list, p, hlist, hp, hdefault⟩

include hname hkeyword htype hparameter in
/-- What is read as a default is followed by a closing sign, so that it shows less than the code. -/
theorem ink_lt_of_hasDefault {rest code value : List Char}
    (hbreak : '\n' ∉ stockLine name (beforeDefault type parameter ++ rest))
    (hcode : (codeOf false (stockLine name (beforeDefault type parameter ++ rest))).1 =
      stockLine name (beforeDefault type parameter ++ code))
    (h : HasDefault (String.ofList (stockLine name (beforeDefault type parameter ++ rest))) value) :
    ink value < ink code := by
  obtain ⟨list, p, huntil, hp, hdefault⟩ :=
    exists_untilClosed_of_hasDefault hname hkeyword hcode hbreak h
  obtain ⟨c, more, hc, hclosed⟩ := exists_of_untilClosed huntil
  have hcloses : c ∈ [')', '\x7d', ']'] := by
    simpa [isClosing, or_assoc] using hc
  have hclosing : ∀ c ∈ [')', '\x7d', ']'],
      isWord c = false ∧ c ∉ [' ', '='] ∧ isSpace c = false := by simp [isWord, isSpace]
  obtain ⟨hword, hother, hspace⟩ := hclosing c hcloses
  obtain ⟨inner, rfl, rfl⟩ := exists_append_of_notMem hclosed
    (notMem_beforeDefault htype hparameter hword hother)
  obtain ⟨first, others, hfirst, hparameters, -⟩ :=
    exists_parameters_default htype hparameter (' ' :: inner)
  have hlistText : beforeDefault type parameter ++ inner =
      declaration type parameter ++ '=' :: ' ' :: inner := by simp [beforeDefault]
  rw [hlistText, hparameters] at hp
  obtain rfl := (List.cons.inj hp).1
  have hvalue : trim first = value := String.ofList_injective (Option.some.inj hdefault)
  have hle := ink_le_of_sublist hfirst.sublist
  have hcount : ink (inner ++ c :: more) = ink inner + (ink more + 1) := by
    rw [ink_append, ink_cons, hspace]
    rfl
  rw [ink_blank_cons] at hle
  rw [← hvalue, ink_trim, hcount]
  omega

end Line

/-! ## Defaults of an expression -/

theorem isInfix_of_front_notMem {front rest : List Char} (h : ['/', '*'] <:+: front ++ rest)
    (hfront : '/' ∉ front) : ['/', '*'] <:+: rest := by
  obtain ⟨f, k, hsigns⟩ := h
  obtain ⟨f', -, hrest⟩ := exists_append_of_notMem (x := '/') (k := '*' :: k)
    (by simpa using hsigns.symm) hfront
  exact ⟨f', k, by simp [hrest]⟩

theorem isInfix_of_back_notMem {s back : List Char} (h : ['/', '*'] <:+: s ++ back)
    (hback : '*' ∉ back) : ['/', '*'] <:+: s := by
  obtain ⟨f, k, hsigns⟩ := h
  have hreverse : back.reverse ++ s.reverse = k.reverse ++ '*' :: ('/' :: f.reverse) := by
    have h := congrArg List.reverse hsigns.symm
    simpa using h
  obtain ⟨k', -, hs⟩ := exists_append_of_notMem hreverse (by simpa using hback)
  refine ⟨f, k'.reverse, ?_⟩
  have h := congrArg List.reverse hs
  simpa using h.symm

/-- The code of an expression between plain texts. -/
theorem codeOf_expression {front back : List Char} (hfront : IsPlain front) (hback : IsPlain back)
    (hstar : '*' ∉ back) {ps : List Part} (hps : IsExpression ps)
    (hcomment : ¬['/', '*'] <:+: textOf ps) :
    (codeOf false (front ++ (textOf ps ++ back))).1 = front ++ (outlineOf ps ++ back) := by
  have hcut : cutAt '/' '*' (front ++ (textOf ps ++ back)) = none := by
    rw [cutAt_eq_none_iff]
    intro f k heq
    have hsigns : ['/', '*'] <:+: front ++ (textOf ps ++ back) := ⟨f, k, by simp [heq]⟩
    exact hcomment (isInfix_of_back_notMem (isInfix_of_front_notMem hsigns hfront.2.2) hstar)
  have hslash : back.head? ≠ some '/' := fun h => hback.2.2 (List.mem_of_mem_head? h)
  rw [codeOf, stripBlocks_of_cutAt_eq_none hcut]
  simp only
  rw [blankLiterals_append hfront, blankLiterals_textOf hps.written hps.noLineComment hslash,
    Scan.blankLiterals_eq_self hback.isQuote_eq_false hback.2.2]

theorem isTrimmed_outlineOf {ps : List Part} (h : IsTrimmed (textOf ps)) :
    IsTrimmed (outlineOf ps) := by
  have hhead := head?_textOf_append ps []
  rw [List.append_nil, List.append_nil] at hhead
  exact ⟨hhead ▸ h.head, getLast?_textOf ps ▸ h.last⟩

theorem isBalanced_of_signsOf_eq_nil {s : List Char} (h : signsOf s = []) : IsBalanced s := by
  rw [isBalanced_iff, ← staysAbove_signsOf, ← rise_signsOf, h]
  exact ⟨Int.le_refl 0, rfl⟩

section Defaults

variable {ps : List Part} (hps : IsExpression ps) {before after : List Char}
  (hbefore : isBlank before = true ∧ '\n' ∉ before) (hafter : isBlank after = true ∧ '\n' ∉ after)
  {name type parameter : List Char} (hname : IsIdentifier name) (hkeyword : isKeyword name = false)
  (htype : IsIdentifier type) (hparameter : IsIdentifier parameter)

include hps in
theorem lineFeed_notMem_textOf : '\n' ∉ textOf ps := by
  rw [textOf, List.mem_flatMap]
  rintro ⟨p, hp, hmem⟩
  have hwritten := hps.written p hp
  cases p with
  | code c => exact hwritten.2 (List.mem_singleton.mp hmem).symm
  | literal quote content =>
      obtain ⟨hquote, -, hbreak⟩ := hwritten
      have hne : '\n' ≠ quote := by
        rintro rfl
        exact absurd hquote (by decide)
      simp [Part.text, hne, hbreak] at hmem

include hps hbefore hafter hname htype hparameter in
theorem lineFeed_notMem_defaultLine :
    '\n' ∉ defaultLine name type parameter (before ++ (textOf ps ++ after)) := by
  rw [defaultLine, stockLine_append]
  simp only [List.mem_append, not_or]
  exact ⟨notMem_stockLine hname htype hparameter (by decide) (by decide),
    ⟨hbefore.2, lineFeed_notMem_textOf hps, hafter.2⟩, by decide⟩

include hps hbefore hafter htype hparameter in
/-- The list with the outline of a default is balanced, and no comma divides it. -/
theorem parameters_outline :
    IsBalanced (beforeDefault type parameter ++ (before ++ (outlineOf ps ++ after))) ∧
      parameters (beforeDefault type parameter ++ (before ++ (outlineOf ps ++ after))) =
        [parameterOf type parameter (some (String.ofList (outlineOf ps)))] := by
  have hbeforeSigns := signsOf_of_isBlank hbefore.1
  have hafterSigns := signsOf_of_isBlank hafter.1
  have hequals : IsBalanced ['=', ' '] := by decide
  have hdeclaration := isBalanced_of_signsOf_eq_nil (signsOf_declaration htype hparameter)
  refine ⟨?_, ?_⟩
  · exact (hdeclaration.append hequals).append
      ((isBalanced_of_signsOf_eq_nil hbeforeSigns).append
        (hps.balanced.append (isBalanced_of_signsOf_eq_nil hafterSigns)))
  · have hcommas : Encloses ',' 0 (' ' :: (before ++ (outlineOf ps ++ after))) := by
      have hblank : ' ' ∉ signs := by decide
      rw [← encloses_signsOf (by decide), signsOf_cons_of_notMem hblank, signsOf_append,
        signsOf_append, hbeforeSigns, hafterSigns, List.nil_append, List.append_nil,
        encloses_signsOf (by decide)]
      exact hps.commas
    obtain ⟨first, more, -, hparameters, hwhole⟩ := exists_parameters_default htype hparameter
      (' ' :: (before ++ (outlineOf ps ++ after)))
    obtain ⟨rfl, rfl⟩ := hwhole hcommas
    have htrim : trim (' ' :: (before ++ (outlineOf ps ++ after))) = outlineOf ps := by
      have hblank : isBlank (' ' :: before) = true := by
        rw [isBlank, List.all_cons, Bool.and_eq_true]
        exact ⟨rfl, hbefore.1⟩
      exact trim_append hblank (isTrimmed_outlineOf hps.trimmed) hafter.1
    rw [htrim] at hparameters
    rw [← hparameters]
    simp [beforeDefault]

include hps hbefore hafter hname hkeyword htype hparameter

/-- A default without the sign of a comment in a literal is read as its outline. -/
theorem declarations_defaultLine_of_not_isInfix (hcomment : ¬['/', '*'] <:+: textOf ps) :
    declarations (String.ofList (defaultLine name type parameter (before ++ (textOf ps ++ after)))) =
      [stockFunction name [parameterOf type parameter (some (String.ofList (outlineOf ps)))]] := by
  have hfront : IsPlain (stockLine name (beforeDefault type parameter) ++ before) :=
    isPlain_append.mpr ⟨isPlain_stockLine hname htype hparameter, isPlain_of_isBlank hbefore.1⟩
  have hback : IsPlain (after ++ [')', ';']) :=
    isPlain_append.mpr ⟨isPlain_of_isBlank hafter.1, by decide⟩
  have hstar : '*' ∉ after ++ [')', ';'] := by
    simpa using notMem_of_isBlank hafter.1 (by decide)
  have hcode : (codeOf false
      (stockLine name (beforeDefault type parameter ++ (before ++ (textOf ps ++ after) ++ [')', ';'])))).1 =
      stockLine name (beforeDefault type parameter ++ (before ++ (outlineOf ps ++ after)) ++
        ')' :: [';']) := by
    have h := codeOf_expression hfront hback hstar hps hcomment
    simp only [List.append_assoc] at h
    simpa [stockLine_append] using h
  obtain ⟨hbalanced, hparameters⟩ := parameters_outline hps hbefore hafter htype hparameter
  rw [defaultLine, declarations_stockLine hname hkeyword hcode
      (lineFeed_notMem_defaultLine hps hbefore hafter hname htype hparameter),
    parameterList?_of_isBalanced hbalanced [';'], Option.map_some, hparameters]
  rfl

/-- With the sign of a comment in a literal the line shows too little for the default. -/
theorem not_hasDefault_of_isInfix (hcomment : ['/', '*'] <:+: textOf ps) :
    ¬HasDefault (String.ofList (defaultLine name type parameter (before ++ (textOf ps ++ after))))
      (textOf ps) := by
  intro hread
  have hbreak := lineFeed_notMem_defaultLine hps hbefore hafter hname htype hparameter
  obtain ⟨code, hcode, hink⟩ := exists_codeOf_append (isPlain_stockLine hname htype hparameter)
    (before ++ (textOf ps ++ after) ++ [')', ';'])
  rw [← stockLine_append, ← stockLine_append] at hcode
  have hlt := ink_lt_of_hasDefault hname hkeyword htype hparameter hbreak hcode hread
  have hsigns : ['/', '*'] <:+: before ++ (textOf ps ++ after) ++ [')', ';'] := by
    obtain ⟨f, k, hps⟩ := hcomment
    exact ⟨before ++ f, k ++ after ++ [')', ';'], by simp [← hps]⟩
  have hclosing : ink [')', ';'] = 2 := by decide
  have hcount := hink hsigns
  rw [ink_append, ink_append, ink_append, ink_of_isBlank hbefore.1, ink_of_isBlank hafter.1,
    hclosing] at hcount
  omega

/-- A default is kept as it is written exactly if its literals hold nothing but blanks. -/
theorem hasDefault_defaultLine_iff :
    (¬['/', '*'] <:+: textOf ps →
        declarations
            (String.ofList (defaultLine name type parameter (before ++ (textOf ps ++ after)))) =
          [stockFunction name [parameterOf type parameter (some (String.ofList (outlineOf ps)))]]) ∧
      (HasDefault
          (String.ofList (defaultLine name type parameter (before ++ (textOf ps ++ after))))
          (trim (before ++ (textOf ps ++ after))) ↔
        ∀ p ∈ ps, p.IsVoid) := by
  have houtline :=
    declarations_defaultLine_of_not_isInfix hps hbefore hafter hname hkeyword htype hparameter
  refine ⟨houtline, ?_⟩
  rw [trim_append hbefore.1 hps.trimmed hafter.1, ← outlineOf_eq_textOf_iff]
  constructor
  · intro hread
    by_cases hcomment : ['/', '*'] <:+: textOf ps
    · exact absurd hread
        (not_hasDefault_of_isInfix hps hbefore hafter hname hkeyword htype hparameter hcomment)
    · exact (hasDefault_iff (houtline hcomment)).mp hread
  · intro hvoid
    exact (hasDefault_iff (houtline (hvoid ▸ hps.noBlockComment))).mpr hvoid

end Defaults

instance : DecidablePred Part.IsWritten := fun p =>
  match p with
  | .code c => inferInstanceAs (Decidable (isQuote c = false ∧ c ≠ '\n'))
  | .literal quote content => inferInstanceAs (Decidable
      (isQuote quote = true ∧ isContent quote content = true ∧ '\n' ∉ content))

/-- The expression `f("  ", {1})`. -/
def callParts : List Part :=
  ['f', '('].map .code ++ .literal '"' [' ', ' '] :: [',', ' ', '\x7b', '1', '\x7d', ')'].map .code

theorem isExpression_callParts : IsExpression callParts where
  written := by decide
  trimmed := ⟨by simp [callParts, textOf, Part.text, isSpace],
    by simp [callParts, textOf, Part.text, isSpace]⟩
  noLineComment := by decide
  noBlockComment := by decide
  balanced := by decide
  commas := by simp [callParts, outlineOf, Part.outline, Encloses, nesting, isOpening, isClosing]

theorem hasDefault_defaultLine_call :
    String.ofList (defaultLine "F".toList "T".toList "p".toList
        (" ".toList ++ (textOf callParts ++ "\t".toList))) =
      "stock void F(T p =  f(\"  \", \x7b1\x7d)\t);" ∧
    HasDefault
      (String.ofList (defaultLine "F".toList "T".toList "p".toList
        (" ".toList ++ (textOf callParts ++ "\t".toList))))
      (trim (" ".toList ++ (textOf callParts ++ "\t".toList))) := by
  have hvoid : ∀ p ∈ callParts, p.IsVoid := by simp [callParts, Part.IsVoid]
  exact ⟨by decide +kernel, (hasDefault_defaultLine_iff isExpression_callParts (by decide) (by decide)
    (by decide) (by decide) (by decide) (by decide)).2.mpr hvoid⟩

/-- The letter of the literal is lost, and a literal with the sign of a comment costs the
declaration. -/
theorem literals_lost_from_defaults :
    declarations "stock void F(T p = \"a\");" =
        [stockFunction ['F'] [parameterOf ['T'] ['p'] (some "\" \"")]] ∧
      ¬HasDefault "stock void F(T p = \"a\");" "\"a\"".toList ∧
      declarations "stock void F(T p = \"lib/*.inc\");" = [] := by
  have hread : declarations "stock void F(T p = \"a\");" =
      [stockFunction ['F'] [parameterOf ['T'] ['p'] (some (String.ofList "\" \"".toList))]] := by
    decide +kernel
  exact ⟨hread, mt (hasDefault_iff hread).mp (by decide), by decide +kernel⟩

end PawnScope.Source
