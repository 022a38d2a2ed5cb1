import PawnScope.Source.Scan
import Mathlib.Data.List.TakeWhile

/-! # What lines give to a scan

All that the symbols of a scan depend on is what the lines give to it, one after the other: symbols,
and headers of callables. The findings of a line say this apart from the rest of the state, so that
a line that declares something is read in three steps: its findings are taken, the block that it
starts is entered or awaited, and its braces are followed. The symbols of a text can be found again
from the trace of its scan, which is the list of all findings. -/

namespace PawnScope.Source

open Text

/-- What a line gives to a scan: a symbol, or a header that it starts or goes on with. -/
inductive Finding where
  | symbol (symbol : Symbol)
  | header (header : Header)

/-! ## Members of blocks -/

def methodmapMember? (map : String) (line : Nat) (code : List Char) (doc : Option String) :
    Option Finding :=
  match property? code with
  | some name =>
      some (.symbol { name := String.ofList name, kind := .property, documentation := doc
                      parent := some map, line := line })
  | none =>
      (method? code).map fun c =>
        if String.ofList c.name = map then .header (Scan.headerOf c line .methodmap none doc)
        else .header (Scan.headerOf c line .method (some map) doc)

def enumStructMember? (owner : String) (line : Nat) (code : List Char) (doc : Option String) :
    Option Finding :=
  match field? code with
  | some (type, name) =>
      if isKeyword type then none
      else
        some (.symbol { name := String.ofList name, kind := .property, documentation := doc
                        parent := some owner, line := line })
  | none =>
      (structMethod? code).bind fun c =>
        if (c.returnType.map isKeyword).getD false || isKeyword c.name then none
        else some (.header (Scan.headerOf c line .method (some owner) doc))

/-- The entries of an enumeration among some parts of a line; the first takes the documentation. -/
def entries (owner : Option String) (line : Nat) : Option String → List (List Char) → List Finding
  | _, [] => []
  | doc, part :: rest =>
      match enumEntry? part with
      | some name =>
          .symbol { name := String.ofList name, kind := .enumMember, documentation := doc
                    parent := owner, line := line } :: entries owner line none rest
      | none => entries owner line doc rest

/-- The members of a block that a line of its body declares. -/
def BlockKind.members (kind : BlockKind) (line : Nat) (code : List Char) (doc : Option String) :
    List Finding :=
  match kind with
  | .methodmap map => (methodmapMember? map line code doc).toList
  | .enumStruct owner => (enumStructMember? owner line code doc).toList
  | .enum owner => entries owner line doc ((code.takeWhile (· != '\x7d')).splitOn ',')

/-- The members on the line that starts a block, after the opening brace. -/
def BlockKind.firstMembers (kind : BlockKind) (line : Nat) (code : List Char) : List Finding :=
  match code.dropWhile (· != '\x7b') with
  | [] => []
  | _ :: rest => if isBlank rest then [] else kind.members line rest none

/-! ## Lines outside blocks -/

/-- A function or, failing that, a variable. -/
def callableOrGlobal? (line : Nat) (code : List Char) (doc : Option String) : Option Finding :=
  match (function? code).filter fun (stored, c) => Scan.isDeclared stored c with
  | some (_, c) => some (.header (Scan.headerOf c line .function none doc))
  | none =>
      (global? code).bind fun g =>
        if (g.type.map isKeyword).getD false || isKeyword g.name then none
        else
          some (.symbol { name := String.ofList g.name, kind := .variable, documentation := doc
                          line := line })

/-- What a line outside blocks declares, and the block that it starts. -/
def topLevel (line : Nat) (raw code : List Char) (doc : Option String) :
    Option Finding × Option BlockKind :=
  match define? raw with
  | some name =>
      (some (.symbol { name := String.ofList name, kind := .constant, documentation := doc
                       line := line }), none)
  | none =>
      if (trimStart code).head? = some '#' then (none, none)
      else
        match methodmap? code with
        | some name =>
            (some (.symbol { name := String.ofList name, kind := .methodmap, documentation := doc
                             line := line }), some (.methodmap (String.ofList name)))
        | none =>
            match enum? code with
            | some e =>
                match e.name.map String.ofList with
                | some name =>
                    (some (.symbol { name := name, kind := .enum, documentation := doc
                                     line := line }),
                      some (if e.isStruct then .enumStruct name else .enum (some name)))
                | none => (none, some (.enum none))
            | none =>
                match typedef? code with
                | some name =>
                    (some (.symbol { name := String.ofList name, kind := .typedef
                                     documentation := doc, line := line }), none)
                | none => (callableOrGlobal? line code doc, none)

namespace Scan

/-! ## Taking findings -/

def take (s : Scan) : Finding → Scan
  | .symbol symbol => s.push symbol
  | .header header => s.hold header

def takeAll (s : Scan) (findings : List Finding) : Scan := findings.foldl take s

/-- The symbols after one more finding, the newest first. -/
def addTo (found : List Symbol) (f : Finding) : List Symbol := (take { found := found } f).found

/-- The symbol that a header becomes, unless it is a constructor. -/
def symbolOf (h : Header) (list : List Char) : Symbol where
  name := h.name
  kind := h.kind
  documentation := h.documentation
  signature := some ⟨parameters list, h.returnType⟩
  parent := h.parent
  line := h.line

theorem addTo_header (found : List Symbol) (h : Header) :
    addTo found (.header h) =
      match parameterList? h.text with
      | none => found
      | some list =>
          if h.kind = .methodmap then
            signMethodmap h.name ⟨parameters list, h.returnType⟩ h.documentation found
          else symbolOf h list :: found := by
  simp only [addTo, take, hold]
  cases parameterList? h.text with
  | none => rfl
  | some list =>
      simp only [finish]
      split
      · rfl
      · rfl

/-- The header that is open after one more finding. -/
def opened (h : Option Header) (f : Finding) : Option Header := (take { header := h } f).header

theorem opened_header (o : Option Header) (h : Header) :
    opened o (.header h) = match parameterList? h.text with
      | none => some h
      | some _ => none := by
  simp only [opened, take, hold]
  cases parameterList? h.text with
  | none => rfl
  | some list =>
      simp only [finish]
      split
      · rfl
      · rfl

theorem take_eq (s : Scan) (f : Finding) :
    s.take f = { s with found := addTo s.found f, header := opened s.header f } := by
  cases f with
  | symbol symbol => rfl
  | header h =>
      simp only [addTo, opened, take, hold]
      cases parameterList? h.text with
      | none => rfl
      | some list =>
          by_cases hkind : h.kind = .methodmap
          · simp [finish, hkind]
          · simp [finish, hkind, push]

/-- Only the symbols and the open header depend on what is taken. -/
theorem takeAll_eq (s : Scan) (fs : List Finding) :
    s.takeAll fs =
      { s with found := fs.foldl addTo s.found, header := fs.foldl opened s.header } := by
  induction fs generalizing s with
  | nil => rfl
  | cons f fs ih =>
      change (s.take f).takeAll fs = _
      rw [ih, take_eq]
      rfl

/-! ## Lines as findings -/

theorem pushEntries_eq (s : Scan) (owner : Option String) (line : Nat) (doc : Option String)
    (parts : List (List Char)) :
    s.pushEntries owner line doc parts = s.takeAll (entries owner line doc parts) := by
  induction parts generalizing s doc with
  | nil => rfl
  | cons part rest ih =>
      simp only [pushEntries, entries]
      cases enumEntry? part with
      | none => exact ih s doc
      | some name => exact ih _ none

theorem methodmapLine_eq (s : Scan) (map : String) (line : Nat) (code : List Char)
    (doc : Option String) :
    s.methodmapLine map line code doc = s.takeAll (methodmapMember? map line code doc).toList := by
  unfold methodmapLine methodmapMember?
  cases property? code with
  | some name => rfl
  | none =>
      cases method? code with
      | none => rfl
      | some c =>
          simp only [Option.map_some]
          split
          · rfl
          · rfl

theorem enumStructLine_eq (s : Scan) (owner : String) (line : Nat) (code : List Char)
    (doc : Option String) :
    s.enumStructLine owner line code doc =
      s.takeAll (enumStructMember? owner line code doc).toList := by
  unfold enumStructLine enumStructMember?
  cases field? code with
  | some field =>
      simp only
      split
      · rfl
      · rfl
  | none =>
      cases structMethod? code with
      | none => rfl
      | some c =>
          simp only [Option.bind_some]
          split
          · rfl
          · rfl

theorem blockLine_eq (s : Scan) (b : Block) (line : Nat) (code : List Char)
    (doc : Option String) :
    s.blockLine b line code doc =
      if s.depth = b.depth then s.takeAll (b.kind.members line code doc) else s := by
  unfold blockLine
  split
  · cases b.kind with
    | methodmap map => exact methodmapLine_eq s map line code doc
    | enumStruct owner => exact enumStructLine_eq s owner line code doc
    | enum owner => exact pushEntries_eq s owner line doc _
  · rfl

/-- Enters the block that a line starts, or awaits its opening brace. -/
def start (s : Scan) (code : List Char) : Option BlockKind → Scan
  | none => s
  | some kind =>
      if '\x7b' ∈ code then { s with block := some ⟨kind, s.depth + 1⟩ }
      else { s with awaited := some kind }

theorem openBlock_eq (s : Scan) (kind : BlockKind) (line : Nat) (code : List Char) :
    s.openBlock kind line code =
      (s.takeAll (kind.firstMembers line code)).start code (some kind) := by
  have hbrace : code.dropWhile (· != '\x7b') = [] ↔ '\x7b' ∉ code := by
    simp only [List.dropWhile_eq_nil_iff, bne_iff_ne, ne_eq]
    exact ⟨fun h hmem => h _ hmem rfl, fun h c hc hbrace => h (hbrace ▸ hc)⟩
  unfold openBlock BlockKind.firstMembers
  cases hrest : code.dropWhile (· != '\x7b') with
  | nil => simp [start, hbrace.mp hrest, takeAll]
  | cons c rest =>
      have hmem : '\x7b' ∈ code := by
        by_contra hmem
        simp [hbrace.mpr hmem] at hrest
      by_cases hblank : isBlank rest = true
      · simp [start, hmem, hblank, takeAll]
      · simp [start, hmem, hblank, blockLine_eq, takeAll_eq]

theorem callableOrGlobal_eq (s : Scan) (line : Nat) (code : List Char) (doc : Option String) :
    s.callableOrGlobal line code doc = s.takeAll (callableOrGlobal? line code doc).toList := by
  unfold callableOrGlobal callableOrGlobal?
  cases (function? code).filter fun (stored, c) => isDeclared stored c with
  | some c => rfl
  | none =>
      cases global? code with
      | none => rfl
      | some g =>
          simp only [Option.bind_some]
          split
          · rfl
          · rfl

/-- What a line outside blocks declares, with the members of the block that it starts. -/
def topLevelFindings (line : Nat) (raw code : List Char) (doc : Option String) : List Finding :=
  (topLevel line raw code doc).1.toList ++
    ((topLevel line raw code doc).2.map (·.firstMembers line code)).getD []

theorem topLevelLine_eq (s : Scan) (line : Nat) (raw code : List Char) (doc : Option String) :
    s.topLevelLine line raw code doc =
      (s.takeAll (topLevelFindings line raw code doc)).start code
        (topLevel line raw code doc).2 := by
  unfold topLevelLine topLevelFindings topLevel
  cases define? raw with
  | some name => rfl
  | none =>
      simp only
      split
      · rfl
      · cases methodmap? code with
        | some name => exact openBlock_eq _ _ line code
        | none =>
            cases enum? code with
            | some e =>
                simp only
                cases e.name.map String.ofList with
                | some name => exact openBlock_eq _ _ line code
                | none => exact openBlock_eq s _ line code
            | none =>
                cases typedef? code with
                | some name => rfl
                | none => simpa [start] using callableOrGlobal_eq s line code doc

/-- What a line of code declares while no header is open, and the block that it starts. -/
def declared (s : Scan) (line : Nat) (raw code : List Char) (doc : Option String) :
    List Finding × Option BlockKind :=
  match s.block with
  | some b => (if s.depth = b.depth then b.kind.members line code doc else [], none)
  | none =>
      if s.depth = 0 then (topLevelFindings line raw code doc, (topLevel line raw code doc).2)
      else ([], none)

theorem declarationLine_eq (s : Scan) (line : Nat) (raw code : List Char) :
    s.declarationLine line raw code =
      (takeAll { s with docs := [] } (s.declared line raw code s.documentation).1).start code
        (s.declared line raw code s.documentation).2 := by
  simp only [declarationLine, declared]
  cases s.block with
  | some b =>
      simp only [blockLine_eq]
      split
      · rfl
      · rfl
  | none =>
      simp only
      split
      · exact topLevelLine_eq _ line raw code _
      · rfl

/-! ## The findings of a line -/

/-- The header with one more line of code. -/
def continued (h : Header) (code : List Char) : Header :=
  { h with text := h.text ++ ' ' :: trim code, linesSeen := h.linesSeen + 1 }

/-- What a line gives to a scan, in order. -/
def findings (s : Scan) (line : Nat) (raw : List Char) : List Finding :=
  let (s, consumed) := s.collectDoc raw
  if consumed then []
  else
    let code := (codeOf s.inComment raw).1
    match s.header with
    | some h =>
        if maxHeaderLines < (continued h code).linesSeen then [] else [.header (continued h code)]
    | none => if isBlank code then [] else (s.declared line raw code s.documentation).1

/-- What a line can do to a scan, beside what it gives to it: nothing but a change of comments;
the open header is given up, or goes on; or something is declared. -/
inductive Step (s : Scan) (line : Nat) (raw : List Char) : List Finding → Scan → Prop where
  | passes (docs : List (List Char)) (inDoc inComment : Bool) :
      Step s line raw [] { s with docs := docs, inDoc := inDoc, inComment := inComment }
  | givesUp (h : Header) (code : List Char) (docs : List (List Char)) (inComment : Bool)
      (hheader : s.header = some h) :
      Step s line raw []
        (trackBraces { s with docs := docs, inComment := inComment, header := none } code)
  | goesOn (h : Header) (code : List Char) (docs : List (List Char)) (inComment : Bool)
      (hheader : s.header = some h) :
      Step s line raw [.header (continued h code)]
        ((take { s with docs := docs, inComment := inComment }
          (.header (continued h code))).trackBraces code)
  | declares (code : List Char) (doc : Option String) (inComment : Bool)
      (hheader : s.header = none) :
      Step s line raw (s.declared line raw code doc).1
        (((takeAll { s with docs := [], inComment := inComment }
          (s.declared line raw code doc).1).start code
            (s.declared line raw code doc).2).trackBraces code)

theorem pushDoc_eq (s : Scan) (text : List Char) :
    ∃ docs, s.pushDoc text = { s with docs := docs } := by
  unfold pushDoc
  simp only
  split
  · exact ⟨s.docs, rfl⟩
  · exact ⟨_, rfl⟩

theorem continueDoc_eq (s : Scan) (line : List Char) :
    ∃ docs inDoc, s.continueDoc line = { s with docs := docs, inDoc := inDoc } := by
  unfold continueDoc
  split
  · rename_i body rest hcut
    obtain ⟨docs, hdocs⟩ := s.pushDoc_eq (dropStars body)
    exact ⟨docs, false, by rw [hdocs]⟩
  · obtain ⟨docs, hdocs⟩ := s.pushDoc_eq (dropStars line)
    exact ⟨docs, s.inDoc, hdocs⟩

theorem startDoc_eq (s : Scan) (rest : List Char) :
    ∃ docs inDoc, (s.startDoc rest).1 = { s with docs := docs, inDoc := inDoc } ∧
      ((s.startDoc rest).2 = false → inDoc = s.inDoc) := by
  unfold startDoc
  simp only
  split
  · rename_i body after hcut
    obtain ⟨docs, hdocs⟩ := pushDoc_eq { s with docs := [] } body
    exact ⟨docs, s.inDoc, hdocs, fun _ => rfl⟩
  · obtain ⟨docs, hdocs⟩ := pushDoc_eq { s with docs := [] } (dropStars rest)
    refine ⟨docs, true, by rw [hdocs], ?_⟩
    intro hconsumed
    cases hconsumed

/-- Reading documentation changes nothing else, and enters or leaves a comment only where it uses up
the line. -/
theorem collectDoc_eq (s : Scan) (raw : List Char) :
    ∃ docs inDoc, (s.collectDoc raw).1 = { s with docs := docs, inDoc := inDoc } ∧
      ((s.collectDoc raw).2 = false → inDoc = s.inDoc) := by
  unfold collectDoc
  simp only
  split
  · obtain ⟨docs, inDoc, hdocs⟩ := s.continueDoc_eq (trim raw)
    refine ⟨docs, inDoc, hdocs, ?_⟩
    intro hconsumed
    cases hconsumed
  · split
    · exact ⟨s.docs, s.inDoc, rfl, fun _ => rfl⟩
    · split
      · rename_i rest hline
        obtain ⟨docs, hdocs⟩ := s.pushDoc_eq (rest.dropWhile (· == '/'))
        exact ⟨docs, s.inDoc, hdocs, fun _ => rfl⟩
      · exact s.startDoc_eq _
      · exact ⟨s.docs, s.inDoc, rfl, fun _ => rfl⟩

theorem continueHeader_eq (s : Scan) (h : Header) (code : List Char) :
    s.continueHeader h code =
      if maxHeaderLines < (continued h code).linesSeen then { s with header := none }
      else s.take (.header (continued h code)) :=
  rfl

theorem step_scanLine (s : Scan) (line : Nat) (raw : List Char) :
    s.Step line raw (s.findings line raw) (s.scanLine line raw) := by
  obtain ⟨docs, inDoc, ht, hkept⟩ := s.collectDoc_eq raw
  cases hcollect : s.collectDoc raw with
  | mk t consumed =>
      rw [hcollect] at ht hkept
      obtain rfl : t = _ := ht
      simp only [scanLine, findings, hcollect]
      cases consumed with
      | true => exact .passes docs inDoc s.inComment
      | false =>
          obtain rfl := hkept rfl
          simp only [Bool.false_eq_true, if_false]
          generalize codeOf s.inComment raw = code
          obtain ⟨code, inComment⟩ := code
          -- The state is taken apart, so that the open header can be told from the rest.
          obtain ⟨found, docs₀, inDoc₀, inComment₀, depth, block, awaited, header⟩ := s
          cases header with
          | some h =>
              simp only [continueHeader_eq]
              split
              · exact .givesUp h code docs inComment rfl
              · exact .goesOn h code docs inComment rfl
          | none =>
              by_cases hcode : isBlank code = true
              · simp only [hcode, if_true]
                split
                · exact .passes [] inDoc₀ inComment
                · exact .passes docs inDoc₀ inComment
              · simp only [hcode, Bool.false_eq_true, if_false, declarationLine_eq]
                exact .declares code _ inComment rfl

/-! ## Apart from what was found

The nesting of braces and the comment lines have nothing to do with the symbols that were found, nor
with the text of the header that is open. -/

/-- The same state with other symbols and another header. -/
def withFound (s : Scan) (found : List Symbol) (header : Option Header) : Scan :=
  { s with found := found, header := header }

theorem start_withFound (s : Scan) (found : List Symbol) (header : Option Header)
    (code : List Char) (kind : Option BlockKind) :
    (s.withFound found header).start code kind = (s.start code kind).withFound found header := by
  cases kind with
  | none => rfl
  | some kind =>
      simp only [start]
      split
      · rfl
      · rfl

theorem trackBrace_withFound (s : Scan) (found : List Symbol) (header : Option Header) (c : Char) :
    (s.withFound found header).trackBrace c = (s.trackBrace c).withFound found header := by
  have hawaited : (s.withFound found header).awaited = s.awaited := rfl
  simp only [trackBrace, hawaited, apply_ite (withFound · found header)]
  cases s.awaited with
  | none => rfl
  | some kind => rfl

theorem trackBraces_withFound (s : Scan) (found : List Symbol) (header : Option Header)
    (code : List Char) :
    (s.withFound found header).trackBraces code = (s.trackBraces code).withFound found header := by
  induction code generalizing s with
  | nil => rfl
  | cons c code ih =>
      change ((s.withFound found header).trackBrace c).trackBraces code =
        ((s.trackBrace c).trackBraces code).withFound found header
      rw [trackBrace_withFound, ih]

theorem pushDoc_withFound (s : Scan) (found : List Symbol) (header : Option Header)
    (text : List Char) :
    (s.withFound found header).pushDoc text = (s.pushDoc text).withFound found header := by
  simp only [pushDoc]
  split
  · rfl
  · rfl

theorem continueDoc_withFound (s : Scan) (found : List Symbol) (header : Option Header)
    (line : List Char) :
    (s.withFound found header).continueDoc line = (s.continueDoc line).withFound found header := by
  unfold continueDoc
  split
  · simp only [pushDoc_withFound]
    rfl
  · exact s.pushDoc_withFound found header _

theorem startDoc_withFound (s : Scan) (found : List Symbol) (header : Option Header)
    (rest : List Char) :
    (s.withFound found header).startDoc rest =
      ((s.startDoc rest).1.withFound found header, (s.startDoc rest).2) := by
  have hdocs : { s.withFound found header with docs := [] } =
    withFound { s with docs := [] } found header := rfl
  simp only [startDoc, hdocs, pushDoc_withFound]
  split
  · rfl
  · rfl

theorem collectDoc_withFound {s : Scan} {header : Option Header}
    (hheader : header.isSome = s.header.isSome) (found : List Symbol) (raw : List Char) :
    (s.withFound found header).collectDoc raw =
      ((s.collectDoc raw).1.withFound found header, (s.collectDoc raw).2) := by
  have hsome : (s.withFound found header).header.isSome = s.header.isSome := hheader
  have hinDoc : (s.withFound found header).inDoc = s.inDoc := rfl
  have hinComment : (s.withFound found header).inComment = s.inComment := rfl
  simp only [collectDoc, hsome, hinDoc, hinComment, continueDoc_withFound, pushDoc_withFound,
    startDoc_withFound]
  split
  · rfl
  · split
    · rfl
    · split
      · rfl
      · rfl
      · rfl

theorem found_start (s : Scan) (code : List Char) (kind : Option BlockKind) :
    (s.start code kind).found = s.found := by
  have h := congrArg Scan.found (s.start_withFound s.found s.header code kind)
  exact h

theorem header_start (s : Scan) (code : List Char) (kind : Option BlockKind) :
    (s.start code kind).header = s.header := by
  have h := congrArg Scan.header (s.start_withFound s.found s.header code kind)
  exact h

theorem found_trackBraces (s : Scan) (code : List Char) : (s.trackBraces code).found = s.found := by
  have h := congrArg Scan.found (s.trackBraces_withFound s.found s.header code)
  exact h

theorem header_trackBraces (s : Scan) (code : List Char) :
    (s.trackBraces code).header = s.header := by
  have h := congrArg Scan.header (s.trackBraces_withFound s.found s.header code)
  exact h

theorem found_collectDoc (s : Scan) (raw : List Char) : (s.collectDoc raw).1.found = s.found := by
  obtain ⟨docs, inDoc, h, -⟩ := s.collectDoc_eq raw
  rw [h]

theorem header_collectDoc (s : Scan) (raw : List Char) :
    (s.collectDoc raw).1.header = s.header := by
  obtain ⟨docs, inDoc, h, -⟩ := s.collectDoc_eq raw
  rw [h]

/-! ## The same scan with other labels

A scan does not look at line numbers, and at its symbols only to sign a methodmap. So it does the
same after they are changed, as long as the change agrees with what a line declares and with what
becomes of it. -/

/-- The same state with its symbols and its open header changed. -/
def relabel (s : Scan) (symbols : List Symbol → List Symbol) (header : Header → Header) : Scan :=
  s.withFound (symbols s.found) (s.header.map header)

/-- Changes of symbols, headers, findings and line numbers that agree with each other. -/
structure Relabelling where
  symbols : List Symbol → List Symbol
  header : Header → Header
  finding : Finding → Finding
  number : Nat → Nat
  number_succ (line : Nat) : number (line + 1) = number line + 1
  finding_continued (h : Header) (code : List Char) :
    finding (.header (continued h code)) = .header (continued (header h) code)
  linesSeen_header (h : Header) : (header h).linesSeen = h.linesSeen
  take_relabel (s : Scan) (f : Finding) :
    (s.relabel symbols header).take (finding f) = (s.take f).relabel symbols header
  declared_relabel (s : Scan) (line : Nat) (raw code : List Char) (doc : Option String) :
    (s.relabel symbols header).declared (number line) raw code doc =
      ((s.declared line raw code doc).1.map finding, (s.declared line raw code doc).2)

namespace Relabelling

variable (r : Relabelling) (s : Scan)

def apply : Scan := s.relabel r.symbols r.header

theorem take_apply (f : Finding) : (r.apply s).take (r.finding f) = r.apply (s.take f) :=
  r.take_relabel s f

theorem takeAll_apply (fs : List Finding) :
    (r.apply s).takeAll (fs.map r.finding) = r.apply (s.takeAll fs) := by
  induction fs generalizing s with
  | nil => rfl
  | cons f fs ih =>
      change ((r.apply s).take (r.finding f)).takeAll _ = r.apply ((s.take f).takeAll fs)
      rw [take_apply, ih]

theorem start_apply (code : List Char) (kind : Option BlockKind) :
    (r.apply s).start code kind = r.apply (s.start code kind) := by
  rw [apply, relabel, start_withFound, apply, relabel, found_start, header_start]

theorem trackBraces_apply (code : List Char) :
    (r.apply s).trackBraces code = r.apply (s.trackBraces code) := by
  rw [apply, relabel, trackBraces_withFound, apply, relabel, found_trackBraces, header_trackBraces]

theorem collectDoc_apply (raw : List Char) :
    (r.apply s).collectDoc raw = (r.apply (s.collectDoc raw).1, (s.collectDoc raw).2) := by
  rw [apply, relabel, collectDoc_withFound Option.isSome_map, apply, relabel, found_collectDoc,
    header_collectDoc]

theorem continueHeader_apply (h : Header) (code : List Char) :
    (r.apply s).continueHeader (r.header h) code = r.apply (s.continueHeader h code) := by
  have hlines : (continued (r.header h) code).linesSeen = (continued h code).linesSeen :=
    congrArg (· + 1) (r.linesSeen_header h)
  rw [continueHeader_eq, continueHeader_eq, hlines, ← r.finding_continued, take_apply,
    apply_ite r.apply]
  rfl

theorem declarationLine_apply (line : Nat) (raw code : List Char) :
    (r.apply s).declarationLine (r.number line) raw code =
      r.apply (s.declarationLine line raw code) := by
  have hdocs : { r.apply s with docs := [] } = r.apply { s with docs := [] } := rfl
  have hdoc : (r.apply s).documentation = s.documentation := rfl
  have hdeclared : (r.apply s).declared (r.number line) raw code s.documentation =
      ((s.declared line raw code s.documentation).1.map r.finding,
        (s.declared line raw code s.documentation).2) := r.declared_relabel s line raw code _
  rw [declarationLine_eq, declarationLine_eq, hdoc, hdeclared, hdocs, takeAll_apply, start_apply]

theorem scanLine_apply (line : Nat) (raw : List Char) :
    (r.apply s).scanLine (r.number line) raw = r.apply (s.scanLine line raw) := by
  simp only [scanLine, collectDoc_apply]
  generalize s.collectDoc raw = collected
  obtain ⟨t, consumed⟩ := collected
  cases consumed with
  | true => rfl
  | false =>
      simp only [Bool.false_eq_true, if_false]
      have hcode : codeOf (r.apply t).inComment raw = codeOf t.inComment raw := rfl
      rw [hcode]
      generalize codeOf t.inComment raw = code
      obtain ⟨code, inComment⟩ := code
      have ht : { r.apply t with inComment := inComment } =
        r.apply { t with inComment := inComment } := rfl
      -- A header is open in both states or in none, so both take the same branch.
      obtain ⟨found, docs, inDoc, inComment₀, depth, block, awaited, header⟩ := t
      cases header with
      | some h =>
          simp only [ht]
          exact (congrArg (trackBraces · code) (r.continueHeader_apply _ h code)).trans
            (r.trackBraces_apply _ code)
      | none =>
          simp only [ht, declarationLine_apply, trackBraces_apply, apply_ite r.apply]
          rfl

theorem scanLines_apply (line : Nat) (ls : List (List Char)) :
    (r.apply s).scanLines (r.number line) ls = r.apply (s.scanLines line ls) := by
  induction ls generalizing s line with
  | nil => rfl
  | cons raw rest ih => rw [scanLines, scanLines, scanLine_apply, ← r.number_succ, ih]

end Relabelling

/-! ## The trace of a scan -/

/-- The findings of some lines, of which the first has number `line`. -/
def trace (s : Scan) (line : Nat) : List (List Char) → List Finding
  | [] => []
  | raw :: rest => s.findings line raw ++ (s.scanLine line raw).trace (line + 1) rest

/-- A line adds what it gives to the scan, and nothing else. -/
theorem Step.found_eq {s s' : Scan} {line : Nat} {raw : List Char} {fs : List Finding}
    (h : s.Step line raw fs s') : s'.found = fs.foldl addTo s.found := by
  cases h with
  | passes docs inDoc inComment => rfl
  | givesUp h code docs inComment hheader =>
      rw [found_trackBraces]
      rfl
  | goesOn h code docs inComment hheader =>
      rw [found_trackBraces, take_eq]
      rfl
  | declares code doc inComment hheader =>
      rw [found_trackBraces, found_start, takeAll_eq]

theorem found_scanLines (s : Scan) (line : Nat) (ls : List (List Char)) :
    (s.scanLines line ls).found = (s.trace line ls).foldl addTo s.found := by
  induction ls generalizing s line with
  | nil => rfl
  | cons raw rest ih =>
      rw [scanLines, trace, ih, (step_scanLine s line raw).found_eq, List.foldl_append]

end Scan

/-- All that the lines of a text give to its scan. -/
def trace (text : String) : List Finding := Scan.trace {} 0 (lines text.toList)

/-- The symbols that some findings leave, in order. -/
def symbolsOf (findings : List Finding) : List Symbol := (findings.foldl Scan.addTo []).reverse

/-- The symbols of a text are those that its trace leaves. -/
theorem symbolsOf_trace (text : String) : symbolsOf (trace text) = declarations text := by
  rw [symbolsOf, trace, declarations, Scan.found_scanLines]

end PawnScope.Source
