import PawnScope.Source.Code
import PawnScope.Source.Heading
import PawnScope.Source.Parameters
import PawnScope.Text.Lines

/-! # Scanning for declarations

A source text is scanned line by line. What the scan remembers from one line to the next is the
nesting of braces, the block whose members it is reading, a header whose parameter list is still
open, and the comment lines that may document the next declaration. A line that has no known
shape is passed over. -/

namespace PawnScope.Source

open Text

/-! ## The state of a scan -/

/-- A block whose members are declarations. -/
inductive BlockKind where
  | methodmap (name : String)
  | enum (name : Option String)
  | enumStruct (name : String)
  deriving DecidableEq, Repr

/-- An open block and the depth of braces of its body. -/
structure Block where
  kind : BlockKind
  depth : Nat
  deriving DecidableEq, Repr

/-- A callable whose parameter list may go on over several lines. -/
structure Header where
  /-- The text from the opening parenthesis on. -/
  text : List Char
  line : Nat
  linesSeen : Nat := 1
  name : String
  kind : SymbolKind
  returnType : Option String
  parent : Option String := none
  documentation : Option String
  deriving DecidableEq, Repr

/-- A header that is still open after this many lines is given up. -/
def maxHeaderLines : Nat := 32

/-- What a scan remembers between lines. -/
structure Scan where
  /-- The symbols found so far, the newest first. -/
  found : List Symbol := []
  /-- The comment lines that may document the next declaration. -/
  docs : List (List Char) := []
  /-- The line starts inside a documenting block comment. -/
  inDoc : Bool := false
  /-- The line starts inside another block comment. -/
  inComment : Bool := false
  /-- The number of open braces. -/
  depth : Nat := 0
  block : Option Block := none
  /-- A block whose opening brace has not come yet. -/
  awaited : Option BlockKind := none
  header : Option Header := none
  deriving DecidableEq, Repr, Inhabited

namespace Scan

/-! ## Documentation -/

/-- Keeps a comment line, trimmed, unless it is blank. -/
def pushDoc (s : Scan) (text : List Char) : Scan :=
  let text := trim text
  if text.isEmpty then s else { s with docs := s.docs ++ [text] }

def dropStars (text : List Char) : List Char := text.dropWhile (· == '*')

/-- A line inside a documenting block comment. -/
def continueDoc (s : Scan) (line : List Char) : Scan :=
  match cutAt '*' '/' line with
  | some (body, _) => { s.pushDoc (dropStars body) with inDoc := false }
  | none => s.pushDoc (dropStars line)

/-- A line that starts with a block comment, whose text after the opening is `rest`. The line is
used up unless something follows the end of the comment. -/
def startDoc (s : Scan) (rest : List Char) : Scan × Bool :=
  let s := { s with docs := [] }
  match cutAt '*' '/' (dropStars rest) with
  | some (body, after) => (s.pushDoc body, (trim after).isEmpty)
  | none => ({ s.pushDoc (dropStars rest) with inDoc := true }, true)

/-- Reads a line as documentation, and says whether that uses up the line. -/
def collectDoc (s : Scan) (line : List Char) : Scan × Bool :=
  let line := trim line
  if s.inDoc then (s.continueDoc line, true)
  else if s.inComment || s.header.isSome then (s, false)
  else
    match line with
    | '/' :: '/' :: rest => (s.pushDoc (rest.dropWhile (· == '/')), true)
    | '/' :: '*' :: rest => s.startDoc rest
    | _ => (s, false)

/-- The documentation that the comment lines make. -/
def documentation (s : Scan) : Option String :=
  nonempty? (trim ((['\n'] : List Char).intercalate s.docs))

/-! ## Symbols -/

def push (s : Scan) (symbol : Symbol) : Scan := { s with found := symbol :: s.found }

/-- Gives the newest methodmap of the given name the signature of its constructor, and its
documentation if it has none. -/
def signMethodmap (name : String) (signature : Signature) (doc : Option String) :
    List Symbol → List Symbol
  | [] => []
  | symbol :: older =>
      if symbol.kind = .methodmap ∧ symbol.name = name then
        { symbol with
          signature := some signature
          documentation := symbol.documentation.or doc } :: older
      else symbol :: signMethodmap name signature doc older

/-- Turns a header with a closed parameter list into a symbol. A constructor signs its
methodmap. -/
def finish (s : Scan) (h : Header) (list : List Char) : Scan :=
  let signature : Signature := ⟨parameters list, h.returnType⟩
  if h.kind = .methodmap then
    { s with
      header := none
      found := signMethodmap h.name signature h.documentation s.found }
  else
    { s with header := none }.push
      { name := h.name, kind := h.kind, documentation := h.documentation
        signature := some signature, parent := h.parent, line := h.line }

/-- Holds a header until its parameter list is closed. -/
def hold (s : Scan) (h : Header) : Scan :=
  match parameterList? h.text with
  | some list => s.finish h list
  | none => { s with header := some h }

/-- Adds a line of code to the open header. -/
def continueHeader (s : Scan) (h : Header) (code : List Char) : Scan :=
  let h := { h with text := h.text ++ ' ' :: trim code, linesSeen := h.linesSeen + 1 }
  if maxHeaderLines < h.linesSeen then { s with header := none } else s.hold h

/-! ## Members of blocks -/

/-- The header of a callable. -/
def headerOf (c : Callable) (line : Nat) (kind : SymbolKind) (parent : Option String)
    (doc : Option String) : Header where
  text := c.tail
  line := line
  name := String.ofList c.name
  kind := kind
  returnType := c.returnType.map String.ofList
  parent := parent
  documentation := doc

/-- A line of a methodmap's body. What has the methodmap's name is its constructor. -/
def methodmapLine (s : Scan) (map : String) (line : Nat) (code : List Char)
    (doc : Option String) : Scan :=
  match property? code with
  | some name =>
      s.push { name := String.ofList name, kind := .property, documentation := doc
               parent := some map, line := line }
  | none =>
      match method? code with
      | some c =>
          if String.ofList c.name = map then s.hold (headerOf c line .methodmap none doc)
          else s.hold (headerOf c line .method (some map) doc)
      | none => s

/-- A line of an enum struct's body. -/
def enumStructLine (s : Scan) (name : String) (line : Nat) (code : List Char)
    (doc : Option String) : Scan :=
  match field? code with
  | some (type, field) =>
      if isKeyword type then s
      else
        s.push { name := String.ofList field, kind := .property, documentation := doc
                 parent := some name, line := line }
  | none =>
      match structMethod? code with
      | some c =>
          if (c.returnType.map isKeyword).getD false || isKeyword c.name then s
          else s.hold (headerOf c line .method (some name) doc)
      | none => s

/-- The entries of a line of an enumeration; the first that is found takes the documentation. -/
def pushEntries (s : Scan) (owner : Option String) (line : Nat) :
    Option String → List (List Char) → Scan
  | _, [] => s
  | doc, entry :: rest =>
      match enumEntry? entry with
      | some name =>
          (s.push { name := String.ofList name, kind := .enumMember, documentation := doc
                    parent := owner, line := line }).pushEntries owner line none rest
      | none => s.pushEntries owner line doc rest

/-- A line of an enumeration's body, up to the brace that closes it. -/
def enumLine (s : Scan) (owner : Option String) (line : Nat) (code : List Char)
    (doc : Option String) : Scan :=
  s.pushEntries owner line doc ((code.takeWhile (· != '\x7d')).splitOn ',')

/-- A line of the open block's body, at the depth of that body. -/
def blockLine (s : Scan) (b : Block) (line : Nat) (code : List Char) (doc : Option String) :
    Scan :=
  if s.depth = b.depth then
    match b.kind with
    | .methodmap map => s.methodmapLine map line code doc
    | .enumStruct name => s.enumStructLine name line code doc
    | .enum owner => s.enumLine owner line code doc
  else s

/-- Starts a block. If the line has the opening brace, what follows it is read as the first line
of the body. -/
def openBlock (s : Scan) (kind : BlockKind) (line : Nat) (code : List Char) : Scan :=
  match code.dropWhile (· != '\x7b') with
  | [] => { s with awaited := some kind }
  | _ :: rest =>
      let b : Block := ⟨kind, s.depth + 1⟩
      let s := { s with block := some b }
      if isBlank rest then s
      else { ({ s with depth := s.depth + 1 }).blockLine b line rest none with depth := s.depth }

/-! ## Declarations outside blocks -/

/-- Whether a callable outside blocks is a declaration: it has a storage class or a type, and no
keyword stands for its name or its type. A name without either is a stray call. -/
def isDeclared (stored : Bool) (c : Callable) : Bool :=
  (stored || c.returnType.isSome) && !isKeyword c.name &&
    !((c.returnType.map fun t => isKeyword (t.reverse.dropWhile (· == ':')).reverse).getD false)

/-- A function or, failing that, a variable. -/
def callableOrGlobal (s : Scan) (line : Nat) (code : List Char) (doc : Option String) : Scan :=
  match (function? code).filter fun (stored, c) => isDeclared stored c with
  | some (_, c) => s.hold (headerOf c line .function none doc)
  | none =>
      match global? code with
      | some g =>
          if (g.type.map isKeyword).getD false || isKeyword g.name then s
          else
            s.push { name := String.ofList g.name, kind := .variable, documentation := doc
                     line := line }
      | none => s

/-- A line outside blocks and braces. The value of a `#define` may be a string, so that shape is
looked for in the line as it is written. -/
def topLevelLine (s : Scan) (line : Nat) (raw code : List Char) (doc : Option String) : Scan :=
  match define? raw with
  | some name =>
      s.push { name := String.ofList name, kind := .constant, documentation := doc, line := line }
  | none =>
      if (trimStart code).head? = some '#' then s
      else
        match methodmap? code with
        | some name =>
            let name := String.ofList name
            (s.push { name := name, kind := .methodmap, documentation := doc
                      line := line }).openBlock (.methodmap name) line code
        | none =>
            match enum? code with
            | some e =>
                match e.name.map String.ofList with
                | some name =>
                    (s.push { name := name, kind := .enum, documentation := doc
                              line := line }).openBlock
                      (if e.isStruct then .enumStruct name else .enum (some name)) line code
                | none => s.openBlock (.enum none) line code
            | none =>
                match typedef? code with
                | some name =>
                    s.push { name := String.ofList name, kind := .typedef, documentation := doc
                             line := line }
                | none => s.callableOrGlobal line code doc

/-! ## Braces -/

/-- Follows one character of code. An opening brace opens the awaited block; a closing brace
closes the block whose body it leaves, and one too many counts for nothing; a semicolon outside
braces ends the wait for a body. -/
def trackBrace (s : Scan) (c : Char) : Scan :=
  if c = '\x7b' then
    match s.awaited with
    | some kind =>
        { s with depth := s.depth + 1, awaited := none, block := some ⟨kind, s.depth + 1⟩ }
    | none => { s with depth := s.depth + 1 }
  else if c = '\x7d' then
    { s with depth := s.depth - 1, block := s.block.filter fun b => b.depth ≤ s.depth - 1 }
  else if c = ';' ∧ s.depth = 0 then { s with awaited := none }
  else s

def trackBraces (s : Scan) (code : List Char) : Scan := code.foldl trackBrace s

/-! ## Lines and texts -/

/-- A line of code that is not blank, while no header is open. -/
def declarationLine (s : Scan) (line : Nat) (raw code : List Char) : Scan :=
  let doc := s.documentation
  let s := { s with docs := [] }
  match s.block with
  | some b => s.blockLine b line code doc
  | none => if s.depth = 0 then s.topLevelLine line raw code doc else s

/-- One line of a text. -/
def scanLine (s : Scan) (line : Nat) (raw : List Char) : Scan :=
  let (s, consumed) := s.collectDoc raw
  if consumed then s
  else
    let (code, inComment) := codeOf s.inComment raw
    let s := { s with inComment := inComment }
    match s.header with
    | some h => (s.continueHeader h code).trackBraces code
    | none =>
        if isBlank code then if isBlank raw then { s with docs := [] } else s
        else (s.declarationLine line raw code).trackBraces code

/-- The lines of a text from number `line` on. -/
def scanLines (s : Scan) (line : Nat) : List (List Char) → Scan
  | [] => s
  | raw :: rest => (s.scanLine line raw).scanLines (line + 1) rest

end Scan

/-- The symbols that a text declares, in order. -/
def declarations (text : String) : List Symbol :=
  (Scan.scanLines {} 0 (lines text.toList)).found.reverse

end PawnScope.Source
