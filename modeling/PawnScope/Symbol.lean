import PawnScope.Text.Space

/-! # Symbols

A symbol is one declared name with what an editor shows of it: its kind, its signature if it can
be called, its owner if it is a member, and its documentation. -/

namespace PawnScope

/-- What a declaration declares. -/
inductive SymbolKind where
  | function
  | method
  | property
  | constant
  | variable
  | enum
  | enumMember
  | methodmap
  | typedef
  deriving DecidableEq, Repr, Inhabited

/-- Methods and properties are reached only through their owner. -/
def SymbolKind.isMember : SymbolKind → Bool
  | .method => true
  | .property => true
  | _ => false

/-- A declared parameter. The name of a variable number of parameters is three dots. -/
structure Parameter where
  name : String
  type : Option String
  default : Option String
  deriving DecidableEq, Repr, Inhabited

/-- References and old-style tags stand right before the name. -/
def attaches (type : String) : Bool :=
  match type.toList.getLast? with
  | some c => c == '&' || c == ':'
  | none => false

/-- The parameter as a declaration writes it. -/
def Parameter.label (p : Parameter) : String :=
  let declared :=
    match p.type with
    | some type => if attaches type then type ++ p.name else type ++ " " ++ p.name
    | none => p.name
  match p.default with
  | some value => declared ++ " = " ++ value
  | none => declared

/-- The parameters and the type of what can be called. -/
structure Signature where
  parameters : List Parameter
  returnType : Option String
  deriving DecidableEq, Repr, Inhabited

/-- A declared name. Lines are counted from zero. -/
structure Symbol where
  name : String
  kind : SymbolKind
  documentation : Option String := none
  signature : Option Signature := none
  parent : Option String := none
  line : Nat := 0
  deriving DecidableEq, Repr, Inhabited

namespace Symbol

/-- The name of a member with its owner's name in front. -/
def qualifiedName (s : Symbol) : String :=
  match s.parent with
  | some parent => if s.kind.isMember then parent ++ "." ++ s.name else s.name
  | none => s.name

/-- The word in front of a name that cannot be called. -/
def keyword : SymbolKind → String
  | .property => "property "
  | .constant => "#define "
  | .methodmap => "methodmap "
  | .enum => "enum "
  | .typedef => "typedef "
  | _ => ""

/-- The line that stands for the symbol: a call with its parameters, or a keyword and the name. -/
def label (s : Symbol) : String :=
  match s.signature with
  | some signature =>
      let call := s.qualifiedName ++ "(" ++
        ", ".intercalate (signature.parameters.map Parameter.label) ++ ")"
      match signature.returnType with
      | some type => type ++ " " ++ call
      | none => call
  | none => keyword s.kind ++ s.qualifiedName

/-- The label as a block of code, and the documentation below a rule. -/
def markdown (s : Symbol) : String :=
  let code := "\x60\x60\x60sourcepawn\n" ++ s.label ++ "\n\x60\x60\x60"
  match s.documentation with
  | none => code
  | some doc =>
      let text := Text.trim doc.toList
      if text.isEmpty then code else code ++ "\n---\n" ++ String.ofList text

end Symbol

end PawnScope
