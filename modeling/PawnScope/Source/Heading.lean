import PawnScope.Source.Lexeme

/-! # Shapes of declarations

What a line of code declares, by its first words. Every reader looks at the start of the line
only, after white space; a line that has none of the shapes declares nothing. -/

namespace PawnScope.Source

open Text

/-! ## One-line declarations -/

/-- The name that a `#define` gives a value. -/
def define? (line : List Char) : Option (List Char) := do
  let s ← mark? '#' line
  let s ← word? "define" (trimStart s)
  return (← name? s).1

/-- The name of a methodmap. -/
def methodmap? (code : List Char) : Option (List Char) := do
  let s ← word? "methodmap" (trimStart code)
  return (← name? s).1

/-- The name of a function type, in any of its four spellings. -/
def typedef? (code : List Char) : Option (List Char) := do
  let s ← oneOf? ["typedef", "typeset", "funcenum", "functag"] (trimStart code)
  return (← name? s).1

/-- The start of an enumeration: whether it is an enum struct, and its name if the line gives
one that a colon, a brace, a parenthesis or the end of the line follows. -/
structure EnumHeading where
  isStruct : Bool
  name : Option (List Char)

def enumName? (s : List Char) : Option (List Char) := do
  let (name, rest) ← name? s
  match trimStart rest with
  | [] => some name
  | c :: _ => if c = ':' ∨ c = '\x7b' ∨ c = '(' then some name else none

def enum? (code : List Char) : Option EnumHeading := do
  let s ← literal? "enum" (trimStart code)
  if (s.head?.map isWord).getD false then none
  else
    let s := trimStart s
    match word? "struct" s with
    | some rest => some ⟨true, enumName? rest⟩
    | none => some ⟨false, enumName? s⟩

/-- The name at the start of an entry of an enumeration. -/
def enumEntry? (s : List Char) : Option (List Char) := do return (← name? (trimStart s)).1

/-- A property: its name. -/
def property? (code : List Char) : Option (List Char) := do
  let s ← word? "property" (trimStart code)
  let (_, rest) ← type? s
  return (← name? (← spaces? rest)).1

/-- A field of an enum struct: its type and its name. -/
def field? (code : List Char) : Option (List Char × List Char) := do
  let (type, rest) ← name? (trimStart code)
  let (name, rest) ← name? (← spaces? rest)
  match dimensions rest with
  | ';' :: _ => some (type, name)
  | _ => none

/-! ## Callables -/

/-- The start of a callable: the type it returns, its name, and the text from the parenthesis
that opens its parameters. -/
structure Callable where
  returnType : Option (List Char)
  name : List Char
  tail : List Char

/-- A name and an opening parenthesis. -/
def callee? (returnType : Option (List Char)) (s : List Char) : Option Callable := do
  let (name, rest) ← name? s
  let inner ← mark? '(' rest
  return ⟨returnType, name, '(' :: inner⟩

/-- A type, white space, and a callee. -/
def typedCallee? (s : List Char) : Option Callable := do
  let (type, rest) ← type? s
  callee? (some type) (← spaces? rest)

/-- An old-style tag with its colon, and a callee right after it. -/
def taggedCallee? (s : List Char) : Option Callable := do
  let (tag, rest) ← name? s
  match rest with
  | ':' :: rest => callee? (some (tag ++ [':'])) rest
  | _ => none

/-- A function: its storage classes come first, then a type or a tag or neither. The flag says
whether there is a storage class. -/
def function? (code : List Char) : Option (Bool × Callable) :=
  (modifiers ["public", "stock", "static", "native", "forward"] (trimStart code)).findSome?
    fun (stored, s) =>
      (((typedCallee? s).or (taggedCallee? s)).or (callee? none s)).map fun c => (stored, c)

/-- A method of a methodmap. -/
def method? (code : List Char) : Option Callable := do
  let s ← word? "public" (trimStart code)
  (modifiers ["native", "static"] s).findSome? fun (_, s) => (typedCallee? s).or (callee? none s)

/-- A method of an enum struct, which always has a type. -/
def structMethod? (code : List Char) : Option Callable := typedCallee? (trimStart code)

/-! ## Variables -/

/-- A variable outside functions: the type of a new-style declaration, and the name. -/
structure Global where
  type : Option (List Char)
  name : List Char

/-- A name, its dimensions, and a sign that shows a variable. -/
def globalTail? (type : Option (List Char)) (s : List Char) : Option Global := do
  let (name, rest) ← name? s
  match dimensions rest with
  | c :: _ => if c = '=' ∨ c = ';' ∨ c = ',' then some ⟨type, name⟩ else none
  | [] => none

/-- A variable after `new` or `decl` and an optional tag. -/
def oldGlobal? (s : List Char) : Option Global := do
  let s ← oneOf? ["new", "decl"] s
  let tagged := do
    let (_, rest) ← name? s
    match rest with
    | ':' :: rest => globalTail? none rest
    | _ => none
  tagged.or (globalTail? none s)

/-- A variable after its type. -/
def newGlobal? (s : List Char) : Option Global := do
  let (type, rest) ← name? s
  globalTail? (some type) (← spaces? (((emptyBrackets? rest).map (·.2)).getD rest))

def global? (code : List Char) : Option Global :=
  (modifiers ["static", "const", "public", "stock"] (trimStart code)).findSome?
    fun (_, s) => (oldGlobal? s).or (newGlobal? s)

end PawnScope.Source
