import PawnScope.Domain.Direction
import PawnScope.Domain.Joining
import PawnScope.Domain.Mapping
import PawnScope.Domain.Punycode

/-! # Domain names

A domain is a list of labels, which full stops divide. In its normal form each label is ASCII: its
characters are mapped and composed, and a label that still has others is written in a code, after
a marker. A label may be given in that code, but only if the code is that of a normal form. -/

namespace PawnScope.Domain

/-- An ASCII character that no domain may hold. -/
def isDenied (c : Char) : Bool :=
  c.toNat ≤ 0x20 || c.toNat == 0x7F || "%#/:<>?@[\\]^|".toList.contains c

def isAscii (s : List Char) : Bool := s.all (·.toNat < 0x80)

/-- The text with each character mapped, in normal form, unless a character is refused. -/
def normalForm? (s : List Char) : Option (List Char) := do
  let mapped ← s.mapM mapping?
  let text := normalize mapped.flatten
  if text.any isDenied then none else some text

/-- What a label in code starts with. -/
def marker : List Char := "xn--".toList

/-- The longest code, and the longest label that is written in code. -/
def maxCode : Nat := 2000

def maxLabel : Nat := 1000

/-- A label as it is shown and as it is written. -/
structure Label where
  text : List Char
  written : List Char
  deriving DecidableEq, Repr

/-- A label of a text in normal form. -/
def Label.read? (s : List Char) : Option Label :=
  if marker.isPrefixOf s then do
    let code := s.drop marker.length
    let text ← Punycode.decode? code
    if isAscii code ∧ code.length ≤ maxCode ∧ s.getLast? ≠ some '-' ∧ normalForm? text = some text
    then some ⟨text, s⟩
    else none
  else if isAscii s then some ⟨s, s⟩
  else some ⟨s, marker ++ Punycode.encode s⟩

/-- A label starts with no mark, its joiners are in place, and it is not too long for the code. -/
def Label.isValid (label : Label) : Bool :=
  !label.text.head?.any isMark && joinersInPlace [] label.text &&
    (isAscii label.text || label.text.length ≤ maxLabel)

/-- The normal form of a domain. -/
def ascii? (s : List Char) : Option (List Char) := do
  let text ← normalForm? s
  let labels ← (text.splitOn '.').mapM Label.read?
  if labels.all Label.isValid && areOrdered (labels.map (·.text)) then
    some ((['.'] : List Char).intercalate (labels.map (·.written)))
  else none

end PawnScope.Domain
