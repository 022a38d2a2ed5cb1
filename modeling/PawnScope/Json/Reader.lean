import PawnScope.Json.Real
import PawnScope.Text.Percent

/-! # Reading JSON

A reader for one JSON value. Where an object repeats a key, the last value counts. Values that are
nested too deep and numbers that are out of range are refused. -/

namespace PawnScope.Json

open Text

/-- JSON's own white space. -/
def isBlankChar (c : Char) : Bool := c == ' ' || c == '\t' || c == '\n' || c == '\r'

def skipBlank (s : List Char) : List Char := s.dropWhile isBlankChar

/-! ## Strings -/

/-- Four hexadecimal digits. -/
def hex4? (a b c d : Char) : Option Nat := do
  return (((← hexValue? a) * 16 + (← hexValue? b)) * 16 + (← hexValue? c)) * 16 + (← hexValue? d)

/-- The character of a short escape. -/
def shortEscape? (c : Char) : Option Char :=
  match c with
  | '"' => some '"'
  | '\\' => some '\\'
  | '/' => some '/'
  | 'b' => some '\x08'
  | 'f' => some '\x0c'
  | 'n' => some '\n'
  | 'r' => some '\r'
  | 't' => some '\t'
  | _ => none

/-- The character of a pair of UTF-16 units. -/
def pairChar (high low : Nat) : Char :=
  Char.ofNat (0x10000 + (high - 0xD800) * 0x400 + (low - 0xDC00))

/-- The rest of a string after its opening quote, and what follows it. The characters read so far
stand last first. A unit beyond the basic plane is written as a pair of escapes; half a pair is
refused. -/
def string? (read : List Char) : List Char → Option (String × List Char)
  | '"' :: s => some (String.ofList read.reverse, s)
  | '\\' :: 'u' :: a :: b :: c :: d :: s =>
      match hex4? a b c d with
      | none => none
      | some n =>
          if n < 0xD800 ∨ 0xDFFF < n then string? (Char.ofNat n :: read) s
          else if 0xDBFF < n then none
          else
            match s with
            | '\\' :: 'u' :: e :: f :: g :: h :: s =>
                match hex4? e f g h with
                | none => none
                | some m =>
                    if m < 0xDC00 ∨ 0xDFFF < m then none
                    else string? (pairChar n m :: read) s
            | _ => none
  | '\\' :: c :: s =>
      match shortEscape? c with
      | none => none
      | some c => string? (c :: read) s
  | c :: s => if c.toNat < 0x20 then none else string? (c :: read) s
  | [] => none

/-! ## Numbers -/

def isNumberChar (c : Char) : Bool :=
  c.isDigit || c == '-' || c == '+' || c == '.' || c == 'e' || c == 'E'

/-- Decimal digits without a needless zero in front. -/
def isWhole (digits : List Char) : Bool :=
  !digits.isEmpty && digits.all Char.isDigit && (digits.length == 1 || digits.head? != some '0')

/-- An exponent, without its letter. -/
def isExponent : List Char → Bool
  | '+' :: digits => !digits.isEmpty && digits.all Char.isDigit
  | '-' :: digits => !digits.isEmpty && digits.all Char.isDigit
  | digits => !digits.isEmpty && digits.all Char.isDigit

/-- A number without its sign: a whole part, an optional fraction and an optional exponent. -/
def isReal (s : List Char) : Bool :=
  let whole := s.takeWhile Char.isDigit
  let rest := s.dropWhile Char.isDigit
  let isTail : List Char → Bool
    | [] => true
    | c :: exponent => (c == 'e' || c == 'E') && isExponent exponent
  isWhole whole &&
    match rest with
    | '.' :: fraction =>
        !(fraction.takeWhile Char.isDigit).isEmpty && isTail (fraction.dropWhile Char.isDigit)
    | rest => isTail rest

/-- A number that is not kept as a whole number, unless it is out of range. -/
def real? (s : List Char) : Option Json := (Real.value? s).map fun _ => real (String.ofList s)

/-- The value of a written number: a whole number stays one if 64 bits hold it, with a sign if it
is negative. -/
def number? (s : List Char) : Option Json :=
  let (negative, magnitude) :=
    match s with
    | '-' :: rest => (true, rest)
    | rest => (false, rest)
  if isWhole magnitude then
    let n := Real.digitsValue magnitude
    if negative then
      if 0 < n ∧ n ≤ 0x8000000000000000 then some (int (-(n : Int))) else real? s
    else if n < 0x10000000000000000 then some (int n)
    else real? s
  else if isReal magnitude then real? s
  else none

/-! ## Values -/

mutual

/-- A value at the start of a text, and what follows it. It may hold lists and objects within each
other below `depth`. Every step reads a character, so the length of the text is fuel enough. -/
def value? : Nat → Nat → List Char → Option (Json × List Char)
  | 0, _, _ => none
  | fuel + 1, depth, s =>
      match skipBlank s with
      | 'n' :: 'u' :: 'l' :: 'l' :: s => some (null, s)
      | 't' :: 'r' :: 'u' :: 'e' :: s => some (bool true, s)
      | 'f' :: 'a' :: 'l' :: 's' :: 'e' :: s => some (bool false, s)
      | '"' :: s => (string? [] s).map fun (value, s) => (str value, s)
      | '[' :: s =>
          if depth ≤ 1 then none
          else
            match skipBlank s with
            | ']' :: s => some (arr [], s)
            | s => items? fuel (depth - 1) [] s
      | '\x7b' :: s =>
          if depth ≤ 1 then none
          else
            match skipBlank s with
            | '\x7d' :: s => some (obj [], s)
            | s => fields? fuel (depth - 1) [] s
      | s => (number? (s.takeWhile isNumberChar)).map fun v => (v, s.dropWhile isNumberChar)

/-- The items of an array that is not empty; those read so far stand last first. -/
def items? : Nat → Nat → List Json → List Char → Option (Json × List Char)
  | 0, _, _, _ => none
  | fuel + 1, depth, read, s =>
      match value? fuel depth s with
      | none => none
      | some (v, s) =>
          match skipBlank s with
          | ',' :: s => items? fuel depth (v :: read) s
          | ']' :: s => some (arr (v :: read).reverse, s)
          | _ => none

/-- The fields of an object that is not empty; those read so far stand last first. -/
def fields? : Nat → Nat → List (String × Json) → List Char → Option (Json × List Char)
  | 0, _, _, _ => none
  | fuel + 1, depth, read, s =>
      match skipBlank s with
      | '"' :: s =>
          match string? [] s with
          | none => none
          | some (key, s) =>
              match skipBlank s with
              | ':' :: s =>
                  match value? fuel depth s with
                  | none => none
                  | some (v, s) =>
                      match skipBlank s with
                      | ',' :: s => fields? fuel depth ((key, v) :: read) s
                      | '\x7d' :: s => some (obj ((key, v) :: read).reverse, s)
                      | _ => none
              | _ => none
      | _ => none

end

/-- How deep values may be nested. -/
def maxDepth : Nat := 128

/-- Reads a text that holds one value and white space. Objects keep every field that is written,
also where a key is repeated. -/
def readWritten? (s : String) : Option Json :=
  let chars := s.toList
  match value? (chars.length + 1) maxDepth chars with
  | some (v, rest) => if (skipBlank rest).isEmpty then some v else none
  | none => none

/-! ## Repeated keys -/

/-- Adds a field, in place of one with the same key. -/
def setField (fields : List (String × Json)) (key : String) (value : Json) :
    List (String × Json) :=
  if fields.any (·.1 = key) then fields.map fun f => if f.1 = key then (key, value) else f
  else fields ++ [(key, value)]

mutual

/-- The value in which objects hold each key once, with the last of its values. -/
def settled : Json → Json
  | arr items => arr (settledItems items)
  | obj fields =>
      obj ((settledFields fields).foldl (fun done f => setField done f.1 f.2) [])
  | v => v

def settledItems : List Json → List Json
  | [] => []
  | v :: rest => settled v :: settledItems rest

def settledFields : List (String × Json) → List (String × Json)
  | [] => []
  | (key, v) :: rest => (key, settled v) :: settledFields rest

end

/-- Reads a text that holds one value and white space. -/
def read? (s : String) : Option Json := (readWritten? s).map settled

end PawnScope.Json
