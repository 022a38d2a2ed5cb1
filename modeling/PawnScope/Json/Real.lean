import PawnScope.Json

/-! # Numbers beyond the whole ones

A number with a fraction or an exponent, or one that 64 bits do not hold, is taken as a floating
point number of 64 bits. It is shown with the fewest digits that read back as that number. -/

namespace PawnScope.Json.Real

/-! ## Values -/

/-- A whole number times a power of ten. -/
structure Decimal where
  significand : Nat := 0
  exponent : Int := 0
  /-- Further digits do not fit. -/
  full : Bool := false

/-- The significand has as many digits as 64 bits hold. -/
def fits (n : Nat) : Bool := n < 0x10000000000000000

/-- Adds a digit before the point. One that does not fit still counts as a place. -/
def Decimal.addWhole (d : Decimal) (c : Char) : Decimal :=
  let n := d.significand * 10 + (c.toNat - 48)
  if !d.full && fits n then { d with significand := n }
  else { d with exponent := d.exponent + 1, full := true }

/-- Adds a digit after the point. From the first that does not fit, all are dropped. -/
def Decimal.addFraction (d : Decimal) (c : Char) : Decimal :=
  let n := d.significand * 10 + (c.toNat - 48)
  if !d.full && fits n then { d with significand := n, exponent := d.exponent - 1 }
  else { d with full := true }

def digitsValue (digits : List Char) : Nat :=
  digits.foldl (fun n c => n * 10 + (c.toNat - 48)) 0

/-- The exponent that a number ends with, after its letter. -/
def exponentOf : List Char → Int
  | [] => 0
  | '-' :: digits => -digitsValue digits
  | '+' :: digits => digitsValue digits
  | digits => digitsValue digits

/-- The decimal number that is written, without its sign. -/
def Decimal.ofText (s : List Char) : Decimal :=
  let whole := (s.takeWhile Char.isDigit).foldl Decimal.addWhole {}
  let rest := s.dropWhile Char.isDigit
  match rest with
  | '.' :: rest =>
      let d := (rest.takeWhile Char.isDigit).foldl Decimal.addFraction { whole with full := false }
      { d with exponent := d.exponent + exponentOf ((rest.dropWhile Char.isDigit).drop 1) }
  | rest => { whole with exponent := whole.exponent + exponentOf (rest.drop 1) }

/-- The greatest power of ten that the numbers hold. -/
def maxPower : Nat := 308

def power (n : Nat) : Float := Float.ofScientific 1 false n

/-- A number times a power of ten, unless the result is out of range. -/
def scale? (f : Float) (exponent : Int) : Option Float :=
  if exponent.natAbs ≤ maxPower then
    if 0 ≤ exponent then
      let product := f * power exponent.natAbs
      if product.isInf then none else some product
    else some (f / power exponent.natAbs)
  else if f == 0 then some f
  else if 0 ≤ exponent then none
  else scale? (f / power maxPower) (exponent + maxPower)
termination_by exponent.natAbs
decreasing_by
  simp only [maxPower] at *
  omega

/-- The value of a written number, unless it is out of range. -/
def value? (s : List Char) : Option Float :=
  let of? := fun magnitude =>
    let d := Decimal.ofText magnitude
    scale? (Float.ofNat d.significand) d.exponent
  match s with
  | '-' :: magnitude => (of? magnitude).map fun f => -f
  | magnitude => of? magnitude

/-! ## Texts -/

/-- A number as a sign, a whole number and a power of two. -/
structure Binary where
  negative : Bool
  mantissa : Nat
  exponent : Int

def Binary.ofFloat (f : Float) : Binary :=
  let bits := f.toBits.toNat
  let biased := bits / 0x10000000000000 % 0x800
  let fraction := bits % 0x10000000000000
  { negative := 0x8000000000000000 ≤ bits
    mantissa := if biased = 0 then fraction else fraction + 0x10000000000000
    exponent := if biased = 0 then -1074 else biased - 1075 }

/-- The numbers that read back as a number lie between these, in units of a quarter of its last
binary place. Below a power of two they are half as far apart. -/
def Binary.lower (b : Binary) : Nat :=
  4 * b.mantissa - (if b.mantissa = 0x10000000000000 ∧ -1074 < b.exponent then 1 else 2)

def Binary.upper (b : Binary) : Nat := 4 * b.mantissa + 2

/-- The whole number that, times the given power of ten, is nearest to a number and reads back as
it. The ends of the interval count if the mantissa is even. -/
def Binary.digitsAt? (b : Binary) (power : Int) : Option Nat :=
  let quarter := b.exponent - 2
  let scale := Nat.pow 2 quarter.toNat * Nat.pow 10 (-power).toNat
  let unit := Nat.pow 2 (-quarter).toNat * Nat.pow 10 power.toNat
  let value := 4 * b.mantissa * scale
  let admits := fun d =>
    if b.mantissa % 2 = 0 then b.lower * scale ≤ d * unit && d * unit ≤ b.upper * scale
    else b.lower * scale < d * unit && d * unit < b.upper * scale
  let below := value / unit
  let above := below + 1
  match admits below, admits above with
  | true, true => some (if value - below * unit ≤ above * unit - value then below else above)
  | true, false => some below
  | false, true => some above
  | false, false => none

/-- The powers of ten from the greatest that a number may need to the least. -/
def powers : List Int := (List.range 640).map fun i : Nat => 310 - (i : Int)

/-- The fewest digits that read back, and the power of ten that goes with them. -/
def Binary.shortest (b : Binary) : Nat × Int :=
  (powers.findSome? fun p => (b.digitsAt? p).map (·, p)).getD (0, 0)

/-- Where an exponent is written: when the point stands behind more places than
`most` or before the first digit by `least` or more. -/
structure Layout where
  most : Int
  least : Int

def layout : Layout := ⟨16, -5⟩

/-- The digits of a number with the point in its place. -/
def place (n : Layout) (digits : List Char) (power : Int) : List Char :=
  let point := digits.length + power
  let zeros := fun k : Int => List.replicate k.toNat '0'
  if 0 ≤ power ∧ point ≤ n.most then digits ++ zeros power ++ ['.', '0']
  else if 0 < point ∧ point ≤ n.most then
    digits.take point.toNat ++ '.' :: digits.drop point.toNat
  else if n.least < point ∧ point ≤ 0 then ['0', '.'] ++ zeros (-point) ++ digits
  else
    let fraction := if digits.length = 1 then [] else '.' :: digits.drop 1
    digits.take 1 ++ fraction ++ 'e' :: (point - 1).repr.toList

/-- A number as it is shown. -/
def text (f : Float) : String :=
  let b := Binary.ofFloat f
  let magnitude :=
    if b.mantissa = 0 then ['0', '.', '0']
    else
      let (digits, power) := b.shortest
      place layout digits.repr.toList power
  String.ofList (if b.negative then '-' :: magnitude else magnitude)

end PawnScope.Json.Real
