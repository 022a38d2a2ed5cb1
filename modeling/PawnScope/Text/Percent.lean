import PawnScope.Text.Octets

/-! # Percent-encoding

An octet is written as a percent sign and two hexadecimal digits when its place in a location
does not admit it as it is. Octets beyond ASCII and control characters are always written so. -/

namespace PawnScope.Text

/-- The upper-case hexadecimal digit of a number below sixteen. -/
def hexDigit (n : Nat) : Char := if n < 10 then Char.ofNat (48 + n) else Char.ofNat (55 + n)

/-- The value of a hexadecimal digit of either case. -/
def hexValue? (c : Char) : Option Nat :=
  if c.isDigit then some (c.toNat - 48)
  else if 'a' ≤ c && c ≤ 'f' then some (c.toNat - 87)
  else if 'A' ≤ c && c ≤ 'F' then some (c.toNat - 55)
  else none

/-- Writes an octet, as it is unless it is a control, beyond ASCII or in `reserved`. -/
def percentByte (reserved : List Char) (b : UInt8) : List Char :=
  let c := Char.ofNat b.toNat
  if b < 0x20 || 0x7F ≤ b || reserved.contains c then
    ['%', hexDigit (b.toNat / 16), hexDigit (b.toNat % 16)]
  else [c]

/-- Percent-encodes octets. -/
def percentOctets (reserved : List Char) (s : List UInt8) : List Char :=
  s.flatMap (percentByte reserved)

/-- Percent-encodes a text. -/
def percentEncode (reserved : List Char) (s : List Char) : List Char :=
  percentOctets reserved (octets s)

/-- The octets that a percent-encoded text stands for. A percent sign that two hexadecimal
digits do not follow stands for itself. -/
def percentDecode : List Char → List UInt8
  | [] => []
  | '%' :: h :: l :: s =>
      match hexValue? h, hexValue? l with
      | some x, some y => UInt8.ofNat (16 * x + y) :: percentDecode s
      | _, _ => 37 :: percentDecode (h :: l :: s)
  | c :: s => String.utf8EncodeChar c ++ percentDecode s

end PawnScope.Text
