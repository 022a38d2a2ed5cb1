/-! # UTF-8 octets

Paths and percent-encoded text are octets. Octets that are no UTF-8 can still be shown: each
ill-formed part stands as one replacement character. -/

namespace PawnScope.Text

/-- The octets of a text. -/
def octets (s : List Char) : List UInt8 := s.flatMap String.utf8EncodeChar

/-- A continuation octet. -/
def isTail (b : UInt8) : Bool := 0x80 ≤ b && b ≤ 0xBF

/-- Whether `b` may follow the first octet `a` of a character of three or four octets. -/
def isSecond (a b : UInt8) : Bool :=
  if a == 0xE0 then 0xA0 ≤ b && b ≤ 0xBF
  else if a == 0xED then 0x80 ≤ b && b ≤ 0x9F
  else if a == 0xF0 then 0x90 ≤ b && b ≤ 0xBF
  else if a == 0xF4 then 0x80 ≤ b && b ≤ 0x8F
  else isTail b

/-- The character whose octets carry the given payload bits, six to each continuation octet. -/
def assemble (lead : Nat) (rest : List UInt8) : Char :=
  Char.ofNat (rest.foldl (fun n b => n * 64 + (b.toNat - 0x80)) lead)

/-- The first character of the octets `a :: s`, or `none` for an ill-formed part, with the
number of octets of `s` that belong to it. An ill-formed part is the longest start of a
character that breaks off, or one octet that starts none. -/
def decodeFirst (a : UInt8) (s : List UInt8) : Option Char × Nat :=
  if a < 0x80 then (some (Char.ofNat a.toNat), 0)
  else if 0xC2 ≤ a && a ≤ 0xDF then
    match s with
    | b :: _ => if isTail b then (some (assemble (a.toNat - 0xC0) [b]), 1) else (none, 0)
    | [] => (none, 0)
  else if 0xE0 ≤ a && a ≤ 0xEF then
    match s with
    | b :: c :: _ =>
        if isSecond a b then
          if isTail c then (some (assemble (a.toNat - 0xE0) [b, c]), 2) else (none, 1)
        else (none, 0)
    | [b] => (none, if isSecond a b then 1 else 0)
    | [] => (none, 0)
  else if 0xF0 ≤ a && a ≤ 0xF4 then
    match s with
    | b :: c :: d :: _ =>
        if isSecond a b then
          if isTail c then
            if isTail d then (some (assemble (a.toNat - 0xF0) [b, c, d]), 3) else (none, 2)
          else (none, 1)
        else (none, 0)
    | [b, c] => (none, if isSecond a b then if isTail c then 2 else 1 else 0)
    | [b] => (none, if isSecond a b then 1 else 0)
    | [] => (none, 0)
  else (none, 0)

/-- The characters of an octet sequence, with `none` for each ill-formed part. -/
def decodeParts : List UInt8 → List (Option Char)
  | [] => []
  | a :: s =>
      let (c, n) := decodeFirst a s
      c :: decodeParts (s.drop n)
termination_by s => s.length
decreasing_by
  simp only [List.length_cons, List.length_drop]
  omega

/-- The text that has these octets, if they are well-formed. -/
def ofOctets? (s : List UInt8) : Option (List Char) := (decodeParts s).mapM id

/-- The text of the octets, with U+FFFD for each ill-formed part. -/
def ofOctetsLossy (s : List UInt8) : List Char := (decodeParts s).map (·.getD '\uFFFD')

end PawnScope.Text
