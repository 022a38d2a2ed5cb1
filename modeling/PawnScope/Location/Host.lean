import PawnScope.Domain

/-! # Hosts

The host of a location is a domain name, an IPv4 address or an IPv6 address in brackets. Each is
rewritten into its normal form. -/

namespace PawnScope

/-- Why a text is not a location. -/
inductive LocationError where
  | relative
  | emptyHost
  | invalidPort
  | invalidIpv4
  | invalidIpv6
  | invalidDomain
  | invalidCharacter
  deriving DecidableEq, Repr

namespace LocationError

def message : LocationError → String
  | relative => "relative URL without a base"
  | emptyHost => "empty host"
  | invalidPort => "invalid port number"
  | invalidIpv4 => "invalid IPv4 address"
  | invalidIpv6 => "invalid IPv6 address"
  | invalidDomain => "invalid international domain name"
  | invalidCharacter => "invalid domain character"

end LocationError

namespace Host

open Text

/-! ## IPv4 -/

/-- The number that a digit text stands for in a base. -/
def number? (base : Nat) (digits : List Char) : Option Nat :=
  digits.foldlM (fun n c => do
    let d ← hexValue? c
    if d < base then some (n * base + d) else none) 0

/-- A part of an IPv4 address: hexadecimal after `0x`, octal after `0`, else decimal. -/
def ipv4Number? : List Char → Option Nat
  | [] => none
  | '0' :: 'x' :: digits => number? 16 digits
  | '0' :: 'X' :: digits => number? 16 digits
  | '0' :: d :: digits => number? 8 (d :: digits)
  | digits => number? 10 digits

/-- The parts of a dotted name, without an empty part after a final dot. -/
def dottedParts (domain : List Char) : List (List Char) :=
  let parts := domain.splitOn '.'
  if parts.length > 1 ∧ parts.getLast? = some [] then parts.dropLast else parts

/-- A domain whose last part is a number is read as an IPv4 address. -/
def endsInNumber (domain : List Char) : Bool :=
  match (dottedParts domain).getLast? with
  | none => false
  | some last => !last.isEmpty && (last.all Char.isDigit || (ipv4Number? last).isSome)

/-- The address that the numbers of a dotted name make, below `room`: all but the last are octets,
and the last fills what is left. -/
def ipv4Value? : List Nat → Nat → Option Nat
  | [], _ => none
  | [last], room => if last < room then some last else none
  | octet :: rest, room =>
      if octet < 256 ∧ 256 < room then
        (ipv4Value? rest (room / 256)).map (octet * (room / 256) + ·)
      else none

/-- The number of IPv4 addresses. -/
def ipv4Count : Nat := 0x100000000

def ipv4? (domain : List Char) : Option Nat := do
  let parts := dottedParts domain
  if parts.length ≤ 4 then ipv4Value? (← parts.mapM ipv4Number?) ipv4Count else none

def ipv4Text (address : Nat) : String :=
  ".".intercalate ([0x1000000, 0x10000, 0x100, 1].map fun unit => (address / unit % 256).repr)

/-! ## IPv6 -/

/-- A group of one to four hexadecimal digits. -/
def group? (digits : List Char) : Option Nat :=
  if digits.isEmpty ∨ 4 < digits.length then none else number? 16 digits

/-- A decimal octet without leading zeros. -/
def plainOctet? (digits : List Char) : Option Nat :=
  if digits.isEmpty ∨ 3 < digits.length ∨ (digits.head? = some '0' ∧ 1 < digits.length) then none
  else (number? 10 digits).filter (· < 256)

/-- The two groups of an IPv4 address in dotted decimal notation. -/
def dottedGroups? (s : List Char) : Option (List Nat) :=
  match (s.splitOn '.').mapM plainOctet? with
  | some [a, b, c, d] => some [a * 256 + b, c * 256 + d]
  | _ => none

/-- The groups between colons; the last may be an IPv4 address if `dotted`. -/
def groups? (dotted : Bool) (s : List Char) : Option (List Nat) :=
  if s.isEmpty then some []
  else
    let parts := s.splitOn ':'
    match parts.getLast? with
    | none => none
    | some last => do
        let front ← parts.dropLast.mapM group?
        if dotted && last.contains '.' then some (front ++ (← dottedGroups? last))
        else some (front ++ [← group? last])

/-- Divides a text at its first double colon. -/
def cutDoubleColon : List Char → Option (List Char × List Char)
  | ':' :: ':' :: s => some ([], s)
  | c :: s => (cutDoubleColon s).map fun (a, b) => (c :: a, b)
  | [] => none

/-- The eight groups of an IPv6 address; a double colon stands for one or more zero groups. -/
def ipv6? (s : List Char) : Option (List Nat) :=
  match cutDoubleColon s with
  | none => (groups? true s).filter (·.length = 8)
  | some (a, b) => do
      let front ← groups? false a
      let back ← groups? true b
      if front.length + back.length < 8 then
        some (front ++ List.replicate (8 - front.length - back.length) 0 ++ back)
      else none

/-- The length of the run of zeros at the start. -/
def zeroRun (groups : List Nat) : Nat := (groups.takeWhile (· = 0)).length

/-- The longest run of two or more zeros, the first of the longest, as position and length. -/
def longestZeroRun (groups : List Nat) : Option (Nat × Nat) :=
  let runs := (List.range groups.length).map fun i => (i, zeroRun (groups.drop i))
  runs.foldl (fun best run =>
    match best with
    | none => if 2 ≤ run.2 then some run else none
    | some b => if b.2 < run.2 then some run else best) none

def groupText (n : Nat) : String := String.ofList (Nat.toDigits 16 n)

def ipv6Text (groups : List Nat) : String :=
  let join := fun gs => ":".intercalate (gs.map groupText)
  match longestZeroRun groups with
  | none => "[" ++ join groups ++ "]"
  | some (i, n) => "[" ++ join (groups.take i) ++ "::" ++ join (groups.drop (i + n)) ++ "]"

/-! ## Hosts -/

/-- The characters that no host of an unknown scheme may hold. -/
def rawHostReserved : List Char :=
  ['\x00', '\t', '\n', '\r', ' ', '#', '/', ':', '<', '>', '?', '@', '[', '\\', ']', '^', '|']

/-- The text between brackets, if the host starts with one. -/
def bracketed? : List Char → Option (Option (List Char))
  | '[' :: s => some (if s.getLast? = some ']' then some s.dropLast else none)
  | _ => none

/-- The normal form of a bracketed address. -/
def ipv6Host (inner : Option (List Char)) : Except LocationError String :=
  match inner.bind ipv6? with
  | none => .error .invalidIpv6
  | some groups => .ok (ipv6Text groups)

/-- The host of a location whose scheme has known rules. -/
def read (s : List Char) : Except LocationError String :=
  match bracketed? s with
  | some inner => ipv6Host inner
  | none =>
      match (ofOctets? (percentDecode s)).bind Domain.ascii? with
      | none => .error .invalidDomain
      | some domain =>
          if domain.isEmpty then .error .emptyHost
          else if endsInNumber domain then
            match ipv4? domain with
            | none => .error .invalidIpv4
            | some address => .ok (ipv4Text address)
          else .ok (String.ofList domain)

/-- The host of a location whose scheme has no known rules: kept as written. -/
def readRaw (s : List Char) : Except LocationError String :=
  match bracketed? s with
  | some inner => ipv6Host inner
  | none =>
      if s.any rawHostReserved.contains then .error .invalidCharacter
      else .ok (String.ofList (percentEncode [] s))

end Host

end PawnScope
