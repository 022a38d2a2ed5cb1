/-! # Labels beyond ASCII

A label with characters beyond ASCII is written as its ASCII characters and a code that tells
where the others go, by increasing code point. Each step of the code is a number: how many places
to skip before the next character, where a place is a code point and a position in the label. The
numbers below are the code's constants. -/

namespace PawnScope.Domain.Punycode

/-! ## Numbers -/

/-- The digit for a number below 36. -/
def digit (n : Nat) : Char := Char.ofNat (if n < 26 then 97 + n else 22 + n)

/-- The number below 36 that a digit stands for. -/
def digitValue? (c : Char) : Option Nat :=
  if 'a' ≤ c && c ≤ 'z' then some (c.toNat - 97)
  else if c.isDigit then some (c.toNat - 22)
  else none

/-- How far a digit at a place reaches under the current bias. Only the last digit of a number is
below it. -/
def threshold (bias place : Nat) : Nat := min 26 (max 1 (place - bias))

theorem threshold_pos (bias place : Nat) : 0 < threshold bias place := by
  unfold threshold
  omega

/-- The digits of a number, least significant first; each place has its own base. -/
def digits (bias place n : Nat) : List Char :=
  let t := threshold bias place
  if n < t then [digit n]
  else digit (t + (n - t) % (36 - t)) :: digits bias (place + 36) ((n - t) / (36 - t))
termination_by n
decreasing_by
  have pos := threshold_pos bias place
  have le := Nat.div_le_self (n - threshold bias place) (36 - threshold bias place)
  omega

/-- The weights and sums of a number stay below this. -/
def limit : Nat := 0x100000000

/-- Reads a number, whose digits so far sum up to `sum`, and the text after it. -/
def number? (bias : Nat) : List Char → Nat → Nat → Nat → Option (Nat × List Char)
  | [], _, _, _ => none
  | c :: rest, place, weight, sum => do
      let d ← digitValue? c
      let t := threshold bias place
      let total := sum + d * weight
      if limit ≤ total then none
      else if d < t then some (total, rest)
      else if limit ≤ weight * (36 - t) then none
      else number? bias rest (place + 36) (weight * (36 - t)) total

theorem number?_length {bias : Nat} {s rest : List Char} {place weight sum n : Nat}
    (h : number? bias s place weight sum = some (n, rest)) : rest.length < s.length := by
  induction s generalizing place weight sum with
  | nil => simp [number?] at h
  | cons c s ih =>
    cases hd : digitValue? c with
    | none => simp [number?, hd] at h
    | some d =>
      simp only [number?, hd, Option.bind_eq_bind, Option.bind_some] at h
      split at h
      · simp at h
      · split at h
        · simp only [Option.some.injEq, Prod.mk.injEq] at h
          simp [← h.2]
        · split at h
          · simp at h
          · have shorter := ih h
            simp only [List.length_cons]
            omega

/-- Divides out the average growth of the numbers so far. -/
def settleBias (delta bias : Nat) : Nat :=
  if 455 < delta then settleBias (delta / 35) (bias + 36) else bias + 36 * delta / (delta + 38)
termination_by delta
decreasing_by exact Nat.div_lt_self (by omega) (by omega)

/-- The bias after a number, when `count` characters are in place. -/
def adapt (delta count : Nat) (first : Bool) : Nat :=
  let scaled := if first then delta / 700 else delta / 2
  settleBias (scaled + scaled / count) 0

/-! ## Writing -/

/-- A label while it is written: the last code point, the places to skip, the bias, how many
characters are in place, and the digits. -/
structure Writer where
  point : Nat := 128
  delta : Nat := 0
  bias : Nat := 72
  count : Nat
  first : Bool := true
  out : List Char := []

/-- Writes the places of code point `m`, the least that is not written yet. -/
def Writer.writePoint (label : List Char) (w : Writer) (m : Nat) : Writer :=
  let start := { w with delta := w.delta + (m - w.point) * (w.count + 1), point := m }
  let done := label.foldl (fun (w : Writer) c =>
    if c.toNat < m then { w with delta := w.delta + 1 }
    else if c.toNat = m then
      { w with
        out := w.out ++ digits w.bias 36 w.delta
        bias := adapt w.delta (w.count + 1) w.first
        delta := 0
        count := w.count + 1
        first := false }
    else w) start
  { done with delta := done.delta + 1, point := m + 1 }

/-- The code points of a label beyond ASCII, once each, in increasing order. -/
def beyondAscii (label : List Char) : List Nat :=
  ((label.filter (128 ≤ ·.toNat)).map (·.toNat)).mergeSort.eraseDups

/-- The code of a label. -/
def encode (label : List Char) : List Char :=
  let ascii := label.filter (·.toNat < 128)
  let coded := (beyondAscii label).foldl (Writer.writePoint label) { count := ascii.length }
  (if ascii.isEmpty then [] else ascii ++ ['-']) ++ coded.out

/-! ## Reading -/

/-- A label while it is read: the last code point, the position in the label, and the bias. -/
structure Reader where
  point : Nat := 128
  position : Nat := 0
  bias : Nat := 72
  first : Bool := true
  label : List Char

/-- Puts in the character that a number leads to, unless there is none. -/
def Reader.advance? (r : Reader) (n : Nat) : Option Reader :=
  let room := r.label.length + 1
  let point := r.point + (r.position + n) / room
  let position := (r.position + n) % room
  if point.isValidChar ∧ r.position + n < limit then
    some
      { point := point
        position := position + 1
        bias := adapt n room r.first
        first := false
        label := r.label.insertIdx position (Char.ofNat point) }
  else none

/-- Reads numbers to the end of the text. -/
def Reader.run? (r : Reader) (s : List Char) : Option (List Char) :=
  if s.isEmpty then some r.label
  else
    match _h : number? r.bias s 36 1 0 with
    | none => none
    | some (n, rest) =>
        match r.advance? n with
        | none => none
        | some next => next.run? rest
termination_by s.length
decreasing_by exact number?_length _h

/-- The ASCII characters that a code starts with, and its numbers. -/
def cut (code : List Char) : List Char × List Char :=
  let numbers := (code.reverse.takeWhile (· != '-')).reverse
  let ascii := code.take (code.length - numbers.length - 1)
  if ascii.isEmpty then ([], code) else (ascii, numbers)

/-- The label of a code. -/
def decode? (code : List Char) : Option (List Char) :=
  let (ascii, numbers) := cut code
  Reader.run? { label := ascii } numbers

end PawnScope.Domain.Punycode
