import PawnScope.Text.Percent

/-! # Tables of code points

Properties of characters are tables of code points. A table is written as a text of hexadecimal
numbers: a hyphen joins the ends of a range, and a number with a colon heads what follows it. -/

namespace PawnScope.Text

/-- The number that hexadecimal digits stand for. -/
def hexNumber (digits : List Char) : Nat :=
  digits.foldl (fun n c => 16 * n + (hexValue? c).getD 0) 0

/-- The parts of a text between blanks and line breaks. -/
def words (s : String) : List (List Char) :=
  (s.toList.splitOnP fun c => c == ' ' || c == '\n').filter (!·.isEmpty)

/-- The ends of a range, which are one if it has a single number. -/
def rangeOf (word : List Char) : Nat × Nat :=
  (hexNumber (word.takeWhile (· != '-')),
    hexNumber (word.reverse.takeWhile (· != '-')).reverse)

/-- A set of code points, as closed ranges. -/
def ranges (s : String) : List (Nat × Nat) := (words s).map rangeOf

/-- The words of a table with headings, each with the number at its head and its place below it. -/
def headed (s : String) : List (Nat × Nat × List Char) :=
  ((words s).foldl (fun (head, place, done) word =>
    if word.getLast? = some ':' then (hexNumber word.dropLast, 0, done)
    else (head, place + 1, (head, place, word) :: done)) (0, 0, [])).2.2.reverse

/-- Sets of code points, each below the number that its members share. -/
def classes (s : String) : List (Nat × Nat × Nat) :=
  (headed s).map fun (head, _, word) => (head, rangeOf word)

/-- The code points from each heading on, with the characters that each stands for. Full stops
join these. -/
def spellings (s : String) : List (Nat × List Char) :=
  (headed s).map fun (head, place, word) =>
    (head + place, (word.splitOn '.').map fun digits => Char.ofNat (hexNumber digits))

/-- A range holds the code point of a character. -/
def covers (range : Nat × Nat) (c : Char) : Bool := range.1 ≤ c.toNat && c.toNat ≤ range.2

/-- A set of code points holds that of a character. -/
def holds (set : List (Nat × Nat)) (c : Char) : Bool := set.any (covers · c)

end PawnScope.Text
