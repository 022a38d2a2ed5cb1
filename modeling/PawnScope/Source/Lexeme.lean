import PawnScope.Text.Space
import PawnScope.Text.Word

/-! # Lexemes

The small readers from which the shapes of declarations are put together. Each takes a text and
gives what follows the lexeme, or nothing if the text does not start with it. -/

namespace PawnScope.Source

open Text

/-- What follows `w` in a text that starts with it. -/
def after? : List Char → List Char → Option (List Char)
  | [], s => some s
  | _ :: _, [] => none
  | c :: w, d :: s => if c = d then after? w s else none

theorem after?_eq_some_iff {w s rest : List Char} : after? w s = some rest ↔ s = w ++ rest := by
  induction w generalizing s with
  | nil => simp [after?]
  | cons c w ih =>
      cases s with
      | nil => simp [after?]
      | cons d s =>
          by_cases h : c = d
          · simp [after?, h, ih]
          · simp [after?, h, Ne.symm h]

/-- The text after a fixed word. -/
def literal? (word : String) (s : List Char) : Option (List Char) := after? word.toList s

/-- The text after white space, of which there is some. -/
def spaces? : List Char → Option (List Char)
  | [] => none
  | c :: s => if isSpace c then some (trimStart s) else none

/-- The text after a word and the white space that ends it. -/
def word? (word : String) (s : List Char) : Option (List Char) := do spaces? (← literal? word s)

/-- The text after one of several words and the white space that ends it. -/
def oneOf? (words : List String) (s : List Char) : Option (List Char) :=
  words.findSome? fun w => word? w s

/-- The text after an opening parenthesis or other mark, before which white space may stand. -/
def mark? (c : Char) (s : List Char) : Option (List Char) :=
  match trimStart s with
  | [] => none
  | d :: rest => if d = c then some rest else none

/-- An empty pair of brackets, with white space before and inside it, as it is written. -/
def emptyBrackets? (s : List Char) : Option (List Char × List Char) :=
  match trimStart s with
  | '[' :: inner =>
      match trimStart inner with
      | ']' :: rest =>
          some (s.takeWhile isSpace ++ '[' :: inner.takeWhile isSpace ++ [']'], rest)
      | _ => none
  | _ => none

/-- A type, as it is written: a name and an optional pair of empty brackets. -/
def type? (s : List Char) : Option (List Char × List Char) := do
  let (name, rest) ← name? s
  match emptyBrackets? rest with
  | some (brackets, rest') => some (name ++ brackets, rest')
  | none => some (name, rest)

theorem length_lt_of_spaces? {s rest : List Char} (h : spaces? s = some rest) :
    rest.length < s.length := by
  cases s with
  | nil => simp [spaces?] at h
  | cons c s =>
      simp only [spaces?] at h
      split at h
      · simp only [Option.some.injEq] at h
        have := (List.dropWhile_suffix isSpace (l := s)).length_le
        simp only [← h, trimStart, List.length_cons]
        omega
      · simp at h

theorem length_le_of_literal? {w : String} {s rest : List Char} (h : literal? w s = some rest) :
    rest.length ≤ s.length := by
  simp [after?_eq_some_iff.mp h]

theorem length_lt_of_word? {w : String} {s rest : List Char} (h : word? w s = some rest) :
    rest.length < s.length := by
  obtain ⟨t, ht, hr⟩ := Option.bind_eq_some_iff.mp h
  exact Nat.lt_of_lt_of_le (length_lt_of_spaces? hr) (length_le_of_literal? ht)

theorem length_lt_of_oneOf? {ws : List String} {s rest : List Char}
    (h : oneOf? ws s = some rest) : rest.length < s.length := by
  obtain ⟨w, -, hw⟩ := List.exists_of_findSome?_eq_some h
  exact length_lt_of_word? hw

/-- The text after array dimensions, each a pair of brackets with anything but a closing bracket
inside. White space may stand before, between and after them. -/
def dimensions (s : List Char) : List Char :=
  match _h : trimStart s with
  | '[' :: inner =>
      match _k : inner.dropWhile (· != ']') with
      | _ :: rest => dimensions rest
      | [] => '[' :: inner
  | rest => rest
termination_by s.length
decreasing_by
  have h₁ := (List.dropWhile_suffix isSpace (l := s)).length_le
  have h₂ := (List.dropWhile_suffix (· != ']') (l := inner)).length_le
  rw [trimStart] at _h
  rw [_h] at h₁
  rw [_k] at h₂
  simp only [List.length_cons] at h₁ h₂
  omega

/-- The texts after a run of modifiers, the longest run first and no modifier last, each with
whether a modifier was read. -/
def modifiers (words : List String) (s : List Char) (read : Bool := false) :
    List (Bool × List Char) :=
  match _h : oneOf? words s with
  | none => [(read, s)]
  | some rest => modifiers words rest true ++ [(read, s)]
termination_by s.length
decreasing_by exact length_lt_of_oneOf? _h

/-- The words that cannot name a declaration. -/
def keywords : List String :=
  ["if", "else", "for", "while", "do", "switch", "case", "default", "return", "sizeof",
   "view_as", "new", "delete", "break", "continue", "decl", "static", "const", "public",
   "stock", "native", "forward", "methodmap", "enum", "struct", "typedef", "typeset",
   "property", "using", "funcenum", "functag"]

def isKeyword (s : List Char) : Bool := keywords.any fun w => w.toList == s

end PawnScope.Source
