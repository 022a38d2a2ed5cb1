import PawnScope.Cursor
import PawnScope.Proofs.Text.Division
import Mathlib.Data.List.TakeWhile

/-! # Dividing a line at the cursor

What is read off the characters around the cursor can be said by dividing the text: before the
cursor into what precedes a call, its name and its arguments, or into what precedes a dot and the
identifier after it; and the whole line into what precedes the word that the cursor touches, the
word and what follows it. Nothing else is read, and each division says it all. -/

namespace PawnScope.Cursor

open Text

/-! ## Identifiers -/

/-- An ASCII letter, an ASCII digit or an underscore. -/
def IsIdentLetter (c : Char) : Prop :=
  ('A' ≤ c ∧ c ≤ 'Z') ∨ ('a' ≤ c ∧ c ≤ 'z') ∨ ('0' ≤ c ∧ c ≤ '9') ∨ c = '_'

theorem isIdentChar_iff {c : Char} : isIdentChar c = true ↔ IsIdentLetter c := by
  have hupper : c.isUpper = true ↔ 'A' ≤ c ∧ c ≤ 'Z' := decide_eq_true_iff
  have hlower : c.isLower = true ↔ 'a' ≤ c ∧ c ≤ 'z' :=
    Bool.and_eq_true_iff.trans (and_congr decide_eq_true_iff decide_eq_true_iff)
  have hdigit : c.isDigit = true ↔ '0' ≤ c ∧ c ≤ '9' :=
    Bool.and_eq_true_iff.trans (and_congr decide_eq_true_iff decide_eq_true_iff)
  have halpha : c.isAlpha = (c.isUpper || c.isLower) := rfl
  simp [isIdentChar, IsIdentLetter, Char.isAlphanum, halpha, hupper, hlower, hdigit, or_assoc]

/-- The text is an identifier, or empty. -/
def IsRun (s : List Char) : Prop := ∀ c ∈ s, IsIdentLetter c

/-- No identifier ends where the text ends. -/
def EndsOutside (s : List Char) : Prop := ∀ c ∈ s.getLast?, ¬IsIdentLetter c

/-- No identifier starts where the text starts. -/
def StartsOutside (s : List Char) : Prop := ∀ c ∈ s.head?, ¬IsIdentLetter c

theorem isRun_iff {s : List Char} : IsRun s ↔ ∀ c ∈ s, isIdentChar c = true := by
  simp only [IsRun, isIdentChar_iff]

theorem startsOutside_iff {s : List Char} :
    StartsOutside s ↔ ∀ c ∈ s.head?, isIdentChar c = false := by
  simp only [StartsOutside, ← isIdentChar_iff, Bool.not_eq_true]

theorem IsRun.reverse {s : List Char} (h : IsRun s) : IsRun s.reverse :=
  fun c hc => h c (List.mem_reverse.mp hc)

theorem EndsOutside.reverse {s : List Char} (h : EndsOutside s) : StartsOutside s.reverse := by
  rw [StartsOutside, List.head?_reverse]
  exact h

theorem isRun_takeWhile (s : List Char) : IsRun (s.takeWhile isIdentChar) :=
  isRun_iff.mpr fun _ hc => List.mem_takeWhile_imp hc

theorem startsOutside_dropWhile (s : List Char) : StartsOutside (s.dropWhile isIdentChar) :=
  startsOutside_iff.mpr fun _ hc => by
    simpa [Option.mem_def.mp hc] using List.head?_dropWhile_not isIdentChar s

/-- The characters of an identifier that nothing continues are all that is read of it. -/
theorem takeWhile_run {word rest : List Char} (hword : IsRun word) (hrest : StartsOutside rest) :
    (word ++ rest).takeWhile isIdentChar = word :=
  takeWhile_append_eq_left (isRun_iff.mp hword) (startsOutside_iff.mp hrest)

/-! ## The call around the cursor -/

/-- The text before the cursor ends in a call: its name, which nothing continues to the left, the
parenthesis, and the arguments, in which no other parenthesis opens. -/
structure IsCallEnd (before front name arguments : List Char) : Prop where
  text_eq : before = front ++ name ++ '(' :: arguments
  name_ne_nil : name ≠ []
  name_run : IsRun name
  front_ends : EndsOutside front
  paren_notMem : '(' ∉ arguments

/-- Without a closing parenthesis right before the cursor, the call is the one in which the text
before the cursor ends. -/
theorem call?_of_isCallEnd {line front name arguments : List Char} {column : Nat}
    (hclosed : (line.take column).getLast? ≠ some ')')
    (h : IsCallEnd (line.take column) front name arguments) :
    call? line column = some ⟨String.ofList name, arguments.count ','⟩ := by
  have hbackward : (line.take column).reverse =
      arguments.reverse ++ '(' :: (name.reverse ++ front.reverse) := by
    rw [h.text_eq]
    simp
  have harguments : (line.take column).reverse.takeWhile (· != '(') = arguments.reverse := by
    rw [hbackward]
    exact takeWhile_append_cons (by simpa using h.paren_notMem) _
  have hopened : (line.take column).reverse.dropWhile (· != '(') =
      '(' :: (name.reverse ++ front.reverse) := by
    have happend := List.takeWhile_append_dropWhile (p := (· != '('))
      (l := (line.take column).reverse)
    rw [harguments, hbackward] at happend
    rw [hbackward]
    exact List.append_cancel_left happend
  have hname := takeWhile_run h.name_run.reverse h.front_ends.reverse
  simp [call?, hclosed, harguments, hopened, hname, h.name_ne_nil]

theorem exists_isCallEnd_of_call? {line : List Char} {column : Nat} {call : Call}
    (h : call? line column = some call) :
    (line.take column).getLast? ≠ some ')' ∧
      ∃ front arguments, IsCallEnd (line.take column) front call.name.toList arguments ∧
        call.activeParameter = arguments.count ',' := by
  unfold call? at h
  simp only at h
  split at h
  · cases h
  · rename_i hclosed
    split at h
    · cases h
    · rename_i hname
      obtain rfl := Option.some.inj h
      rw [List.head?_reverse] at hclosed
      refine ⟨hclosed, ?_⟩
      -- The name is not empty, so that there is a parenthesis before it.
      cases hopened : (line.take column).reverse.dropWhile (· != '(') with
      | nil => simp [hopened] at hname
      | cons c opened =>
          have hc : c = '(' := by
            simpa [hopened] using List.head?_dropWhile_not (· != '(') (line.take column).reverse
          subst hc
          rw [hopened, List.drop_one, List.tail_cons] at hname
          have hbackward : (line.take column).reverse =
              (line.take column).reverse.takeWhile (· != '(') ++ '(' :: opened := by
            rw [← hopened, List.takeWhile_append_dropWhile]
          refine ⟨(opened.dropWhile isIdentChar).reverse,
            ((line.take column).reverse.takeWhile (· != '(')).reverse, ⟨?_, ?_, ?_, ?_, ?_⟩, ?_⟩
          · rw [String.toList_ofList, List.drop_one, List.tail_cons, ← List.reverse_append,
              List.takeWhile_append_dropWhile]
            simpa using congrArg List.reverse hbackward
          · simpa using hname
          · simpa using (isRun_takeWhile opened).reverse
          · rw [EndsOutside, List.getLast?_reverse]
            exact startsOutside_dropWhile opened
          · intro hmem
            simpa using List.mem_takeWhile_imp (List.mem_reverse.mp hmem)
          · simp

theorem isMemberAccess_iff {line : List Char} {column : Nat} :
    isMemberAccess line column = true ↔
      ∃ front ident, line.take column = front ++ '.' :: ident ∧ IsRun ident := by
  rw [isMemberAccess, beq_iff_eq]
  constructor
  · intro h
    obtain ⟨rest, hrest⟩ := List.head?_eq_some_iff.mp h
    refine ⟨rest.reverse, ((line.take column).reverse.takeWhile isIdentChar).reverse, ?_,
      (isRun_takeWhile _).reverse⟩
    rw [← List.reverse_inj]
    simp [← hrest]
  · rintro ⟨front, ident, htext, hident⟩
    have hdot : isIdentChar '.' = false := by decide
    rw [htext, List.reverse_append, List.reverse_cons, List.append_assoc,
      List.dropWhile_append_of_pos (isRun_iff.mp hident.reverse)]
    simp [hdot]

/-- Which call the cursor is in: the one in which the text before the cursor ends, with as many
commas in it as there are arguments before the one under the cursor, and none right after a closing
parenthesis. A member is being named exactly if the text ends in a dot and an identifier, which may
be empty. -/
theorem call?_and_isMemberAccess_iff (line : List Char) (column : Nat) :
    (∀ name k, call? line column = some ⟨name, k⟩ ↔
      (line.take column).getLast? ≠ some ')' ∧
        ∃ front arguments, IsCallEnd (line.take column) front name.toList arguments ∧
          k = arguments.count ',') ∧
      (isMemberAccess line column = true ↔
        ∃ front ident, line.take column = front ++ '.' :: ident ∧ IsRun ident) := by
  refine ⟨fun name k => ⟨exists_isCallEnd_of_call?, ?_⟩, isMemberAccess_iff⟩
  rintro ⟨hclosed, front, arguments, hend, rfl⟩
  rw [call?_of_isCallEnd hclosed hend, String.ofList_toList]

-- A nested call is not left at its closing parenthesis.
example : call? "Outer(Inner(1, 2), ".toList 19 = some ⟨"Inner", 2⟩ := by decide

/-! ## The word at the cursor -/

/-- A line is divided by a word, which is all of an identifier. -/
structure IsWordIn (line front word back : List Char) : Prop where
  line_eq : line = front ++ word ++ back
  word_ne_nil : word ≠ []
  word_run : IsRun word
  front_ends : EndsOutside front
  back_starts : StartsOutside back

/-- A line is divided by the cursor, and on either side by the end of the identifier there. -/
structure IsCutAt (line : List Char) (column : Nat) (front left right back : List Char) : Prop where
  before_eq : line.take column = front ++ left
  after_eq : line.drop column = right ++ back
  left_run : IsRun left
  right_run : IsRun right
  front_ends : EndsOutside front
  back_starts : StartsOutside back

theorem exists_isCutAt (line : List Char) (column : Nat) :
    ∃ front left right back, IsCutAt line column front left right back := by
  refine ⟨((line.take column).reverse.dropWhile isIdentChar).reverse,
    ((line.take column).reverse.takeWhile isIdentChar).reverse,
    (line.drop column).takeWhile isIdentChar, (line.drop column).dropWhile isIdentChar,
    ?_, ?_, (isRun_takeWhile _).reverse, isRun_takeWhile _, ?_, startsOutside_dropWhile _⟩
  · rw [← List.reverse_append, List.takeWhile_append_dropWhile, List.reverse_reverse]
  · rw [List.takeWhile_append_dropWhile]
  · rw [EndsOutside, List.getLast?_reverse]
    exact startsOutside_dropWhile _

/-- The two parts of an identifier at the cursor make up the word. -/
theorem IsCutAt.word?_eq {line front left right back : List Char} {column : Nat}
    (h : IsCutAt line column front left right back) :
    word? line column =
      if (left ++ right).isEmpty then none else some (String.ofList (left ++ right)) := by
  have hleft : ((line.take column).reverse.takeWhile isIdentChar).reverse = left := by
    rw [h.before_eq, List.reverse_append, takeWhile_run h.left_run.reverse h.front_ends.reverse,
      List.reverse_reverse]
  have hright : (line.drop column).takeWhile isIdentChar = right := by
    rw [h.after_eq, takeWhile_run h.right_run h.back_starts]
  simp only [word?, hleft, hright]

/-- A cursor inside a word or at one of its ends divides the word. -/
theorem IsWordIn.isCutAt {line front word back : List Char} (h : IsWordIn line front word back)
    {column i : Nat} (hcolumn : min column line.length = front.length + i) (hi : i ≤ word.length) :
    IsCutAt line column front (word.take i) (word.drop i) back := by
  have hbefore : line.take column = front ++ word.take i := by
    calc line.take column = line.take (front.length + i) := by
          rw [List.take_eq_take_iff]
          omega
      _ = front ++ word.take i := by
          rw [h.line_eq, List.append_assoc, List.take_length_add_append,
            List.take_append_of_le_length hi]
  have hafter : line.drop column = word.drop i ++ back := by
    have hline : line.take column ++ line.drop column =
        line.take column ++ (word.drop i ++ back) := by
      rw [List.take_append_drop, hbefore, List.append_assoc, ← List.append_assoc (word.take i),
        List.take_append_drop, ← List.append_assoc]
      exact h.line_eq
    exact List.append_cancel_left hline
  exact ⟨hbefore, hafter, fun c hc => h.word_run c (List.mem_of_mem_take hc),
    fun c hc => h.word_run c (List.mem_of_mem_drop hc), h.front_ends, h.back_starts⟩

theorem word?_of_isWordIn {line front word back : List Char} (h : IsWordIn line front word back)
    {column : Nat} (hstart : front.length ≤ min column line.length)
    (hstop : min column line.length ≤ front.length + word.length) :
    word? line column = some (String.ofList word) := by
  obtain ⟨i, hi⟩ := Nat.exists_eq_add_of_le hstart
  rw [(h.isCutAt hi (by omega)).word?_eq, List.take_append_drop]
  simp [h.word_ne_nil]

theorem exists_isWordIn_of_word? {line : List Char} {column : Nat} {w : String}
    (h : word? line column = some w) :
    ∃ front back, IsWordIn line front w.toList back ∧ front.length ≤ min column line.length ∧
      min column line.length ≤ front.length + w.toList.length := by
  obtain ⟨front, left, right, back, hcut⟩ := exists_isCutAt line column
  rw [hcut.word?_eq] at h
  split at h
  · cases h
  · rename_i hne
    obtain rfl := Option.some.inj h
    have hlength : min column line.length = front.length + left.length := by
      rw [← List.length_take, hcut.before_eq, List.length_append]
    rw [String.toList_ofList, List.length_append]
    refine ⟨front, back, ⟨?_, by simpa using hne, ?_, hcut.front_ends, hcut.back_starts⟩, ?_, ?_⟩
    · rw [← List.take_append_drop column line, hcut.before_eq, hcut.after_eq]
      simp
    · intro c hc
      rcases List.mem_append.mp hc with hc | hc
      · exact hcut.left_run c hc
      · exact hcut.right_run c hc
    · omega
    · omega

/-- The word at the cursor is the one that the cursor, at the end of the line if the column is
beyond it, is in or at an end of. So every column from the start of a word to its end gives the
word. -/
theorem word?_eq_some_iff (line : List Char) :
    (∀ column w, word? line column = some w ↔
      ∃ front back, IsWordIn line front w.toList back ∧
        front.length ≤ min column line.length ∧
        min column line.length ≤ front.length + w.toList.length) ∧
      ∀ front word back, IsWordIn line front word back →
        ∀ column, front.length ≤ column → column ≤ front.length + word.length →
          word? line column = some (String.ofList word) := by
  constructor
  · intro column w
    constructor
    · exact exists_isWordIn_of_word?
    · rintro ⟨front, back, hword, hstart, hstop⟩
      rw [word?_of_isWordIn hword hstart hstop, String.ofList_toList]
  · intro front word back hword column hstart hstop
    have hinside : column ≤ line.length := by
      rw [hword.line_eq, List.length_append, List.length_append]
      omega
    apply word?_of_isWordIn hword
    · omega
    · omega

end PawnScope.Cursor
