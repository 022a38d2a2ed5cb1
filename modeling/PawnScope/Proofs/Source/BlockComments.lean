import PawnScope.Proofs.Source.Directives

/-! # Block comments, character by character

Block comments are taken out by searching for one sign after the other. This gives what a reader
gives that looks at one character after the other and knows no more than whether it is inside a
comment. Such a reader may stop at the end of each line and go on with the next: no sign goes over a
line break, so that a text is read line by line as it is read in one go. -/

namespace PawnScope.Source

/-! ## The reader of characters -/

/-- Reads a text from its first character on, inside a comment or not. Outside, everything is kept
up to the sign that opens a comment; inside, everything is left out up to the sign that closes it.
The characters of a sign belong to no other sign. -/
def readBlocks : Bool → List Char → List Char × Bool
  | inside, [] => ([], inside)
  | false, '/' :: '*' :: s => readBlocks true s
  | true, '*' :: '/' :: s => readBlocks false s
  | false, c :: s =>
      let (visible, inside') := readBlocks false s
      (c :: visible, inside')
  | true, _ :: s => readBlocks true s

theorem readBlocks_false_cons {c : Char} {s : List Char} (h : ¬(c = '/' ∧ s.head? = some '*')) :
    readBlocks false (c :: s) = (c :: (readBlocks false s).1, (readBlocks false s).2) := by
  rw [readBlocks]
  rintro t rfl rfl
  exact h ⟨rfl, rfl⟩

theorem readBlocks_true_cons {c : Char} {s : List Char} (h : ¬(c = '*' ∧ s.head? = some '/')) :
    readBlocks true (c :: s) = readBlocks true s := by
  rw [readBlocks]
  rintro t rfl rfl
  exact h ⟨rfl, rfl⟩

/-- The first sign divides a text, or no two characters in a row are the sign. -/
theorem cutAt_cons_cases (a b c : Char) (s : List Char) :
    (∃ rest, c = a ∧ s = b :: rest ∧ cutAt a b (c :: s) = some ([], rest)) ∨
      (¬(c = a ∧ s.head? = some b) ∧
        cutAt a b (c :: s) = (cutAt a b s).map fun (front, back) => (c :: front, back)) := by
  cases s with
  | nil => exact Or.inr ⟨by simp, rfl⟩
  | cons d s =>
      by_cases h : c = a ∧ d = b
      · exact Or.inl ⟨s, h.1, by rw [h.2], if_pos h⟩
      · exact Or.inr ⟨by simpa using h, if_neg h⟩

/-- Outside a comment, the reader keeps the text up to the first opening sign. -/
theorem readBlocks_false_eq (s : List Char) :
    readBlocks false s =
      match cutAt '/' '*' s with
      | none => (s, false)
      | some (front, rest) => (front ++ (readBlocks true rest).1, (readBlocks true rest).2) := by
  induction s with
  | nil => rfl
  | cons c s ih =>
      obtain ⟨rest, rfl, rfl, hcut⟩ | ⟨hsign, hcut⟩ := cutAt_cons_cases '/' '*' c s
      · rw [hcut]
        rfl
      · rw [readBlocks_false_cons hsign, ih, hcut]
        cases cutAt '/' '*' s with
        | none => rfl
        | some parts => rfl

/-- Inside a comment, the reader leaves the text out up to the first closing sign. -/
theorem readBlocks_true_eq (s : List Char) :
    readBlocks true s =
      match cutAt '*' '/' s with
      | none => ([], true)
      | some (_, rest) => readBlocks false rest := by
  induction s with
  | nil => rfl
  | cons c s ih =>
      obtain ⟨rest, rfl, rfl, hcut⟩ | ⟨hsign, hcut⟩ := cutAt_cons_cases '*' '/' c s
      · rw [hcut]
        rfl
      · rw [readBlocks_true_cons hsign, ih, hcut]
        cases cutAt '*' '/' s with
        | none => rfl
        | some parts => rfl

/-- Searching for the signs one after the other finds what the reader of characters finds. -/
theorem stripBlocks_eq_readBlocks (inside : Bool) (s : List Char) :
    stripBlocks inside s = readBlocks inside s := by
  fun_induction stripBlocks inside s with
  | case1 s hcut => rw [readBlocks_true_eq, hcut]
  | case2 s front rest hcut ih => rw [readBlocks_true_eq, hcut, ih]
  | case3 inside s houtside hcut =>
      obtain rfl := Bool.eq_false_iff.mpr houtside
      rw [readBlocks_false_eq, hcut]
  | case4 inside s houtside front rest hcut visible inside' hstrip ih =>
      obtain rfl := Bool.eq_false_iff.mpr houtside
      rw [readBlocks_false_eq, hcut]
      simp only [← ih, hstrip]

/-! ## Line by line -/

/-- The line break is kept if no comment goes on over it. -/
def keptBreak (inside : Bool) : List Char := if inside then [] else ['\n']

/-- The reader comes to a line break in the state that the line before leaves it in. -/
theorem readBlocks_append_cons (inside : Bool) (a b : List Char) :
    readBlocks inside (a ++ '\n' :: b) =
      ((readBlocks inside a).1 ++ (keptBreak (readBlocks inside a).2 ++
          (readBlocks (readBlocks inside a).2 b).1),
        (readBlocks (readBlocks inside a).2 b).2) := by
  fun_induction readBlocks inside a with
  | case1 inside =>
      cases inside with
      | false => exact readBlocks_false_cons (by simp)
      | true => exact readBlocks_true_cons (by simp)
  | case2 s ih => exact ih
  | case3 s ih => exact ih
  | case4 c s hsign visible inside' hread ih =>
      -- A line break after the character completes no sign.
      have hnext : ¬(c = '/' ∧ (s ++ '\n' :: b).head? = some '*') := by
        rintro ⟨rfl, hhead⟩
        cases s with
        | nil => simp at hhead
        | cons d s =>
            obtain rfl : d = '*' := by simpa using hhead
            exact hsign s rfl rfl
      rw [List.cons_append, readBlocks_false_cons hnext, ih, hread]
      rfl
  | case5 c s hsign ih =>
      have hnext : ¬(c = '*' ∧ (s ++ '\n' :: b).head? = some '/') := by
        rintro ⟨rfl, hhead⟩
        cases s with
        | nil => simp at hhead
        | cons d s =>
            obtain rfl : d = '/' := by simpa using hhead
            exact hsign s rfl rfl
      rw [List.cons_append, readBlocks_true_cons hnext, ih]

/-! ## The search, round by round -/

/-- The search for signs, with the number of its rounds. A round that finds a sign goes on behind
it, and the round that finds none is the last. -/
inductive SearchRounds : Nat → Bool → List Char → List Char → Bool → Prop where
  | unclosed {s : List Char} (h : cutAt '*' '/' s = none) : SearchRounds 1 true s [] true
  | unopened {s : List Char} (h : cutAt '/' '*' s = none) : SearchRounds 1 false s s false
  | closed {s front rest visible : List Char} {n : Nat} {inside : Bool}
      (h : cutAt '*' '/' s = some (front, rest)) (later : SearchRounds n false rest visible inside) :
      SearchRounds (n + 1) true s visible inside
  | opened {s front rest visible : List Char} {n : Nat} {inside : Bool}
      (h : cutAt '/' '*' s = some (front, rest)) (later : SearchRounds n true rest visible inside) :
      SearchRounds (n + 1) false s (front ++ visible) inside

/-- Each sign takes two characters, so that there are no more rounds than half of the characters and
one. -/
theorem exists_searchRounds (inside : Bool) (s : List Char) :
    ∃ n, 2 * n ≤ s.length + 2 ∧
      SearchRounds n inside s (stripBlocks inside s).1 (stripBlocks inside s).2 := by
  fun_induction stripBlocks inside s with
  | case1 s hcut => exact ⟨1, by omega, .unclosed hcut⟩
  | case2 s front rest hcut ih =>
      obtain ⟨n, hn, hrounds⟩ := ih
      have hlength := congrArg List.length (eq_of_cutAt hcut)
      simp only [List.length_append, List.length_cons] at hlength
      exact ⟨n + 1, by omega, .closed hcut hrounds⟩
  | case3 inside s houtside hcut =>
      obtain rfl := Bool.eq_false_iff.mpr houtside
      exact ⟨1, by omega, .unopened hcut⟩
  | case4 inside s houtside front rest hcut visible inside' hstrip ih =>
      obtain rfl := Bool.eq_false_iff.mpr houtside
      obtain ⟨n, hn, hrounds⟩ := ih
      rw [hstrip] at hrounds
      have hlength := congrArg List.length (eq_of_cutAt hcut)
      simp only [List.length_append, List.length_cons] at hlength
      exact ⟨n + 1, by omega, .opened hcut hrounds⟩

/-- Each round goes on in one way only. -/
theorem SearchRounds.unique {n m : Nat} {inside i j : Bool} {s v w : List Char}
    (h : SearchRounds n inside s v i) (h' : SearchRounds m inside s w j) :
    m = n ∧ v = w ∧ i = j := by
  induction h generalizing m w j with
  | unclosed hcut =>
      cases h' with
      | unclosed => exact ⟨rfl, rfl, rfl⟩
      | closed hcut' => cases hcut.symm.trans hcut'
  | unopened hcut =>
      cases h' with
      | unopened => exact ⟨rfl, rfl, rfl⟩
      | opened hcut' => cases hcut.symm.trans hcut'
  | closed hcut _ ih =>
      cases h' with
      | unclosed hcut' => cases hcut.symm.trans hcut'
      | closed hcut' later =>
          cases hcut.symm.trans hcut'
          obtain ⟨rfl, rfl, rfl⟩ := ih later
          exact ⟨rfl, rfl, rfl⟩
  | opened hcut _ ih =>
      cases h' with
      | unopened hcut' => cases hcut.symm.trans hcut'
      | opened hcut' later =>
          cases hcut.symm.trans hcut'
          obtain ⟨rfl, rfl, rfl⟩ := ih later
          exact ⟨rfl, rfl, rfl⟩

/-- Block comments are taken out as the reader of characters takes them out. The search for signs
ends after no more rounds than half of the characters and one, and with this result only. A text of
two parts with a line break between them is read part by part, with the state in which the first
part ends carried over to the second. -/
theorem stripBlocks_byLines (inside : Bool) :
    (∀ s, stripBlocks inside s = readBlocks inside s ∧
        ∃ n, 2 * n ≤ s.length + 2 ∧ ∀ m visible inside',
          SearchRounds m inside s visible inside' ↔
            m = n ∧ stripBlocks inside s = (visible, inside')) ∧
      ∀ a b, stripBlocks inside (a ++ '\n' :: b) =
        let (visible, inside') := stripBlocks inside a
        let (visible', inside'') := stripBlocks inside' b
        (visible ++ ((if inside' then [] else ['\n']) ++ visible'), inside'') := by
  refine ⟨fun s => ⟨stripBlocks_eq_readBlocks inside s, ?_⟩, fun a b => ?_⟩
  · obtain ⟨n, hn, hrounds⟩ := exists_searchRounds inside s
    refine ⟨n, hn, fun m visible inside' => ⟨fun h => ?_, ?_⟩⟩
    · obtain ⟨rfl, rfl, rfl⟩ := hrounds.unique h
      exact ⟨rfl, rfl⟩
    · rintro ⟨rfl, hstrip⟩
      rwa [hstrip] at hrounds
  · simp only [stripBlocks_eq_readBlocks]
    exact readBlocks_append_cons inside a b

end PawnScope.Source
