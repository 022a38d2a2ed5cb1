import PawnScope.Proofs.Source.Directives

/-! # The contents of literals

The code of a line is read off character by character: what is inside a literal gives a blank,
whatever it is, and a line comment ends the line. Two lines that differ only inside their literals
therefore have the same code, so that no brace, comma or sign of a comment in a literal counts. -/

namespace PawnScope.Source

/-! ## Inside and outside -/

namespace Place

/-- The character that is read next is inside a literal, between its quotes. -/
def isContent : Place → Char → Bool
  | .literal _ true, _ => true
  | .literal q false, c => c != q
  | .code _, _ => false
  | .lineComment, _ => false

/-- The character that is read next may give place to another: behind a backslash to any, elsewhere
in a literal to any but the quote of the literal and a backslash. The backslash of an escape stays,
since what stands behind it may be the quote. -/
def Admits : Place → Char → Char → Prop
  | .literal _ true, _, _ => True
  | .literal q false, c, d => d = c ∨ (c ∉ [q, '\\'] ∧ d ∉ [q, '\\'])
  | .code _, c, d => d = c
  | .lineComment, c, d => d = c

instance (p : Place) (c d : Char) : Decidable (p.Admits c d) :=
  match p with
  | .literal _ true => inferInstanceAs (Decidable True)
  | .literal q false => inferInstanceAs (Decidable (d = c ∨ (c ∉ [q, '\\'] ∧ d ∉ [q, '\\'])))
  | .code _ => inferInstanceAs (Decidable (d = c))
  | .lineComment => inferInstanceAs (Decidable (d = c))

end Place

/-- Where the reader is after a text. -/
def placeAfter (p : Place) (s : List Char) : Place := s.foldl Place.next p

/-- The second text is the first with characters inside its literals replaced. -/
def Replaces : Place → List Char → List Char → Prop
  | _, [], [] => True
  | p, c :: s, d :: t => p.Admits c d ∧ Replaces (p.next c) s t
  | _, _, _ => False

instance decidableReplaces : ∀ (p : Place) (s t : List Char), Decidable (Replaces p s t)
  | _, [], [] => isTrue trivial
  | _, [], _ :: _ => isFalse id
  | _, _ :: _, [] => isFalse id
  | p, c :: s, d :: t =>
      have := decidableReplaces (p.next c) s t
      inferInstanceAs (Decidable (p.Admits c d ∧ Replaces (p.next c) s t))

/-- Two texts differ only inside their literals: at each position, both have something inside a
literal, or both have the same character and it is outside. Escapes need not be at the same
positions, but neither or both of the texts end in the middle of one. -/
def SameOutside : Place → Place → List Char → List Char → Prop
  | p, q, [], [] => p = q
  | p, q, c :: s, d :: t =>
      p.isContent c = q.isContent d ∧ (p.isContent c = true ∨ c = d) ∧
        SameOutside (p.next c) (q.next d) s t
  | _, _, _, _ => False

instance decidableSameOutside :
    ∀ (p q : Place) (s t : List Char), Decidable (SameOutside p q s t)
  | p, q, [], [] => inferInstanceAs (Decidable (p = q))
  | _, _, [], _ :: _ => isFalse id
  | _, _, _ :: _, [] => isFalse id
  | p, q, c :: s, d :: t =>
      have := decidableSameOutside (p.next c) (q.next d) s t
      inferInstanceAs (Decidable (_ ∧ _ ∧ _))

theorem Place.Admits.sameOutside {p : Place} {c d : Char} (h : p.Admits c d) :
    p.isContent c = p.isContent d ∧ (p.isContent c = true ∨ c = d) ∧ p.next c = p.next d := by
  cases p with
  | code slash =>
      obtain rfl : d = c := h
      exact ⟨rfl, Or.inr rfl, rfl⟩
  | literal q escaped =>
      cases escaped with
      | true => exact ⟨rfl, Or.inl rfl, rfl⟩
      | false =>
          rcases h with rfl | ⟨hc, hd⟩
          · exact ⟨rfl, Or.inr rfl, rfl⟩
          · simp only [List.mem_cons, List.not_mem_nil, or_false, not_or] at hc hd
            have hcontent : ∀ e, e ≠ q → isContent (.literal q false) e = true := by
              intro e he
              simp [isContent, he]
            refine ⟨(hcontent c hc.1).trans (hcontent d hd.1).symm, Or.inl (hcontent c hc.1), ?_⟩
            simp [next, hc, hd]
  | lineComment =>
      obtain rfl : d = c := h
      exact ⟨rfl, Or.inr rfl, rfl⟩

/-- A text with replaced characters differs from the first only inside literals. -/
theorem Replaces.sameOutside {p : Place} {s t : List Char} (h : Replaces p s t) :
    SameOutside p p s t := by
  induction s generalizing p t with
  | nil =>
      cases t with
      | nil => rfl
      | cons d t => exact h
  | cons c s ih =>
      cases t with
      | nil => exact h
      | cons d t =>
          obtain ⟨hadmits, hrest⟩ := h
          obtain ⟨hcontent, hsame, hnext⟩ := hadmits.sameOutside
          refine ⟨hcontent, hsame, ?_⟩
          rw [← hnext]
          exact ih hrest

/-! ## The code, character by character -/

/-- The reader is right after a backslash in a literal. -/
def Place.isEscaped : Place → Bool
  | .literal _ escaped => escaped
  | .code _ => false
  | .lineComment => false

/-- The code of a text from a place on: a blank for each character inside a literal, and every other
character up to the sign of a line comment. A backslash that ends the text gives one blank more. -/
def codeFrom (p : Place) : List Char → List Char
  | [] => if p.isEscaped then [' '] else []
  | c :: s =>
      if p.isContent c then ' ' :: codeFrom (p.next c) s
      else if c = '/' ∧ s.head? = some '/' then []
      else c :: codeFrom (p.next c) s

/-- A slash before a text makes a difference only if the text starts with another one. -/
theorem codeFrom_code {s : List Char} (h : s.head? ≠ some '/') (slash : Bool) :
    codeFrom (.code slash) s = codeFrom (.code false) s := by
  cases s with
  | nil => rfl
  | cons c s =>
      have hc : c ≠ '/' := by simpa using h
      simp [codeFrom, Place.isContent, Place.next, hc]

/-- The place in which a text starts that starts inside a literal or outside. -/
def placeIn : Option Char → Place
  | none => .code false
  | some q => .literal q false

theorem blankLiterals_eq_codeFrom {q : Option Char} (hq : ∀ c ∈ q, isQuote c = true)
    (s : List Char) : blankLiterals q s = codeFrom (placeIn q) s := by
  have hslash : ∀ c, isQuote c = true → c ≠ '/' := by
    rintro c hc rfl
    cases hc
  fun_induction blankLiterals q s with
  | case1 q =>
      cases q with
      | none => rfl
      | some q => rfl
  | case2 c s hc ih =>
      have hne := hslash c hc
      rw [ih (by simpa using hc)]
      simp [codeFrom, placeIn, Place.isContent, Place.next, hc, hne]
  | case3 c s hc hcomment =>
      simp [codeFrom, placeIn, Place.isContent, hcomment]
  | case4 c s hc hcomment ih =>
      rw [ih hq]
      by_cases hne : c = '/'
      · have hhead : s.head? ≠ some '/' := fun hhead => hcomment ⟨hne, hhead⟩
        simp [codeFrom, placeIn, Place.isContent, Place.next, hne, hhead, codeFrom_code hhead]
      · simp [codeFrom, placeIn, Place.isContent, Place.next, hne, hc]
  | case5 q =>
      have hne : '\\' ≠ q := by
        rintro rfl
        cases hq _ rfl
      simp [codeFrom, placeIn, Place.isContent, Place.next, Place.isEscaped, hne]
  | case6 q d s ih =>
      have hne : '\\' ≠ q := by
        rintro rfl
        cases hq _ rfl
      rw [ih hq]
      simp [codeFrom, placeIn, Place.isContent, Place.next, hne]
  | case7 c s hlast hescape ih =>
      have hne := hslash c (hq c rfl)
      have hback : c ≠ '\\' := by
        rintro rfl
        cases hq _ rfl
      rw [ih (by simp)]
      simp [codeFrom, placeIn, Place.isContent, Place.next, hne, hback]
  | case8 q c s hlast hescape hc ih =>
      have hback : c ≠ '\\' := by
        rintro rfl
        cases s with
        | nil => exact hlast rfl rfl
        | cons d s => exact hescape d s rfl rfl
      rw [ih hq]
      simp [codeFrom, placeIn, Place.isContent, Place.next, hc, hback]

/-! ## Two lines -/

/-- Outside literals, texts that differ only inside their literals go on with the same character. -/
theorem SameOutside.head?_eq {p : Place} {s t : List Char} (hp : ∀ c, p.isContent c = false)
    (h : SameOutside p p s t) : s.head? = t.head? := by
  cases s with
  | nil =>
      cases t with
      | nil => rfl
      | cons d t => exact h.elim
  | cons c s =>
      cases t with
      | nil => exact h.elim
      | cons d t =>
          obtain ⟨-, hsame, -⟩ := h
          rw [hp c] at hsame
          simpa using hsame

/-- Two readers are at the same place, or in the same literal and perhaps one of them right after a
backslash. -/
inductive Aligned : Place → Place → Prop where
  | same (p : Place) : Aligned p p
  | literal (quote : Char) (escaped escaped' : Bool) :
      Aligned (.literal quote escaped) (.literal quote escaped')

theorem Place.exists_literal_of_isContent {p : Place} {c : Char} (h : p.isContent c = true) :
    ∃ quote escaped escaped', p = .literal quote escaped ∧ p.next c = .literal quote escaped' := by
  cases p with
  | code slash => cases h
  | lineComment => cases h
  | literal quote escaped =>
      cases escaped with
      | true => exact ⟨quote, true, false, rfl, rfl⟩
      | false =>
          have hne : c ≠ quote := by simpa [isContent] using h
          by_cases hback : c = '\\'
          · exact ⟨quote, false, true, rfl, by simp [next, hback]⟩
          · exact ⟨quote, false, false, rfl, by simp [next, hback, hne]⟩

/-- Inside a literal, readers stay in it. -/
theorem Aligned.next_of_isContent {p q : Place} (h : Aligned p q) {c d : Char}
    (hc : p.isContent c = true) (hd : q.isContent d = true) : Aligned (p.next c) (q.next d) := by
  obtain ⟨quote, escaped, _, rfl, hp⟩ := Place.exists_literal_of_isContent hc
  obtain ⟨quote', escaped', _, rfl, hq⟩ := Place.exists_literal_of_isContent hd
  rw [hp, hq]
  cases h with
  | same => exact .literal _ _ _
  | literal => exact .literal _ _ _

/-- A character outside literals is read by both readers at the same place. -/
theorem Aligned.eq_of_not_isContent {p q : Place} (h : Aligned p q) {c : Char}
    (hc : p.isContent c = false) (hd : q.isContent c = false) : p = q := by
  cases h with
  | same p => rfl
  | literal quote escaped escaped' =>
      cases escaped with
      | true => cases hc
      | false =>
          cases escaped' with
          | true => cases hd
          | false => rfl

theorem codeFrom_eq_of_sameOutside {p q : Place} {s t : List Char} (hpq : Aligned p q)
    (h : SameOutside p q s t) : codeFrom p s = codeFrom q t := by
  induction s generalizing p q t with
  | nil =>
      cases t with
      | nil =>
          obtain rfl : p = q := h
          rfl
      | cons d t => exact h.elim
  | cons c s ih =>
      cases t with
      | nil => exact h.elim
      | cons d t =>
          obtain ⟨hcontent, hsame, hrest⟩ := h
          cases hc : p.isContent c with
          | true =>
              have hd : q.isContent d = true := hcontent ▸ hc
              rw [codeFrom, codeFrom, if_pos hc, if_pos hd,
                ih (hpq.next_of_isContent hc hd) hrest]
          | false =>
              have hd : q.isContent d = false := hcontent ▸ hc
              obtain rfl : c = d := by simpa [hc] using hsame
              obtain rfl := hpq.eq_of_not_isContent hc hd
              have hhead : c = '/' → s.head? = t.head? := by
                rintro rfl
                refine SameOutside.head?_eq (fun e => ?_) hrest
                cases p with
                | code slash =>
                    cases slash with
                    | true => rfl
                    | false => rfl
                | lineComment => rfl
                | literal quote escaped =>
                    cases escaped with
                    | true => cases hc
                    | false =>
                        have hquote : '/' = quote := by simpa [Place.isContent] using hc
                        simp [Place.next, ← hquote, Place.isContent]
              have hsign : (c = '/' ∧ s.head? = some '/') ↔ (c = '/' ∧ t.head? = some '/') :=
                and_congr_right fun hc => by rw [hhead hc]
              rw [codeFrom, codeFrom, hc, if_neg Bool.false_ne_true, if_neg Bool.false_ne_true,
                ih (.same _) hrest]
              simp only [hsign]

/-! ## What the code shows -/

/-- What is no blank in the code is no content of a literal. -/
theorem getElem?_codeFrom {p : Place} {s : List Char} {i : Nat} {c : Char}
    (h : (codeFrom p s)[i]? = some c) (hc : c ≠ ' ') :
    s[i]? = some c ∧ (placeAfter p (s.take i)).isContent c = false := by
  induction s generalizing p i with
  | nil =>
      rw [codeFrom] at h
      split at h
      · exact absurd (List.mem_singleton.mp (List.mem_of_getElem? h)) hc
      · cases h
  | cons d s ih =>
      rw [codeFrom] at h
      split at h
      · cases i with
        | zero => exact absurd (Option.some.inj h).symm hc
        | succ i => exact ih h
      · rename_i hcontent
        split at h
        · cases h
        · cases i with
          | zero =>
              obtain rfl : d = c := Option.some.inj h
              exact ⟨rfl, Bool.eq_false_iff.mpr hcontent⟩
          | succ i => exact ih h

/-- The sign of a line comment outside literals ends the code, and what follows it makes no
difference. -/
theorem codeFrom_comment {p : Place} {front : List Char} {slash : Bool}
    (h : placeAfter p front = .code slash) (back : List Char) :
    codeFrom p (front ++ '/' :: '/' :: back) = codeFrom p (front ++ ['/', '/']) ∧
      (codeFrom p (front ++ '/' :: '/' :: back)).length ≤ front.length := by
  induction front generalizing p with
  | nil =>
      obtain rfl : p = .code slash := h
      simp [codeFrom, Place.isContent]
  | cons c front ih =>
      obtain ⟨hsame, hlength⟩ := ih (p := p.next c) h
      have hhead : (front ++ '/' :: '/' :: back).head? = (front ++ ['/', '/']).head? := by
        cases front with
        | nil => rfl
        | cons d front => rfl
      refine ⟨by simp only [List.cons_append, codeFrom, hhead, hsame], ?_⟩
      rw [List.cons_append, codeFrom]
      split
      · exact Nat.succ_le_succ hlength
      · split
        · exact Nat.zero_le _
        · exact Nat.succ_le_succ hlength

/-- What the code of a line shows of the line. -/
structure ShowsOutside (s code : List Char) : Prop where
  /-- What is no blank stands at the same position of the line, outside literals. -/
  visible : ∀ i c, code[i]? = some c → c ≠ ' ' →
    s[i]? = some c ∧ (placeAfter (.code false) (s.take i)).isContent c = false
  /-- The sign of a line comment outside literals ends the code, whatever follows it. -/
  comment : ∀ front back slash, s = front ++ '/' :: '/' :: back →
    placeAfter (.code false) front = .code slash →
      code = blankLiterals none (front ++ ['/', '/']) ∧ code.length ≤ front.length

theorem blankLiterals_none_eq (s : List Char) : blankLiterals none s = codeFrom (.code false) s :=
  blankLiterals_eq_codeFrom (by simp) s

theorem showsOutside_blankLiterals (s : List Char) : ShowsOutside s (blankLiterals none s) where
  visible i c h hc := by
    rw [blankLiterals_none_eq] at h
    exact getElem?_codeFrom h hc
  comment front back slash hs hfront := by
    rw [blankLiterals_none_eq, blankLiterals_none_eq, hs]
    exact codeFrom_comment hfront back

/-- A line whose text outside block comments has other characters inside its literals has the same
code, and so has a line that differs from it only inside literals in any other way. Of what stands
inside literals, and of what follows the sign of a line comment outside them, the code shows
nothing. -/
theorem codeOf_hides_literals (inside : Bool) (line : List Char) :
    (∀ inside' line',
        Replaces (.code false) (stripBlocks inside line).1 (stripBlocks inside' line').1 →
          (codeOf inside' line').1 = (codeOf inside line).1) ∧
      (∀ inside' line',
        SameOutside (.code false) (.code false) (stripBlocks inside line).1
            (stripBlocks inside' line').1 →
          (codeOf inside' line').1 = (codeOf inside line).1) ∧
      ShowsOutside (stripBlocks inside line).1 (codeOf inside line).1 := by
  have hsame : ∀ inside' line', SameOutside (.code false) (.code false) (stripBlocks inside line).1
      (stripBlocks inside' line').1 → (codeOf inside' line').1 = (codeOf inside line).1 := by
    intro inside' line' h
    simp only [codeOf, blankLiterals_none_eq]
    exact (codeFrom_eq_of_sameOutside (.same _) h).symm
  exact ⟨fun inside' line' h => hsame inside' line' h.sameOutside, hsame,
    showsOutside_blankLiterals _⟩

/-- A call with braces, quotes and signs of comments in its literals, before two comments. -/
def noisyCall : List Char := "f(\"\x7b\\\"//\", '\x7d'); /* \" */ g(); // \"".toList

/-- The same call with other contents and without the block comment. -/
def quietCall : List Char := "f(\"a\\b,)\", '\"');  g(); // \"".toList

/-- The same call again, without an escape. -/
def plainCall : List Char := "f(\"abcde\", '-');  g(); // \"".toList

theorem codeOf_hides_literals_call :
    Replaces (.code false) (stripBlocks false noisyCall).1 (stripBlocks false quietCall).1 ∧
      SameOutside (.code false) (.code false) (stripBlocks false noisyCall).1
        (stripBlocks false plainCall).1 ∧
      (codeOf false quietCall).1 = (codeOf false noisyCall).1 ∧
      (codeOf false plainCall).1 = (codeOf false noisyCall).1 ∧
      (codeOf false noisyCall).1 = "f(\"     \", ' ');  g(); ".toList := by
  have hreplaces : Replaces (.code false) (stripBlocks false noisyCall).1
      (stripBlocks false quietCall).1 := by decide +kernel
  have hsame : SameOutside (.code false) (.code false) (stripBlocks false noisyCall).1
      (stripBlocks false plainCall).1 := by decide +kernel
  obtain ⟨hquiet, hplain, hshows⟩ := codeOf_hides_literals false noisyCall
  -- The comment starts behind the second call.
  have hcomment := (hshows.comment "f(\"\x7b\\\"//\", '\x7d');  g(); ".toList " \"".toList false
    (by decide +kernel) (by decide +kernel)).1
  exact ⟨hreplaces, hsame, hquiet false quietCall hreplaces, hplain false plainCall hsame,
    hcomment.trans (by decide +kernel)⟩

end PawnScope.Source
