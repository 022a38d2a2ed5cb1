import PawnScope.Proofs.Source.Directives
import PawnScope.Proofs.Source.LineNumbers
import PawnScope.Proofs.Text.SourceLines

/-! # Comments on a line of their own

A comment that is closed on its own line documents what stands right below it. After a blank line it
is forgotten, so that the text below is read as if it stood alone. This is so unless the comment
holds nothing but stars: the stars after the opening sign are dropped before the closing sign is
looked for, and with them the star of the closing sign, so that the comment is taken for one that is
still open and swallows the lines up to the next closing sign. -/

namespace PawnScope.Source

open Text

/-! ## The first occurrence of a sign -/

theorem cutAt_cons {a b c : Char} {s : List Char} (hs : s ≠ []) :
    cutAt a b (c :: s) =
      if c = a ∧ s.head? = some b then some ([], s.tail)
      else (cutAt a b s).map fun (front, back) => (c :: front, back) := by
  obtain ⟨d, s, rfl⟩ := List.exists_cons_of_ne_nil hs
  simp [cutAt]

theorem exists_cutAt (a b : Char) (front back : List Char) :
    ∃ f k, cutAt a b (front ++ a :: b :: back) = some (f, k) := by
  induction front with
  | nil => exact ⟨[], back, by simp [cutAt]⟩
  | cons c front ih =>
      obtain ⟨f, k, hcut⟩ := ih
      rw [List.cons_append, cutAt_cons (by simp), hcut]
      split
      · exact ⟨[], _, rfl⟩
      · exact ⟨c :: f, k, rfl⟩

theorem cutAt_eq_none_iff {a b : Char} {s : List Char} :
    cutAt a b s = none ↔ ∀ front back, s ≠ front ++ a :: b :: back := by
  constructor
  · rintro h front back rfl
    obtain ⟨f, k, hcut⟩ := exists_cutAt a b front back
    rw [h] at hcut
    cases hcut
  · intro h
    cases hcut : cutAt a b s with
    | none => rfl
    | some parts => exact absurd (eq_of_cutAt hcut) (h parts.1 parts.2)

/-- No occurrence comes before the one that divides a text. -/
theorem length_le_of_cutAt {a b : Char} {s f k front back : List Char}
    (h : cutAt a b s = some (f, k)) (hs : s = front ++ a :: b :: back) :
    f.length ≤ front.length := by
  induction front generalizing s f with
  | nil =>
      rw [hs, List.nil_append, cutAt, if_pos ⟨rfl, rfl⟩] at h
      cases h
      exact Nat.le_refl 0
  | cons c front ih =>
      rw [hs, List.cons_append, cutAt_cons (by simp)] at h
      split at h
      · cases h
        exact Nat.zero_le _
      · obtain ⟨parts, hcut, hparts⟩ := Option.map_eq_some_iff.mp h
        cases hparts
        exact Nat.succ_le_succ (ih hcut rfl)

/-! ## Complete comments -/

/-- A text between the signs of a comment, with which the comment is complete: the first closing
sign is the one at the end. -/
def IsCommentBody (b : List Char) : Prop :=
  ∀ front back, b ++ ['*', '/'] = front ++ '*' :: '/' :: back → back = []

theorem isCommentBody_iff {b : List Char} :
    IsCommentBody b ↔ cutAt '*' '/' (b ++ ['*', '/']) = some (b, []) := by
  constructor
  · intro h
    obtain ⟨f, k, hcut⟩ := exists_cutAt '*' '/' b []
    have heq := eq_of_cutAt hcut
    obtain rfl := h f k heq
    rw [hcut, List.append_cancel_right heq]
  · intro h front back heq
    have hle := length_le_of_cutAt h heq
    have hlength := congrArg List.length heq
    simp only [List.length_append, List.length_cons, List.length_nil] at hlength
    exact List.eq_nil_of_length_eq_zero (by omega)

instance (b : List Char) : Decidable (IsCommentBody b) := decidable_of_iff' _ isCommentBody_iff

/-- What is left of a complete comment when some of its beginning is dropped ends with it. -/
theorem IsCommentBody.cutAt_eq {front rest : List Char} (h : IsCommentBody (front ++ rest)) :
    ∃ body, cutAt '*' '/' (rest ++ ['*', '/']) = some (body, []) := by
  obtain ⟨f, k, hcut⟩ := exists_cutAt '*' '/' rest []
  have heq := eq_of_cutAt hcut
  obtain rfl := h (front ++ f) k (by rw [List.append_assoc, heq, List.append_assoc])
  exact ⟨f, hcut⟩

namespace Scan

theorem dropStars_append {b : List Char} (h : ∃ c ∈ b, c ≠ '*') (rest : List Char) :
    dropStars (b ++ rest) = dropStars b ++ rest := by
  obtain ⟨c, hc, hne⟩ := h
  have hdrop : ¬(b.dropWhile (· == '*')).isEmpty = true := by
    rw [List.isEmpty_iff, List.dropWhile_eq_nil_iff]
    intro hall
    exact hne (by simpa using hall c hc)
  rw [dropStars, List.dropWhile_append, if_neg hdrop]
  rfl

theorem dropStars_of_forall {b : List Char} (h : ∀ c ∈ b, c = '*') (rest : List Char) :
    dropStars (b ++ rest) = dropStars rest := by
  apply List.dropWhile_append_of_pos
  simpa using h

/-! ## The line of the comment -/

theorem scanLine_of_collectDoc {s t : Scan} {raw : List Char} (h : s.collectDoc raw = (t, true))
    (line : Nat) : s.scanLine line raw = t := by
  simp [scanLine, h]

/-- The line of a comment with the given text. -/
def commentLine (b : List Char) : List Char := '/' :: '*' :: (b ++ ['*', '/'])

theorem collectDoc_commentLine (b : List Char) :
    collectDoc {} (commentLine b) = startDoc {} (b ++ ['*', '/']) := by
  have hslash : isSpace '/' = false := by decide
  have htrim : trim (commentLine b) = commentLine b := by
    simp [commentLine, trim, trimStart, trimEnd, hslash]
  simp only [collectDoc, htrim]
  rfl

theorem scanLine_commentLine {b : List Char} (hbody : IsCommentBody b) (h : ∃ c ∈ b, c ≠ '*')
    (line : Nat) : ∃ docs, scanLine {} line (commentLine b) = { docs := docs } := by
  have hb : b = b.takeWhile (· == '*') ++ dropStars b := List.takeWhile_append_dropWhile.symm
  rw [hb] at hbody
  obtain ⟨body, hcut⟩ := hbody.cutAt_eq
  obtain ⟨docs, hdocs⟩ := pushDoc_eq {} body
  refine ⟨docs, scanLine_of_collectDoc ?_ line⟩
  rw [collectDoc_commentLine, startDoc, dropStars_append h, hcut]
  simp only [hdocs]
  rfl

theorem scanLine_commentLine_stars {b : List Char} (h : ∀ c ∈ b, c = '*') (line : Nat) :
    scanLine {} line (commentLine b) = { docs := [['/']], inDoc := true } := by
  apply scanLine_of_collectDoc
  rw [collectDoc_commentLine, startDoc, dropStars_of_forall h]
  rfl

/-! ## Lines after the comment -/

/-- Blank literals show no more than what was written. -/
theorem countP_blankLiterals_le {p : Char → Bool} (hp : p ' ' = false) (quote : Option Char)
    (s : List Char) : (blankLiterals quote s).countP p ≤ s.countP p := by
  have hcons : ∀ (c : Char) {s t : List Char}, s.countP p ≤ t.countP p →
      (c :: s).countP p ≤ (c :: t).countP p := by
    intro c s t h
    rw [List.countP_cons, List.countP_cons]
    omega
  have hskip : ∀ (c : Char) {s t : List Char}, s.countP p ≤ t.countP p →
      s.countP p ≤ (c :: t).countP p := by
    intro c s t h
    rw [List.countP_cons]
    omega
  have hblank : ∀ s : List Char, (' ' :: s).countP p = s.countP p := fun s =>
    List.countP_cons_of_neg (Bool.eq_false_iff.mp hp)
  fun_induction blankLiterals quote s with
  | case1 => exact Nat.le_refl 0
  | case2 c s hquote ih => exact hcons c ih
  | case3 c s hquote hslashes => exact Nat.zero_le _
  | case4 c s hquote hslashes ih => exact hcons c ih
  | case5 =>
      rw [hblank, hblank]
      exact Nat.zero_le _
  | case6 quote d s ih =>
      rw [hblank, hblank]
      exact hskip _ (hskip d ih)
  | case7 quote s hlast hmore ih => exact hcons quote ih
  | case8 quote c s hlast hmore hother ih =>
      rw [hblank]
      exact hskip c ih

/-- Code without literals and comments is left as it is. -/
theorem blankLiterals_eq_self {s : List Char} (hquote : ∀ c ∈ s, isQuote c = false)
    (hslash : '/' ∉ s) : blankLiterals none s = s := by
  induction s with
  | nil => rfl
  | cons c s ih =>
      rw [List.mem_cons, not_or] at hslash
      rw [List.forall_mem_cons] at hquote
      simp [blankLiterals, hquote.1, Ne.symm hslash.1, ih hquote.2 hslash.2]

theorem codeOf_eq_self {s : List Char} (hquote : ∀ c ∈ s, isQuote c = false) (hslash : '/' ∉ s) :
    codeOf false s = (s, false) := by
  have hcut : cutAt '/' '*' s = none := by
    rw [cutAt_eq_none_iff]
    rintro front back rfl
    exact hslash (by simp)
  rw [codeOf, stripBlocks_of_cutAt_eq_none hcut]
  simp only [blankLiterals_eq_self hquote hslash]

theorem codeOf_blank {s : List Char} (h : isBlank s = true) : codeOf false s = (s, false) := by
  have hspace := List.all_eq_true.mp h
  apply codeOf_eq_self
  · intro c hc
    rw [Bool.eq_false_iff]
    intro hquote
    rw [isQuote, Bool.or_eq_true, beq_iff_eq, beq_iff_eq] at hquote
    rcases hquote with rfl | rfl
    · exact absurd (hspace _ hc) (by decide)
    · exact absurd (hspace _ hc) (by decide)
  · intro hslash
    exact absurd (hspace _ hslash) (by decide)

theorem scanLine_blank {raw : List Char} (h : isBlank raw = true) (docs : List (List Char))
    (line : Nat) : scanLine { docs := docs } line raw = {} := by
  simp [scanLine, collectDoc, trim_eq_nil_iff.mpr h, codeOf_blank h, h]

/-- Inside a comment that documents something, lines without a closing sign are swallowed. -/
theorem found_scanLines_of_inDoc {s : Scan} (hs : s.inDoc = true) {ls : List (List Char)}
    (h : ∀ raw ∈ ls, cutAt '*' '/' (trim raw) = none) (line : Nat) :
    (s.scanLines line ls).found = s.found := by
  induction ls generalizing s line with
  | nil => rfl
  | cons raw rest ih =>
      obtain ⟨docs, hdocs⟩ := s.pushDoc_eq (dropStars (trim raw))
      have hraw : s.scanLine line raw = { s with docs := docs } := by
        apply scanLine_of_collectDoc
        simp [collectDoc, hs, continueDoc, h raw List.mem_cons_self, hdocs]
      rw [scanLines, hraw]
      exact ih (s := { s with docs := docs }) hs
        (fun r hr => h r (List.mem_cons_of_mem raw hr)) (line + 1)

end Scan

/-! ## Texts below a comment -/

theorem cutAt_eq_none_of_isInfix {a b : Char} {s t : List Char} (h : cutAt a b s = none)
    (hts : t <:+: s) : cutAt a b t = none := by
  rw [cutAt_eq_none_iff] at h ⊢
  rintro front back rfl
  obtain ⟨before, after, rfl⟩ := hts
  exact h (before ++ front) (back ++ after) (by simp)

theorem isInfix_of_mem_lines {s line : List Char} (h : line ∈ lines s) : line <:+: s := by
  obtain ⟨n, hn⟩ := List.mem_iff_getElem?.mp h
  obtain ⟨after, hat⟩ := exists_isLineAt hn
  exact ⟨textBefore s n, after, by rw [List.append_assoc, ← hat.text_eq]⟩

/-- A line of white space, or an empty one. -/
def IsBlankLine (s : String) : Prop := isBlank s.toList = true ∧ '\n' ∉ s.toList

instance (s : String) : Decidable (IsBlankLine s) := instDecidableAnd

/-- A text with two lines above it. -/
def below (first second text : String) : String := first ++ "\n" ++ second ++ "\n" ++ text

theorem lines_below {first second : String} (hfirst : '\n' ∉ first.toList)
    (hsecond : '\n' ∉ second.toList) (text : String) :
    lines (below first second text).toList =
      dropReturn first.toList :: dropReturn second.toList :: lines text.toList := by
  have htext : (below first second text).toList =
      first.toList ++ '\n' :: (second.toList ++ '\n' :: text.toList) := by
    simp [below]
  rw [htext, lines_append_cons hfirst, lines_append_cons hsecond]

/-- The comment with the given text. -/
def comment (b : String) : String := "/*" ++ b ++ "*/"

theorem toList_comment (b : String) : (comment b).toList = Scan.commentLine b.toList := by
  simp [comment, Scan.commentLine]

theorem lines_below_comment {b blank : String} (hline : '\n' ∉ b.toList)
    (hblank : IsBlankLine blank) (text : String) :
    lines (below (comment b) blank text).toList =
      Scan.commentLine b.toList :: dropReturn blank.toList :: lines text.toList := by
  have hcomment : '\n' ∉ (comment b).toList := by simpa [comment] using hline
  have hreturn : dropReturn (Scan.commentLine b.toList) = Scan.commentLine b.toList := by
    have hlast : Scan.commentLine b.toList = '/' :: '*' :: (b.toList ++ ['*']) ++ ['/'] := by
      simp [Scan.commentLine]
    rw [dropReturn, hlast, List.getLast?_concat, if_neg (by decide)]
  rw [lines_below hcomment hblank.2, toList_comment, hreturn]

/-- A text below a complete comment and a blank line is read as if it stood alone, two lines further
down, if the comment holds anything but stars. -/
theorem declarations_below_comment {b blank : String} (hline : '\n' ∉ b.toList)
    (hbody : IsCommentBody b.toList) (hstars : ∃ c ∈ b.toList, c ≠ '*')
    (hblank : IsBlankLine blank) (text : String) :
    declarations (below (comment b) blank text) =
      (declarations text).map (Symbol.moveDown 2) := by
  obtain ⟨docs, hdocs⟩ := Scan.scanLine_commentLine hbody hstars 0
  rw [declarations, lines_below_comment hline hblank, Scan.scanLines, hdocs, Scan.scanLines,
    Scan.scanLine_blank (isBlank_dropReturn hblank.1), Scan.found_scanLines_add, declarations, List.map_reverse]

/-- After a comment of stars, the lines are read as those of a comment that is still open. -/
theorem scanLines_below_stars {b blank : String} (hstars : ∀ c ∈ b.toList, c = '*')
    (hblank : IsBlankLine blank) (text : String) :
    Scan.scanLines {} 0 (lines (below (comment b) blank text).toList) =
      Scan.scanLines { docs := [['/']], inDoc := true } 1
        (dropReturn blank.toList :: lines text.toList) := by
  have hline : '\n' ∉ b.toList := fun hmem => absurd (hstars _ hmem) (by decide)
  rw [lines_below_comment hline hblank, Scan.scanLines, Scan.scanLine_commentLine_stars hstars]

/-- A comment of stars is read like one that is not closed. -/
theorem declarations_below_stars {b blank : String} (hstars : ∀ c ∈ b.toList, c = '*')
    (hblank : IsBlankLine blank) (text : String) :
    declarations (below (comment b) blank text) = declarations (below "/*/" blank text) := by
  have hopen : Scan.scanLine {} 0 (dropReturn "/*/".toList) =
      { docs := [['/']], inDoc := true } := by
    decide +kernel
  rw [declarations, declarations, scanLines_below_stars hstars hblank,
    lines_below (by decide) hblank.2, ← hopen]
  rfl

/-- Nothing is found in a text without a closing sign below a comment of stars. -/
theorem declarations_below_stars_eq_nil {b blank text : String}
    (hstars : ∀ c ∈ b.toList, c = '*') (hblank : IsBlankLine blank)
    (htext : cutAt '*' '/' text.toList = none) :
    declarations (below (comment b) blank text) = [] := by
  rw [declarations, scanLines_below_stars hstars hblank, Scan.found_scanLines_of_inDoc rfl]
  · rfl
  · rw [List.forall_mem_cons, trim_eq_nil_iff.mpr (isBlank_dropReturn hblank.1)]
    refine ⟨rfl, fun raw hraw => ?_⟩
    exact cutAt_eq_none_of_isInfix htext ((trim_isInfix raw).trans (isInfix_of_mem_lines hraw))

/-- A complete comment on a line of its own, above a blank line, leaves the text below as it is,
whatever the text, exactly if it holds anything but stars. A comment of stars is read like one that
is not closed, so that nothing is found in a text without a closing sign below it. -/
theorem declarations_below_comment_iff {b : String} (hline : '\n' ∉ b.toList)
    (hbody : IsCommentBody b.toList) :
    ((∀ blank text, IsBlankLine blank → declarations (below (comment b) blank text) =
          (declarations text).map (Symbol.moveDown 2)) ↔ ∃ c ∈ b.toList, c ≠ '*') ∧
      ((∀ c ∈ b.toList, c = '*') → ∀ blank text, IsBlankLine blank →
        declarations (below (comment b) blank text) = declarations (below "/*/" blank text) ∧
          ((∀ front back, text.toList ≠ front ++ '*' :: '/' :: back) →
            declarations (below (comment b) blank text) = [])) := by
  refine ⟨⟨?_, ?_⟩, ?_⟩
  · intro h
    by_contra hnone
    have hstars : ∀ c ∈ b.toList, c = '*' := by
      intro c hc
      by_contra hne
      exact hnone ⟨c, hc, hne⟩
    have hblank : IsBlankLine "" := by decide
    have hlost : declarations (below (comment b) "" "#define A") = [] :=
      declarations_below_stars_eq_nil hstars hblank (by decide)
    rw [h "" "#define A" hblank] at hlost
    have hfound : declarations "#define A" ≠ [] := by decide +kernel
    exact hfound (List.map_eq_nil_iff.mp hlost)
  · intro hstars blank text hblank
    exact declarations_below_comment hline hbody hstars hblank text
  · intro hstars blank text hblank
    refine ⟨declarations_below_stars hstars hblank text, fun htext => ?_⟩
    exact declarations_below_stars_eq_nil hstars hblank (cutAt_eq_none_iff.mpr htext)

theorem declarations_below_comment_iff_banner :
    IsCommentBody "* \x7b /* 'x' // **".toList ∧
      declarations (below (comment "* \x7b /* 'x' // **") "\t" "int g_Count;") =
        [{ name := "g_Count", kind := .variable, line := 2 }] := by
  have hbody : IsCommentBody "* \x7b /* 'x' // **".toList := by decide
  have hbelow := (declarations_below_comment_iff (by decide) hbody).1.mpr
    ⟨' ', by decide, by decide⟩
  refine ⟨hbody, ?_⟩
  rw [hbelow "\t" "int g_Count;" (by decide)]
  decide +kernel

/-- The shortest comment swallows the declarations below it. -/
theorem declaration_lost_below_emptyComment :
    declarations "/**/\n\nint g_Count;\n" = [] ∧
      (declarations "int g_Count;\n").map (Symbol.moveDown 2) =
        [{ name := "g_Count", kind := .variable, line := 2 }] := by
  decide +kernel

end PawnScope.Source
