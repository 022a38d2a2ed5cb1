import PawnScope.Proofs.Text.Division
import PawnScope.Proofs.Text.Trimming
import PawnScope.Source.Code
import PawnScope.Source.Include
import Mathlib.Data.List.TakeWhile

/-! # Directives in texts without comments

The sign that opens a block comment counts wherever it stands, also after the sign of a line comment
and in a string literal. Such a sign opens no comment of the language, but all the same it hides
directives: those of the lines that follow, up to the next sign that ends a comment, and the
directive in whose reference it stands. In a text that has no other such signs, every other line is
read as it would be read alone. -/

namespace PawnScope.Source

open Text

/-! ## The shape of a directive -/

/-- The word that names the directive. -/
def keyword (isTry : Bool) : List Char :=
  if isTry then "tryinclude".toList else "include".toList

/-- The delimiter before the reference. -/
def opening (isBuiltin : Bool) : Char := if isBuiltin then '<' else '"'

/-- The delimiter after the reference. -/
def closing (isBuiltin : Bool) : Char := if isBuiltin then '>' else '"'

/-- The text of a directive up to its reference: the sign, the word and the opening delimiter, with
white space before each of them. -/
def IsHead (isTry isBuiltin : Bool) (head : List Char) : Prop :=
  ∃ a b c, isBlank a = true ∧ isBlank b = true ∧ isBlank c = true ∧
    head = a ++ '#' :: (b ++ (keyword isTry ++ (c ++ [opening isBuiltin])))

/-- A line starts with a directive that has the given reference, which is not blank. Anything may
follow the closing delimiter. -/
def IsDirective (s : List Char) (isTry isBuiltin : Bool) (reference : List Char) : Prop :=
  ∃ head rest, IsHead isTry isBuiltin head ∧
    s = head ++ (reference ++ closing isBuiltin :: rest) ∧
    closing isBuiltin ∉ reference ∧ isBlank reference = false

theorem delimited?_eq_some_iff {c : Char} {s r : List Char} :
    delimited? c s = some r ↔ r ≠ [] ∧ c ∉ r ∧ ∃ rest, s = r ++ c :: rest := by
  have hnonNil : ∀ t, delimited?.nonNil t = some r ↔ r ≠ [] ∧ t = r := by
    intro t
    cases t with
    | nil => simp [delimited?.nonNil]
    | cons d t =>
        simp only [delimited?.nonNil, Option.some.injEq]
        constructor
        · rintro rfl
          simp
        · exact And.right
  constructor
  · intro h
    unfold delimited? at h
    split at h
    · cases h
    · rename_i hrest
      obtain ⟨d, rest, hd⟩ := List.exists_cons_of_ne_nil hrest
      obtain ⟨hr, rfl⟩ := (hnonNil _).mp h
      have hc : d = c := by
        have hhead := List.head?_dropWhile_not (· != c) s
        rw [hd] at hhead
        simpa using hhead
      rw [hc] at hd
      refine ⟨hr, ?_, rest, ?_⟩
      · intro hmem
        simpa using List.mem_takeWhile_imp hmem
      · rw [← hd, List.takeWhile_append_dropWhile]
  · rintro ⟨hr, hc, rest, rfl⟩
    have htake := takeWhile_append_cons hc rest
    have hdrop : (r ++ c :: rest).dropWhile (· != c) = c :: rest := by
      have happend := List.takeWhile_append_dropWhile (p := (· != c)) (l := r ++ c :: rest)
      rw [htake] at happend
      exact List.append_cancel_left happend
    simp [delimited?, htake, hdrop, (hnonNil r).mpr ⟨hr, rfl⟩]

/-- The word of a directive is one of two, of which neither starts the other. -/
theorem word_eq_some_iff {s rest : List Char} {isTry : Bool} :
    ((literal? "include" s).map fun s => (false, s)).or
        ((literal? "tryinclude" s).map fun s => (true, s)) = some (isTry, rest) ↔
      s = keyword isTry ++ rest := by
  have hother : ∀ rest, literal? "include" ("tryinclude".toList ++ rest) = none := by
    intro rest
    rfl
  rw [Option.or_eq_some_iff, Option.map_eq_none_iff]
  simp only [Option.map_eq_some_iff, literal?, after?_eq_some_iff, Prod.mk.injEq]
  cases isTry with
  | false => simp [keyword]
  | true =>
      simp only [keyword]
      constructor
      · rintro (⟨t, -, hfalse, -⟩ | ⟨-, t, rfl, -, rfl⟩)
        · cases hfalse
        · rfl
      · rintro rfl
        exact Or.inr ⟨hother rest, rest, rfl, trivial, rfl⟩

theorem mark?_eq_some_iff {c : Char} (hc : isSpace c = false) {s rest : List Char} :
    mark? c s = some rest ↔ ∃ a, isBlank a = true ∧ s = a ++ c :: rest := by
  constructor
  · intro h
    obtain ⟨a, ha, hs⟩ := exists_blank_append_trimStart s
    refine ⟨a, ha, ?_⟩
    unfold mark? at h
    split at h
    · cases h
    · rename_i d t ht
      split at h
      · rename_i hd
        rw [ht, hd, Option.some.inj h] at hs
        exact hs
      · cases h
  · rintro ⟨a, ha, rfl⟩
    simp [mark?, trimStart_append_cons ha hc]

theorem isSpace_opening (isBuiltin : Bool) : isSpace (opening isBuiltin) = false := by
  cases isBuiltin with
  | false => decide
  | true => decide

theorem exists_of_include? {n : Nat} {s : List Char} {i : Include} (h : include? n s = some i) :
    ∃ isTry isBuiltin r, IsDirective s isTry isBuiltin r ∧
      i = ⟨String.ofList (trim r), isBuiltin, isTry, n⟩ := by
  unfold include? at h
  simp only [Option.bind_eq_bind, Option.bind_eq_some_iff] at h
  obtain ⟨s₁, hsign, ⟨isTry, s₂⟩, hword, hi⟩ := h
  obtain ⟨a, ha, rfl⟩ := (mark?_eq_some_iff (by decide)).mp hsign
  obtain ⟨b, hb, hs₁⟩ := exists_blank_append_trimStart s₁
  obtain ⟨c, hc, hs₂⟩ := exists_blank_append_trimStart s₂
  rw [word_eq_some_iff] at hword
  -- Either form of the reference is read in the same way.
  have hread : ∀ isBuiltin t, trimStart s₂ = opening isBuiltin :: t →
      (((delimited? (closing isBuiltin) t).map fun r => (isBuiltin, r)).bind fun x =>
        if (trim x.2).isEmpty = true then none
        else some (⟨String.ofList (trim x.2), x.1, isTry, n⟩ : Include)) = some i →
      ∃ isTry isBuiltin r, IsDirective (a ++ '#' :: s₁) isTry isBuiltin r ∧
        i = ⟨String.ofList (trim r), isBuiltin, isTry, n⟩ := by
    intro isBuiltin t ht hr
    obtain ⟨x, hx, hif⟩ := Option.bind_eq_some_iff.mp hr
    obtain ⟨r, hr, rfl⟩ := Option.map_eq_some_iff.mp hx
    obtain ⟨-, hclosing, rest, rfl⟩ := delimited?_eq_some_iff.mp hr
    split at hif
    · cases hif
    · rename_i hblank
      refine ⟨isTry, isBuiltin, r, ⟨_, rest, ⟨a, b, c, ha, hb, hc, rfl⟩, ?_, hclosing, ?_⟩,
        (Option.some.inj hif).symm⟩
      · rw [hs₁, hword, hs₂, ht]
        simp
      · rw [Bool.eq_false_iff, Ne, ← trim_eq_nil_iff, ← List.isEmpty_iff]
        exact hblank
  split at hi
  · rename_i t ht
    exact hread true t ht hi
  · rename_i t ht
    exact hread false t ht hi
  · cases hi

theorem include?_of_isDirective {n : Nat} {s r : List Char} {isTry isBuiltin : Bool}
    (h : IsDirective s isTry isBuiltin r) :
    include? n s = some ⟨String.ofList (trim r), isBuiltin, isTry, n⟩ := by
  obtain ⟨head, rest, ⟨a, b, c, ha, hb, hc, rfl⟩, rfl, hclosing, hblank⟩ := h
  have hr : r ≠ [] := by
    rintro rfl
    cases hblank
  have hreference : delimited? (closing isBuiltin) (r ++ closing isBuiltin :: rest) = some r :=
    delimited?_eq_some_iff.mpr ⟨hr, hclosing, rest, rfl⟩
  have htrim : trim r ≠ [] := by
    rw [Ne, trim_eq_nil_iff, hblank]
    simp
  have hopening := trimStart_append_cons hc (isSpace_opening isBuiltin)
    (r ++ closing isBuiltin :: rest)
  have hword := word_eq_some_iff.mpr
    (rfl : keyword isTry ++ (c ++ opening isBuiltin :: (r ++ closing isBuiltin :: rest)) = _)
  have hspace : ∀ t, trimStart (b ++ (keyword isTry ++ t)) = keyword isTry ++ t := by
    intro t
    cases isTry with
    | false => exact trimStart_append_cons hb (by decide) _
    | true => exact trimStart_append_cons hb (by decide) _
  have hsign := (mark?_eq_some_iff (c := '#') (by decide)).mpr
    ⟨a, ha, (rfl : a ++ '#' :: (b ++ (keyword isTry ++
      (c ++ opening isBuiltin :: (r ++ closing isBuiltin :: rest)))) = _)⟩
  simp only [List.append_assoc, List.cons_append, List.nil_append, include?, hsign,
    Option.bind_eq_bind, Option.bind_some, hspace, hword, hopening]
  cases isBuiltin with
  | false =>
      have hquoted : delimited? '"' (r ++ '"' :: rest) = some r := hreference
      simp [opening, closing, hquoted, htrim]
  | true =>
      have hangled : delimited? '>' (r ++ '>' :: rest) = some r := hreference
      simp [opening, closing, hangled, htrim]

/-- A line has a directive exactly if it starts with one. -/
theorem include?_eq_some_iff {n : Nat} {s : List Char} {i : Include} :
    include? n s = some i ↔ ∃ isTry isBuiltin r, IsDirective s isTry isBuiltin r ∧
      i = ⟨String.ofList (trim r), isBuiltin, isTry, n⟩ := by
  constructor
  · exact exists_of_include?
  · rintro ⟨isTry, isBuiltin, r, h, rfl⟩
    exact include?_of_isDirective h

theorem include?_eq_none_iff {n : Nat} {s : List Char} :
    include? n s = none ↔ ∀ isTry isBuiltin r, ¬IsDirective s isTry isBuiltin r := by
  rw [Option.eq_none_iff_forall_ne_some]
  constructor
  · intro h isTry isBuiltin r hs
    exact h _ (include?_of_isDirective hs)
  · intro h i hi
    obtain ⟨isTry, isBuiltin, r, hs, -⟩ := exists_of_include? hi
    exact h isTry isBuiltin r hs

theorem line_of_include? {n : Nat} {s : List Char} {i : Include} (h : include? n s = some i) :
    i.line = n := by
  obtain ⟨isTry, isBuiltin, r, -, rfl⟩ := exists_of_include? h
  rfl

/-- Neither a slash nor a quote stands before the opening delimiter of a directive. -/
theorem IsHead.exists_init {isTry isBuiltin : Bool} {head : List Char}
    (h : IsHead isTry isBuiltin head) :
    ∃ init, head = init ++ [opening isBuiltin] ∧ '/' ∉ init ∧ '"' ∉ init := by
  obtain ⟨a, b, c, ha, hb, hc, rfl⟩ := h
  have hblank : ∀ d t, isSpace d = false → isBlank t = true → d ∉ t := by
    intro d t hd ht hmem
    have hspace := List.all_eq_true.mp ht d hmem
    rw [hd] at hspace
    cases hspace
  have hkeyword : '/' ∉ keyword isTry ∧ '"' ∉ keyword isTry := by
    cases isTry with
    | false => decide
    | true => decide
  have hslash := fun t => hblank '/' t (by decide)
  have hquote := fun t => hblank '"' t (by decide)
  refine ⟨a ++ '#' :: (b ++ (keyword isTry ++ c)), by simp, ?_, ?_⟩
  · simp [hslash a ha, hslash b hb, hslash c hc, hkeyword.1]
  · simp [hquote a ha, hquote b hb, hquote c hc, hkeyword.2]

theorem IsHead.slash_notMem {isTry isBuiltin : Bool} {head : List Char}
    (h : IsHead isTry isBuiltin head) : '/' ∉ head := by
  obtain ⟨init, rfl, hslash, -⟩ := h.exists_init
  have hopening : '/' ≠ opening isBuiltin := by
    cases isBuiltin with
    | false => decide
    | true => decide
  simp [hslash, hopening]

theorem IsHead.eq_of_prefix {isTry isBuiltin : Bool} {head front : List Char}
    (h : IsHead isTry isBuiltin head) (hfront : front <+: head)
    (hmem : '/' ∈ front ∨ '"' ∈ front) : front = head := by
  obtain ⟨init, rfl, hslash, hquote⟩ := h.exists_init
  rcases List.prefix_concat_iff.mp hfront with heq | hinit
  · exact heq
  · rcases hmem with hmem | hmem
    · exact absurd (hinit.subset hmem) hslash
    · exact absurd (hinit.subset hmem) hquote

/-! ## Signs of comments -/

theorem eq_of_cutAt {a b : Char} {s front back : List Char}
    (h : cutAt a b s = some (front, back)) : s = front ++ a :: b :: back := by
  induction s generalizing front with
  | nil => simp [cutAt] at h
  | cons c s ih =>
      cases s with
      | nil => simp [cutAt] at h
      | cons d s =>
          simp only [cutAt] at h
          split at h
          · rename_i hcd
            simp only [Option.some.injEq, Prod.mk.injEq] at h
            simp [← h.1, ← h.2, hcd.1, hcd.2]
          · obtain ⟨⟨f, k⟩, hk, he⟩ := Option.map_eq_some_iff.mp h
            simp only [Prod.mk.injEq] at he
            obtain ⟨rfl, rfl⟩ := he
            simp [← ih hk]

/-- What is left of a line is in the line. -/
theorem stripBlocks_sublist (inside : Bool) (s : List Char) :
    (stripBlocks inside s).1.Sublist s := by
  fun_induction stripBlocks inside s with
  | case1 s hcut => exact List.nil_sublist s
  | case2 s front rest hcut ih =>
      rw [eq_of_cutAt hcut]
      exact (ih.cons _ |>.cons _).trans (List.sublist_append_right front _)
  | case3 inside s hinside hcut => exact List.Sublist.refl s
  | case4 inside s hinside front rest hcut visible inside' hstrip ih =>
      rw [hstrip] at ih
      rw [eq_of_cutAt hcut]
      exact (List.Sublist.refl front).append (ih.cons _ |>.cons _)

theorem stripBlocks_of_cutAt_eq_none {s : List Char} (h : cutAt '/' '*' s = none) :
    stripBlocks false s = (s, false) := by
  rw [stripBlocks, if_neg Bool.false_ne_true]
  split
  · rfl
  · rename_i hcut
    rw [h] at hcut
    cases hcut

theorem stripBlocks_of_cutAt {s front back : List Char} (h : cutAt '/' '*' s = some (front, back)) :
    (stripBlocks false s).1 = front ++ (stripBlocks true back).1 := by
  rw [stripBlocks, if_neg Bool.false_ne_true]
  split
  · rename_i hcut
    rw [h] at hcut
    cases hcut
  · rename_i hcut
    rw [h] at hcut
    cases hcut
    rfl

/-! ## Where signs stand -/

/-- Where a line is while it is read as a line of the language: in code, right after a slash or not,
in a literal, right after a backslash or not, or in a line comment. -/
inductive Place where
  | code (slash : Bool)
  | literal (quote : Char) (escaped : Bool)
  | lineComment
  deriving DecidableEq

namespace Place

def next : Place → Char → Place
  | .code slash, c =>
      if c = '/' then if slash then .lineComment else .code true
      else if isQuote c then .literal c false
      else .code false
  | .literal q true, _ => .literal q false
  | .literal q false, c =>
      if c = '\\' then .literal q true else if c = q then .code false else .literal q false
  | .lineComment, _ => .lineComment

/-- No comment can be opened in a string literal and in a line comment. -/
def shields : Place → Bool
  | .code _ => false
  | .literal q _ => q == '"'
  | .lineComment => true

/-- A place from which only a quote or a slash leads to one where no comment can be opened. -/
def isBare : Place → Bool
  | .code slash => !slash
  | .literal q _ => q != '"'
  | .lineComment => false

theorem isBare_next {p : Place} (h : p.isBare = true) {c : Char} (hslash : c ≠ '/')
    (hquote : c ≠ '"') : (p.next c).isBare = true := by
  cases p with
  | code slash =>
      simp only [next, if_neg hslash]
      split
      · simp [isBare, hquote]
      · rfl
  | literal q escaped =>
      cases escaped with
      | true => exact h
      | false =>
          simp only [next]
          split
          · exact h
          · split
            · rfl
            · exact h
  | lineComment => cases h

theorem shields_next_slash {p : Place} (h : p.isBare = true) : (p.next '/').shields = false := by
  cases p with
  | code slash =>
      cases slash with
      | true => cases h
      | false => rfl
  | literal q escaped =>
      have hq : (q == '"') = false := by simpa [isBare] using h
      cases escaped with
      | true => exact hq
      | false =>
          simp only [next]
          split
          · exact hq
          · split
            · rfl
            · exact hq
  | lineComment => cases h

end Place

/-- Every sign that opens a block comment stands in a string literal or after the sign of a line
comment. -/
def signsShielded : Place → List Char → Bool
  | _, [] => true
  | p, c :: s =>
      (!(c = '/' ∧ s.head? = some '*') || (p.next '/').shields) && signsShielded (p.next c) s

/-- A text without block comments. -/
def HasNoBlockComment (text : String) : Prop :=
  ∀ s ∈ lines text.toList, signsShielded (.code false) s = true

instance (text : String) : Decidable (HasNoBlockComment text) :=
  inferInstanceAs (Decidable (∀ s ∈ _, _))

/-- Before a sign that opens no comment stands a quote or a slash. -/
theorem mem_of_signsShielded {front back : List Char} {p : Place} (hp : p.isBare = true)
    (h : signsShielded p (front ++ '/' :: '*' :: back) = true) : '/' ∈ front ∨ '"' ∈ front := by
  induction front generalizing p with
  | nil => simp [signsShielded, Place.shields_next_slash hp] at h
  | cons c front ih =>
      by_cases hslash : c = '/'
      · simp [hslash]
      · by_cases hquote : c = '"'
        · simp [hquote]
        · rw [List.cons_append, signsShielded, Bool.and_eq_true] at h
          rcases ih (Place.isBare_next hp hslash hquote) h.2 with hmem | hmem
          · exact Or.inl (List.mem_cons_of_mem c hmem)
          · exact Or.inr (List.mem_cons_of_mem c hmem)

/-! ## One line -/

theorem closing_ne (isBuiltin : Bool) : closing isBuiltin ≠ '/' ∧ closing isBuiltin ≠ '*' := by
  cases isBuiltin with
  | false => decide
  | true => decide

/-- A directive that has no sign in its reference ends before the first sign, so it does not matter
what follows the sign. -/
theorem IsDirective.of_cut {front back r : List Char} {isTry isBuiltin : Bool}
    (h : IsDirective (front ++ '/' :: '*' :: back) isTry isBuiltin r)
    (hr : ¬['/', '*'] <:+: r) (v : List Char) : IsDirective (front ++ v) isTry isBuiltin r := by
  obtain ⟨head, rest, hhead, hs, hclosing, hblank⟩ := h
  obtain ⟨hslash, hstar⟩ := closing_ne isBuiltin
  have hafter : ∃ t, front = head ++ t ∧
      r ++ closing isBuiltin :: rest = t ++ '/' :: '*' :: back := by
    rcases List.append_eq_append_iff.mp hs with ⟨t, rfl, ht⟩ | hafter
    · cases t with
      | nil => exact ⟨[], by simp, by simpa using ht.symm⟩
      | cons c t =>
          obtain ⟨rfl, -⟩ := List.cons.inj ht
          exact absurd (List.mem_append_right front List.mem_cons_self) hhead.slash_notMem
    · exact hafter
  obtain ⟨t, rfl, ht⟩ := hafter
  rcases List.append_eq_append_iff.mp ht with ⟨u, rfl, hu⟩ | ⟨u, rfl, hu⟩
  · cases u with
    | nil => exact absurd (List.cons.inj hu).1 hslash
    | cons c u =>
        obtain ⟨rfl, -⟩ := List.cons.inj hu
        exact ⟨head, u ++ v, hhead, by simp, hclosing, hblank⟩
  · -- The sign would start in the reference, which holds it only as a whole.
    exfalso
    cases u with
    | nil => exact hslash (List.cons.inj hu).1.symm
    | cons c u =>
        obtain ⟨rfl, htail⟩ := List.cons.inj hu
        cases u with
        | nil => exact hstar (List.cons.inj htail).1.symm
        | cons d u =>
            obtain ⟨rfl, -⟩ := List.cons.inj htail
            exact hr ⟨t, u, by simp⟩

/-- If a line is a directive once a part of it is hidden, it is one as it stands: a part that goes
beyond the reference belongs to a longer reference. -/
theorem exists_isDirective_of_cut {front back v r : List Char} {isTry isBuiltin : Bool}
    (hfront : '/' ∈ front ∨ '"' ∈ front) (hv : v.Sublist back)
    (h : IsDirective (front ++ v) isTry isBuiltin r) :
    ∃ r', IsDirective (front ++ '/' :: '*' :: back) isTry isBuiltin r' := by
  obtain ⟨head, rest, hhead, hs, hclosing, hblank⟩ := h
  obtain ⟨hslash, hstar⟩ := closing_ne isBuiltin
  have hafter : ∃ t, front = head ++ t ∧ r ++ closing isBuiltin :: rest = t ++ v := by
    rcases List.append_eq_append_iff.mp hs with ⟨t, ht, htv⟩ | hafter
    · have heq := hhead.eq_of_prefix ⟨t, ht.symm⟩ hfront
      obtain rfl : t = [] := by simpa [heq] using ht
      exact ⟨[], by simp [heq], by simpa using htv.symm⟩
    · exact hafter
  obtain ⟨t, rfl, ht⟩ := hafter
  by_cases hmem : closing isBuiltin ∈ t
  · obtain ⟨x, y, rfl, hx⟩ := List.eq_append_cons_of_mem hmem
    have hxr : x = r := by
      have htake := congrArg (List.takeWhile (· != closing isBuiltin)) ht
      rw [takeWhile_append_cons hclosing, List.append_assoc, List.cons_append,
        takeWhile_append_cons hx] at htake
      exact htake.symm
    exact ⟨x, head, y ++ '/' :: '*' :: back, hhead, by simp, hx, hxr ▸ hblank⟩
  · have hback : closing isBuiltin ∈ back := by
      have hmem' : closing isBuiltin ∈ t ++ v := by simp [← ht]
      exact hv.subset ((List.mem_append.mp hmem').resolve_left hmem)
    obtain ⟨x, y, rfl, hx⟩ := List.eq_append_cons_of_mem hback
    refine ⟨t ++ '/' :: '*' :: x, head, y, hhead, by simp, ?_, ?_⟩
    · simp [hmem, hslash, hstar, hx]
    · have hspace : isSpace '/' = false := by decide
      simp [isBlank, hspace]

/-- A line as it is read: its number, and whether it starts inside a comment for the reader. -/
structure Reading where
  number : Nat
  inside : Bool
  line : List Char

namespace Reading

/-- The directive that is reported for the line. -/
def reported? (x : Reading) : Option Include := include? x.number (stripBlocks x.inside x.line).1

/-- The directive that the line has if it is read alone. -/
def own? (x : Reading) : Option Include := include? x.number x.line

/-- The line starts inside a comment for the reader, or the sign that opens a comment stands in the
reference of its directive. -/
def IsAtRisk (x : Reading) : Prop :=
  x.inside = true ∨ ∃ isTry isBuiltin r, IsDirective x.line isTry isBuiltin r ∧ ['/', '*'] <:+: r

/-- A line without block comments is read as it would be read alone, unless it is at risk. -/
theorem reported?_eq_own? {x : Reading} (h : signsShielded (.code false) x.line = true)
    (hx : ¬x.IsAtRisk) : x.reported? = x.own? := by
  obtain ⟨hinside, hreference⟩ := not_or.mp hx
  rw [reported?, own?, Bool.eq_false_iff.mpr hinside]
  cases hcut : cutAt '/' '*' x.line with
  | none => rw [stripBlocks_of_cutAt_eq_none hcut]
  | some parts =>
      obtain ⟨front, back⟩ := parts
      have hline := eq_of_cutAt hcut
      rw [stripBlocks_of_cutAt hcut]
      cases hown : include? x.number x.line with
      | some i =>
          obtain ⟨isTry, isBuiltin, r, hr, rfl⟩ := exists_of_include? hown
          apply include?_of_isDirective
          rw [hline] at hr
          exact hr.of_cut (fun hsign => hreference ⟨isTry, isBuiltin, r, hline ▸ hr, hsign⟩) _
      | none =>
          rw [include?_eq_none_iff] at hown ⊢
          intro isTry isBuiltin r hr
          rw [hline] at h hown
          obtain ⟨r', hr'⟩ := exists_isDirective_of_cut (mem_of_signsShielded rfl h)
            (stripBlocks_sublist true back) hr
          exact hown isTry isBuiltin r' hr'

end Reading

/-! ## All lines -/

/-- The lines from a number on as they are read. -/
def readingsFrom (inside : Bool) (number : Nat) : List (List Char) → List Reading
  | [] => []
  | s :: rest =>
      ⟨number, inside, s⟩ :: readingsFrom (stripBlocks inside s).2 (number + 1) rest

/-- The lines of a text as they are read. -/
def readings (text : String) : List Reading := readingsFrom false 0 (lines text.toList)

/-- The directives of some lines, each read alone. -/
def directivesFrom (number : Nat) (ls : List (List Char)) : List Include :=
  (ls.zipIdx number).filterMap fun e => include? e.2 e.1

/-- The directives of the lines of a text, each read alone. -/
def directives (text : String) : List Include := directivesFrom 0 (lines text.toList)

theorem line_mem_of_mem_readingsFrom {inside : Bool} {n : Nat} {ls : List (List Char)} {x : Reading}
    (h : x ∈ readingsFrom inside n ls) : x.line ∈ ls := by
  induction ls generalizing inside n with
  | nil => cases h
  | cons s ls ih =>
      rcases List.mem_cons.mp h with rfl | h
      · exact List.mem_cons_self
      · exact List.mem_cons_of_mem s (ih h)

theorem le_line_of_mem_includesFrom {inside : Bool} {n : Nat} {ls : List (List Char)} {i : Include}
    (h : i ∈ includesFrom inside n ls) : n ≤ i.line := by
  induction ls generalizing inside n with
  | nil => cases h
  | cons s ls ih =>
      rw [includesFrom] at h
      rcases List.mem_append.mp h with h | h
      · exact (line_of_include? (Option.mem_toList.mp h)).ge
      · exact Nat.le_of_succ_le (ih h)

theorem directivesFrom_cons (n : Nat) (s : List Char) (ls : List (List Char)) :
    directivesFrom n (s :: ls) = (include? n s).toList ++ directivesFrom (n + 1) ls := by
  rw [directivesFrom, List.zipIdx_cons, List.filterMap_cons]
  cases include? n s with
  | none => rfl
  | some i => rfl

theorem le_line_of_mem_directivesFrom {n : Nat} {ls : List (List Char)} {i : Include}
    (h : i ∈ directivesFrom n ls) : n ≤ i.line := by
  obtain ⟨⟨s, line⟩, hmem, hs⟩ := List.mem_filterMap.mp h
  rw [line_of_include? hs]
  exact List.le_snd_of_mem_zipIdx hmem

/-- The directives of a text stand in the order of their lines, with no more than one for a line. -/
theorem pairwise_directivesFrom (n : Nat) (ls : List (List Char)) :
    (directivesFrom n ls).Pairwise fun i j => i.line < j.line := by
  induction ls generalizing n with
  | nil => exact List.Pairwise.nil
  | cons s ls ih =>
      rw [directivesFrom_cons, List.pairwise_append]
      refine ⟨?_, ih (n + 1), ?_⟩
      · cases include? n s with
        | none => exact List.Pairwise.nil
        | some i => exact List.pairwise_singleton _ i
      · intro i hi j hj
        have hline := line_of_include? (Option.mem_toList.mp hi)
        have hnext := le_line_of_mem_directivesFrom hj
        omega

/-- The directives of a text are those with which its lines start. -/
theorem mem_directives_iff {text : String} {i : Include} :
    i ∈ directives text ↔ ∃ s r, (lines text.toList)[i.line]? = some s ∧
      IsDirective s i.isTry i.isBuiltin r ∧ i.reference = String.ofList (trim r) := by
  rw [directives, directivesFrom, List.mem_filterMap]
  constructor
  · rintro ⟨⟨s, n⟩, hs, hi⟩
    obtain rfl := line_of_include? hi
    obtain ⟨isTry, isBuiltin, r, hr, heq⟩ := include?_eq_some_iff.mp hi
    have hfields := Include.mk.inj heq
    refine ⟨s, r, List.mem_zipIdx_iff_getElem?.mp hs, ?_, hfields.1⟩
    rw [hfields.2.1, hfields.2.2.1]
    exact hr
  · rintro ⟨s, r, hs, hr, hreference⟩
    refine ⟨(s, i.line), List.mem_zipIdx_iff_getElem?.mpr hs, ?_⟩
    exact include?_eq_some_iff.mpr ⟨i.isTry, i.isBuiltin, r, hr, by rw [← hreference]⟩

/-- A directive has the number of its line, so that the directives of two lines are not mixed up. -/
theorem toList_append_inj {n : Nat} {a b : Option Include} {is js : List Include}
    (ha : ∀ i, a = some i → i.line = n) (hb : ∀ i, b = some i → i.line = n)
    (his : ∀ i ∈ is, n + 1 ≤ i.line) (hjs : ∀ j ∈ js, n + 1 ≤ j.line) :
    a.toList ++ is = b.toList ++ js ↔ a = b ∧ is = js := by
  cases a with
  | none =>
      cases b with
      | none => simp
      | some j =>
          have hj := hb j rfl
          simp only [Option.toList_none, Option.toList_some, List.nil_append, List.singleton_append,
            reduceCtorEq, false_and, iff_false]
          rintro rfl
          have := his j List.mem_cons_self
          omega
  | some i =>
      have hi := ha i rfl
      cases b with
      | none =>
          simp only [Option.toList_none, Option.toList_some, List.nil_append, List.singleton_append,
            reduceCtorEq, false_and, iff_false]
          rintro rfl
          have := hjs i List.mem_cons_self
          omega
      | some j => simp

theorem includesFrom_eq_iff (inside : Bool) (n : Nat) (ls : List (List Char)) :
    includesFrom inside n ls = directivesFrom n ls ↔
      ∀ x ∈ readingsFrom inside n ls, x.reported? = x.own? := by
  induction ls generalizing inside n with
  | nil => simp [includesFrom, directivesFrom, readingsFrom]
  | cons s ls ih =>
      rw [includesFrom, directivesFrom_cons, readingsFrom, List.forall_mem_cons, ← ih]
      exact toList_append_inj (fun _ => line_of_include?) (fun _ => line_of_include?)
        (fun _ => le_line_of_mem_includesFrom) (fun _ => le_line_of_mem_directivesFrom)

/-- The directives of a text are those with which its lines start, line by line. In a text without
block comments, they are the ones that are reported exactly if this is so on the lines at risk:
those that start inside a comment for the reader, and those with a directive in whose reference the
sign that opens a comment stands. -/
theorem includes_eq_directives_iff {text : String} (h : HasNoBlockComment text) :
    (∀ i, i ∈ directives text ↔ ∃ s r, (lines text.toList)[i.line]? = some s ∧
        IsDirective s i.isTry i.isBuiltin r ∧ i.reference = String.ofList (trim r)) ∧
      (directives text).Pairwise (fun i j => i.line < j.line) ∧
      (includes text = directives text ↔
        ∀ x ∈ readings text, x.IsAtRisk → x.reported? = x.own?) := by
  refine ⟨fun i => mem_directives_iff, pairwise_directivesFrom 0 _, ?_⟩
  rw [includes, directives, includesFrom_eq_iff]
  constructor
  · exact fun hall x hx _ => hall x hx
  · intro hrisk x hx
    by_cases hx' : x.IsAtRisk
    · exact hrisk x hx hx'
    · exact Reading.reported?_eq_own? (h x.line (line_mem_of_mem_readingsFrom hx)) hx'

/-- A text in which each sign that opens a comment is followed by one that ends a comment on its
line. -/
def pairedSigns : String :=
  "#include <a> // all of /* and */\nchar s[] = \"/*\"; // and */\n#include \"b\""

theorem includes_eq_directives_iff_pairedSigns :
    HasNoBlockComment pairedSigns ∧ includes pairedSigns = directives pairedSigns ∧
      directives pairedSigns = [⟨"a", true, false, 0⟩, ⟨"b", false, false, 2⟩] := by
  have h : HasNoBlockComment pairedSigns := by decide +kernel
  have hreadings : ∀ x ∈ readings pairedSigns, x.reported? = x.own? := by decide +kernel
  have heq := (includes_eq_directives_iff h).2.2.mpr fun x hx _ => hreadings x hx
  exact ⟨h, heq, by decide +kernel⟩

/-- A line comment with a sign that opens a block comment hides the directive on the next line. -/
theorem directive_hidden_after_lineComment :
    HasNoBlockComment "// all of lib/*.inc\n#include <sdktools>" ∧
      directives "// all of lib/*.inc\n#include <sdktools>" = [⟨"sdktools", true, false, 1⟩] ∧
      includes "// all of lib/*.inc\n#include <sdktools>" = [] := by
  decide +kernel

end PawnScope.Source
