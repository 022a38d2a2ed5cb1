import PawnScope.Proofs.Text.Identifiers
import PawnScope.Source.Parameters
import Mathlib.Algebra.BigOperators.Group.List.Basic
import Mathlib.Algebra.Order.Ring.Int
import Mathlib.Data.List.Infix

/-! # Nesting

Where a list ends and where it is divided is decided by the signs that open and close, by commas and
by equals signs, and by nothing else. A text is divided at the first comma or equals sign that
stands outside all nesting. -/

namespace PawnScope.Source

open Text

/-! ## Depth -/

/-- By how much a text raises the depth of nesting. -/
def rise (s : List Char) : Int := (s.map nesting).sum

@[simp] theorem rise_nil : rise [] = 0 := rfl

@[simp] theorem rise_cons (c : Char) (s : List Char) : rise (c :: s) = nesting c + rise s := by
  simp [rise]

@[simp] theorem rise_append (s t : List Char) : rise (s ++ t) = rise s + rise t := by
  simp [rise]

/-- Read from the given depth on, a text never closes more than is open. -/
def StaysAbove (depth : Int) : List Char → Prop
  | [] => 0 ≤ depth
  | c :: s => 0 ≤ depth ∧ StaysAbove (depth + nesting c) s

/-- Read from the given depth on, a text has the sign `x` inside some nesting only. -/
def Encloses (x : Char) (depth : Int) : List Char → Prop
  | [] => True
  | c :: s => ¬(c = x ∧ depth = 0) ∧ Encloses x (depth + nesting c) s

theorem staysAbove_iff {depth : Int} {s : List Char} :
    StaysAbove depth s ↔ ∀ front, front <+: s → 0 ≤ depth + rise front := by
  induction s generalizing depth with
  | nil => simp [StaysAbove]
  | cons c s ih =>
      rw [StaysAbove, ih]
      constructor
      · rintro ⟨hdepth, hrest⟩ front hfront
        cases front with
        | nil => simpa using hdepth
        | cons d front =>
            obtain ⟨rfl, hprefix⟩ := List.cons_prefix_cons.mp hfront
            have := hrest front hprefix
            rw [rise_cons]
            omega
      · intro h
        refine ⟨by simpa using h [] List.nil_prefix, ?_⟩
        intro front hfront
        have := h (c :: front) ((List.prefix_cons_inj c).mpr hfront)
        rw [rise_cons] at this
        omega

theorem staysAbove_append {depth : Int} {s t : List Char} :
    StaysAbove depth (s ++ t) ↔ StaysAbove depth s ∧ StaysAbove (depth + rise s) t := by
  induction s generalizing depth with
  | nil =>
      simp only [List.nil_append, StaysAbove, rise_nil, Int.add_zero]
      refine ⟨fun h => ⟨?_, h⟩, And.right⟩
      simpa using staysAbove_iff.mp h [] List.nil_prefix
  | cons c s ih =>
      simp only [List.cons_append, StaysAbove, ih, rise_cons, Int.add_assoc, and_assoc]

/-! ## Signs -/

/-- The signs that decide where a list ends and where it is divided. -/
def signs : List Char := ['(', '\x7b', '[', ')', '\x7d', ']', ',', '=']

/-- What is left of a text without all other characters. -/
def signsOf (s : List Char) : List Char := s.filter (· ∈ signs)

@[simp] theorem signsOf_append (s t : List Char) : signsOf (s ++ t) = signsOf s ++ signsOf t :=
  List.filter_append s t

theorem signsOf_cons_of_mem {c : Char} (h : c ∈ signs) (s : List Char) :
    signsOf (c :: s) = c :: signsOf s :=
  List.filter_cons_of_pos (decide_eq_true h)

theorem signsOf_cons_of_notMem {c : Char} (h : c ∉ signs) (s : List Char) :
    signsOf (c :: s) = signsOf s :=
  List.filter_cons_of_neg (by simpa using h)

theorem signsOf_eq_nil {s : List Char} {p : Char → Bool} (hp : signs.any p = false)
    (hs : ∀ c ∈ s, p c = true) : signsOf s = [] := by
  rw [signsOf, List.filter_eq_nil_iff]
  intro c hc hsign
  exact List.any_eq_false.mp hp c (of_decide_eq_true hsign) (hs c hc)

theorem signsOf_of_isIdentifier {s : List Char} (h : IsIdentifier s) : signsOf s = [] :=
  signsOf_eq_nil (by decide) h.isWord

theorem signsOf_of_isBlank {s : List Char} (h : isBlank s = true) : signsOf s = [] :=
  signsOf_eq_nil (by decide) (List.all_eq_true.mp h)

/-- White space holds no signs, so it may be left out. -/
theorem signsOf_filter_not_isSpace (s : List Char) :
    signsOf (s.filter (!isSpace ·)) = signsOf s := by
  have hspace : signs.any isSpace = false := by decide
  rw [signsOf, List.filter_filter, signsOf]
  apply List.filter_congr
  intro c _
  by_cases hc : c ∈ signs
  · simp [hc, List.any_eq_false.mp hspace c hc]
  · simp [hc]

theorem nesting_eq_zero {c : Char} (h : c ∉ signs) : nesting c = 0 := by
  simp only [signs, List.mem_cons, List.not_mem_nil, or_false, not_or] at h
  simp [nesting, isOpening, isClosing, h]

theorem rise_signsOf (s : List Char) : rise (signsOf s) = rise s := by
  induction s with
  | nil => rfl
  | cons c s ih =>
      by_cases hc : c ∈ signs
      · rw [signsOf_cons_of_mem hc, rise_cons, rise_cons, ih]
      · rw [signsOf_cons_of_notMem hc, rise_cons, nesting_eq_zero hc, Int.zero_add, ih]

theorem le_of_staysAbove {depth : Int} {s : List Char} (h : StaysAbove depth s) : 0 ≤ depth := by
  simpa using staysAbove_iff.mp h [] List.nil_prefix

theorem staysAbove_signsOf {depth : Int} {s : List Char} :
    StaysAbove depth (signsOf s) ↔ StaysAbove depth s := by
  induction s generalizing depth with
  | nil => rfl
  | cons c s ih =>
      by_cases hc : c ∈ signs
      · rw [signsOf_cons_of_mem hc, StaysAbove, StaysAbove, ih]
      · rw [signsOf_cons_of_notMem hc, StaysAbove, nesting_eq_zero hc, Int.add_zero, ih]
        exact ⟨fun h => ⟨le_of_staysAbove h, h⟩, And.right⟩

theorem encloses_signsOf {x : Char} (hx : x ∈ signs) {depth : Int} {s : List Char} :
    Encloses x depth (signsOf s) ↔ Encloses x depth s := by
  induction s generalizing depth with
  | nil => rfl
  | cons c s ih =>
      by_cases hc : c ∈ signs
      · rw [signsOf_cons_of_mem hc, Encloses, Encloses, ih]
      · have hne : c ≠ x := fun heq => hc (heq ▸ hx)
        rw [signsOf_cons_of_notMem hc, Encloses, nesting_eq_zero hc, Int.add_zero, ih]
        simp [hne]

/-! ## Dividing a text -/

/-- The first place where the sign `x` stands outside all nesting, if there is one. -/
theorem encloses_or_exists (x : Char) (depth : Int) (s : List Char) :
    Encloses x depth s ∨
      ∃ front back, s = front ++ x :: back ∧ Encloses x depth front ∧ depth + rise front = 0 := by
  induction s generalizing depth with
  | nil => exact Or.inl trivial
  | cons c s ih =>
      by_cases hc : c = x ∧ depth = 0
      · obtain ⟨rfl, rfl⟩ := hc
        exact Or.inr ⟨[], s, rfl, trivial, rfl⟩
      · rcases ih (depth + nesting c) with hs | ⟨front, back, rfl, hfront, hrise⟩
        · exact Or.inl ⟨hc, hs⟩
        · exact Or.inr ⟨c :: front, back, rfl, ⟨hc, hfront⟩, by rw [rise_cons]; omega⟩

theorem splitCommas_of_encloses {depth : Int} {s : List Char} (h : Encloses ',' depth s) :
    splitCommas depth s = [s] := by
  induction s generalizing depth with
  | nil => rfl
  | cons c s ih => rw [splitCommas, if_neg h.1, ih h.2]

theorem splitCommas_append {depth : Int} {front : List Char} (h : Encloses ',' depth front)
    (hrise : depth + rise front = 0) (back : List Char) :
    splitCommas depth (front ++ ',' :: back) = front :: splitCommas 0 back := by
  induction front generalizing depth with
  | nil =>
      obtain rfl : depth = 0 := by simpa using hrise
      rw [List.nil_append, splitCommas, if_pos ⟨rfl, rfl⟩]
  | cons c front ih =>
      rw [rise_cons, ← Int.add_assoc] at hrise
      rw [List.cons_append, splitCommas, if_neg h.1, ih h.2 hrise]

theorem cutDefault_of_encloses {depth : Int} {s : List Char} (h : Encloses '=' depth s) :
    cutDefault depth s = none := by
  induction s generalizing depth with
  | nil => rfl
  | cons c s ih =>
      rw [cutDefault, if_neg h.1, ih h.2]
      rfl

theorem cutDefault_append {depth : Int} {front : List Char} (h : Encloses '=' depth front)
    (hrise : depth + rise front = 0) (back : List Char) :
    cutDefault depth (front ++ '=' :: back) = some (front, back) := by
  induction front generalizing depth with
  | nil =>
      obtain rfl : depth = 0 := by simpa using hrise
      rw [List.nil_append, cutDefault, if_pos ⟨rfl, rfl⟩]
  | cons c front ih =>
      rw [rise_cons, ← Int.add_assoc] at hrise
      rw [List.cons_append, cutDefault, if_neg h.1, ih h.2 hrise]
      rfl

/-! ## Balanced texts -/

/-- A text that never closes more than it opens, and closes all that it opens. -/
def IsBalanced (s : List Char) : Prop := (∀ front, front <+: s → 0 ≤ rise front) ∧ rise s = 0

instance (s : List Char) : Decidable (IsBalanced s) :=
  decidable_of_iff ((∀ front ∈ s.inits, 0 ≤ rise front) ∧ rise s = 0)
    (by simp only [IsBalanced, List.mem_inits])

theorem isBalanced_iff {s : List Char} : IsBalanced s ↔ StaysAbove 0 s ∧ rise s = 0 := by
  simp only [IsBalanced, staysAbove_iff, Int.zero_add]

theorem IsBalanced.append {s t : List Char} (hs : IsBalanced s) (ht : IsBalanced t) :
    IsBalanced (s ++ t) := by
  rw [isBalanced_iff] at hs ht ⊢
  rw [staysAbove_append, rise_append, hs.2, ht.2]
  exact ⟨⟨hs.1, ht.1⟩, rfl⟩

/-- The sign that closes what stands before a balanced text. -/
theorem untilClosed_append_cons {depth : Nat} {s : List Char} (h : StaysAbove depth s)
    (hrise : depth + rise s = 0) {c : Char} (hc : isClosing c = true) (rest : List Char) :
    untilClosed (depth + 1) (s ++ c :: rest) = some s := by
  induction s generalizing depth with
  | nil =>
      have hopening : isOpening c = false := by
        simp only [isClosing, Bool.or_eq_true, beq_iff_eq] at hc
        rcases hc with (rfl | rfl) | rfl
        all_goals rfl
      obtain rfl : depth = 0 := by simpa using hrise
      simp [untilClosed, hopening, hc]
  | cons d s ih =>
      obtain ⟨-, hs⟩ := h
      rw [rise_cons, ← Int.add_assoc] at hrise
      rw [List.cons_append, untilClosed]
      by_cases hopening : isOpening d = true
      · have hd : nesting d = 1 := by simp [nesting, hopening]
        rw [hd] at hs hrise
        rw [if_pos hopening, ih (Int.natCast_succ depth ▸ hs) (Int.natCast_succ depth ▸ hrise)]
        rfl
      · by_cases hclosing : isClosing d = true
        · have hd : nesting d = -1 := by simp [nesting, hopening, hclosing]
          rw [hd] at hs hrise
          obtain ⟨depth, rfl⟩ : ∃ k, depth = k + 1 := by
            have hpos := le_of_staysAbove hs
            exact Nat.exists_eq_add_one.mpr (by omega)
          have hcast : ((depth + 1 : Nat) : Int) + -1 = depth := by omega
          rw [hcast] at hs hrise
          rw [if_neg hopening, if_pos hclosing, if_neg (by omega), Nat.add_sub_cancel, ih hs hrise]
          rfl
        · have hd : nesting d = 0 := by simp [nesting, hopening, hclosing]
          rw [hd, Int.add_zero] at hs hrise
          rw [if_neg hopening, if_neg hclosing, ih hs hrise]
          rfl

/-- A balanced list ends at the parenthesis behind it. -/
theorem parameterList?_of_isBalanced {list : List Char} (h : IsBalanced list) (rest : List Char) :
    parameterList? ('(' :: (list ++ ')' :: rest)) = some list := by
  rw [isBalanced_iff] at h
  have hrise : ((0 : Nat) : Int) + rise list = 0 := by rw [h.2]; rfl
  exact untilClosed_append_cons h.1 hrise rfl rest

/-- A balanced text that a comma does not divide. -/
structure IsItem (s : List Char) : Prop where
  balanced : IsBalanced s
  encloses : Encloses ',' 0 s

theorem IsItem.of_signsOf {s t : List Char} (ht : IsItem t) (h : signsOf s = signsOf t) :
    IsItem s := by
  obtain ⟨hbalanced, hencloses⟩ := ht
  rw [isBalanced_iff, ← staysAbove_signsOf, ← rise_signsOf, ← h] at hbalanced
  rw [← encloses_signsOf (by decide), ← h] at hencloses
  rw [staysAbove_signsOf, rise_signsOf, ← isBalanced_iff] at hbalanced
  exact ⟨hbalanced, (encloses_signsOf (by decide)).mp hencloses⟩

/-- The commas outside all nesting divide a balanced text into balanced parts. -/
theorem isItem_of_mem_splitCommas {s : List Char} (hs : IsBalanced s) :
    ∀ part ∈ splitCommas 0 s, IsItem part := by
  induction hlength : s.length using Nat.strongRecOn generalizing s with
  | ind n ih =>
      rcases encloses_or_exists ',' 0 s with hencloses | ⟨front, back, rfl, hfront, hrise⟩
      · rw [splitCommas_of_encloses hencloses, List.forall_mem_singleton]
        exact ⟨hs, hencloses⟩
      · rw [Int.zero_add] at hrise
        rw [isBalanced_iff, staysAbove_append, rise_append, hrise, StaysAbove, rise_cons] at hs
        obtain ⟨⟨habove, -, hback⟩, hsum⟩ := hs
        have hcomma : nesting ',' = 0 := rfl
        simp only [hcomma, Int.add_zero, Int.zero_add] at hback hsum
        rw [splitCommas_append hfront (by omega), List.forall_mem_cons]
        refine ⟨⟨isBalanced_iff.mpr ⟨habove, hrise⟩, hfront⟩, ?_⟩
        apply ih back.length ?_ (isBalanced_iff.mpr ⟨hback, hsum⟩) rfl
        rw [← hlength, List.length_append, List.length_cons]
        omega

end PawnScope.Source
