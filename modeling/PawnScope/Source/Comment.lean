/-! # Block comments

What stands outside block comments, line by line. A comment may go on over line breaks, so each
line is read with a flag that says whether it starts inside one. -/

namespace PawnScope.Source

/-- Divides a text at its first occurrence of the two characters `a` and `b`. -/
def cutAt (a b : Char) : List Char → Option (List Char × List Char)
  | [] => none
  | [_] => none
  | c :: d :: s =>
      if c = a ∧ d = b then some ([], s)
      else (cutAt a b (d :: s)).map fun (front, back) => (c :: front, back)

theorem length_lt_of_cutAt {a b : Char} {s front back : List Char}
    (h : cutAt a b s = some (front, back)) : back.length < s.length := by
  induction s generalizing front with
  | nil => simp [cutAt] at h
  | cons c s ih =>
      cases s with
      | nil => simp [cutAt] at h
      | cons d s =>
          simp only [cutAt] at h
          split at h
          · simp only [Option.some.injEq, Prod.mk.injEq] at h
            simp only [← h.2, List.length_cons]
            omega
          · obtain ⟨⟨f, k⟩, hk, he⟩ := Option.map_eq_some_iff.mp h
            simp only [Prod.mk.injEq] at he
            have := ih (he.2 ▸ hk)
            simp only [List.length_cons] at this ⊢
            omega

/-- The part of a line outside block comments, and whether the line ends inside one. -/
def stripBlocks (inside : Bool) (s : List Char) : List Char × Bool :=
  if inside then
    match _h : cutAt '*' '/' s with
    | none => ([], true)
    | some (_, rest) => stripBlocks false rest
  else
    match _h : cutAt '/' '*' s with
    | none => (s, false)
    | some (front, rest) =>
        let (visible, inside') := stripBlocks true rest
        (front ++ visible, inside')
termination_by s.length
decreasing_by all_goals exact length_lt_of_cutAt _h

end PawnScope.Source
