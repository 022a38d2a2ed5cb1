import PawnScope.Include.Edge
import Mathlib.Data.List.TakeWhile

/-! # Normal forms of references

A reference is looked up in a normal form: with an extension of source files, and without what
stands up to its last `include` segment. What is cut off ends with a separator, so that the
extension and the base name are left as they are; and an extension is no separator, so that it makes
no new segment. Therefore a normal form is its own normal form, and leads where the reference
leads. -/

namespace PawnScope.Reference

open Text

/-! ## Extensions -/

theorem endsWith_iff {s tail : List Char} : endsWith s tail = true ↔ tail <:+ s := by
  rw [endsWith, beq_iff_eq, List.suffix_iff_eq_drop, eq_comm]

theorem hasExtension_iff {s : List Char} :
    hasExtension s = true ↔ ".sp".toList <:+ s ∨ ".inc".toList <:+ s := by
  rw [hasExtension, Bool.or_eq_true, endsWith_iff, endsWith_iff]

theorem exists_getLast?_of_hasExtension {s : List Char} (h : hasExtension s = true) :
    ∃ c, s.getLast? = some c ∧ (c = 'c' ∨ c = 'p') := by
  rcases hasExtension_iff.mp h with ⟨front, rfl⟩ | ⟨front, rfl⟩
  · exact ⟨'p', by simp, Or.inr rfl⟩
  · exact ⟨'c', by simp, Or.inl rfl⟩

theorem hasExtension_inferExtension (s : List Char) : hasExtension (inferExtension s) = true := by
  rw [inferExtension]
  split
  · rename_i hext
    exact hext
  · exact hasExtension_iff.mpr (Or.inr (List.suffix_append _ _))

/-- A text that has an extension keeps it and gets no other. -/
theorem inferExtension_eq_self_iff {s : List Char} :
    inferExtension s = s ↔ hasExtension s = true := by
  constructor
  · intro h
    rw [← h]
    exact hasExtension_inferExtension s
  · intro h
    have htrim : trimEnd s = s := by
      obtain ⟨c, hlast, hc⟩ := exists_getLast?_of_hasExtension h
      obtain ⟨front, rfl⟩ := List.getLast?_eq_some_iff.mp hlast
      have hspace : isSpace c = false := by
        rcases hc with rfl | rfl
        · decide
        · decide
      simp [trimEnd, hspace]
    rw [inferExtension, htrim]
    exact if_pos h

/-! ## Base names -/

/-- No separator stands in the text. -/
def IsName (s : List Char) : Prop := ∀ c ∈ s, isSeparator c = false

instance (s : List Char) : Decidable (IsName s) := List.decidableBAll _ s

theorem isName_baseName (s : List Char) : IsName (baseName s) := by
  intro c hc
  rw [baseName, List.mem_reverse] at hc
  simpa using List.mem_takeWhile_imp hc

theorem baseName_of_isName {s : List Char} (h : IsName s) : baseName s = s := by
  have hall : s.reverse.takeWhile (!isSeparator ·) = s.reverse := by
    rw [List.takeWhile_eq_self_iff]
    intro c hc
    simp [h c (List.mem_reverse.mp hc)]
  rw [baseName, hall, List.reverse_reverse]

/-- What stands before a separator does not count. -/
theorem baseName_append_cons (front : List Char) {c : Char} (hc : isSeparator c = true)
    (rest : List Char) : baseName (front ++ c :: rest) = baseName rest := by
  have hrev : (front ++ c :: rest).reverse = rest.reverse ++ c :: front.reverse := by simp
  have hstop : (c :: front.reverse).takeWhile (!isSeparator ·) = [] := by simp [hc]
  rw [baseName, baseName, hrev, List.takeWhile_append, hstop, List.append_nil]
  split
  · rename_i hlength
    rw [(List.takeWhile_prefix _).eq_of_length hlength]
  · rfl

/-- The base name ends as the whole text does. -/
theorem suffix_baseName_iff {s tail : List Char} (h : IsName tail) :
    tail <:+ baseName s ↔ tail <:+ s := by
  have hbase : baseName s <:+ s := by
    rw [← List.reverse_prefix, baseName, List.reverse_reverse]
    exact List.takeWhile_prefix _
  constructor
  · exact fun ht => ht.trans hbase
  · rintro ⟨front, rfl⟩
    have hpos : ∀ c ∈ tail.reverse, (!isSeparator c) = true := by
      intro c hc
      simp [h c (List.mem_reverse.mp hc)]
    rw [baseName, List.reverse_append, List.takeWhile_append_of_pos hpos, List.reverse_append,
      List.reverse_reverse]
    exact List.suffix_append _ _

theorem hasExtension_baseName (s : List Char) : hasExtension (baseName s) = hasExtension s := by
  have hsp : IsName ".sp".toList := by decide
  have hinc : IsName ".inc".toList := by decide
  rw [Bool.eq_iff_iff, hasExtension_iff, hasExtension_iff, suffix_baseName_iff hsp,
    suffix_baseName_iff hinc]

/-! ## Segments -/

/-- The segments that a separator follows, in order. -/
def innerSegments (s : List Char) : List (List Char) := (s.splitOnP isSeparator).dropLast

theorem innerSegments_of_isName {s : List Char} (h : IsName s) : innerSegments s = [] := by
  rw [innerSegments, List.splitOnP_eq_singleton h]
  rfl

theorem innerSegments_append_cons {front : List Char} (h : IsName front) {c : Char}
    (hc : isSeparator c = true) (rest : List Char) :
    innerSegments (front ++ c :: rest) = front :: innerSegments rest := by
  rw [innerSegments, List.splitOnP_append_cons_of_forall_mem h c hc,
    List.dropLast_cons_of_ne_nil (List.splitOnP_ne_nil _ _)]
  rfl

theorem isName_takeWhile (s : List Char) : IsName (s.takeWhile (!isSeparator ·)) := by
  intro c hc
  simpa using List.mem_takeWhile_imp hc

/-- A text divided at its first separator. -/
theorem eq_of_dropWhile {s rest : List Char} {c : Char}
    (h : s.dropWhile (!isSeparator ·) = c :: rest) :
    isSeparator c = true ∧ s = s.takeWhile (!isSeparator ·) ++ c :: rest := by
  constructor
  · have hhead := List.head?_dropWhile_not (!isSeparator ·) s
    rw [h] at hhead
    simpa using hhead
  · rw [← h, List.takeWhile_append_dropWhile]

theorem exists_of_afterInclude? {s rest : List Char} (h : afterInclude? s = some rest) :
    ∃ front c, isSeparator c = true ∧ s = front ++ c :: rest := by
  fun_induction afterInclude? s with
  | case1 s hdrop => cases h
  | case2 s c tail hdrop ih =>
      obtain ⟨hc, hs⟩ := eq_of_dropWhile hdrop
      rcases Option.or_eq_some_iff.mp h with h | ⟨-, h⟩
      · obtain ⟨front, d, hd, htail⟩ := ih h
        refine ⟨s.takeWhile (!isSeparator ·) ++ c :: front, d, hd, ?_⟩
        rw [List.append_assoc, List.cons_append, ← htail]
        exact hs
      · have hrest : tail = rest := by
          split at h
          · exact Option.some.inj h
          · cases h
        exact ⟨_, c, hc, hrest ▸ hs⟩

theorem afterInclude?_eq_none_iff {s : List Char} :
    afterInclude? s = none ↔ "include".toList ∉ innerSegments s := by
  fun_induction afterInclude? s with
  | case1 s hdrop =>
      have hname : IsName s := by
        intro c hc
        simpa using List.dropWhile_eq_nil_iff.mp hdrop c hc
      simp [innerSegments_of_isName hname]
  | case2 s c rest hdrop ih =>
      obtain ⟨hc, hs⟩ := eq_of_dropWhile hdrop
      have hinner := innerSegments_append_cons (isName_takeWhile s) hc rest
      rw [← hs] at hinner
      have hfirst : (if s.takeWhile (!isSeparator ·) = "include".toList then some rest else none) =
          none ↔ "include".toList ≠ s.takeWhile (!isSeparator ·) := by
        rw [ite_eq_right_iff, ne_comm]
        exact ⟨fun h heq => Option.some_ne_none rest (h heq), fun h heq => absurd heq h⟩
      rw [Option.or_eq_none_iff, ih, hfirst, hinner, List.mem_cons, not_or, and_comm]

/-- What follows the last `include` segment has no such segment. -/
theorem afterInclude?_of_afterInclude? {s rest : List Char} (h : afterInclude? s = some rest) :
    afterInclude? rest = none := by
  fun_induction afterInclude? s with
  | case1 s hdrop => cases h
  | case2 s c tail hdrop ih =>
      rcases Option.or_eq_some_iff.mp h with h | ⟨hnone, h⟩
      · exact ih h
      · split at h
        · exact Option.some.inj h ▸ hnone
        · cases h

theorem afterInclude?_stripInclude (s : List Char) : afterInclude? (stripInclude s) = none := by
  rw [stripInclude]
  cases h : afterInclude? s with
  | none => exact h
  | some rest => exact afterInclude?_of_afterInclude? h

theorem stripInclude_eq_self {s : List Char} (h : afterInclude? s = none) : stripInclude s = s := by
  rw [stripInclude, h]
  rfl

theorem baseName_stripInclude (s : List Char) : baseName (stripInclude s) = baseName s := by
  rw [stripInclude]
  cases h : afterInclude? s with
  | none => rfl
  | some rest =>
      obtain ⟨front, c, hc, rfl⟩ := exists_of_afterInclude? h
      exact (baseName_append_cons front hc rest).symm

/-! ## Normal forms -/

theorem baseName_normalize (s : List Char) : baseName (normalize s) = baseName (inferExtension s) :=
  baseName_stripInclude _

/-- The extension of a reference survives in its normal form. -/
theorem hasExtension_normalize (s : List Char) : hasExtension (normalize s) = true := by
  rw [← hasExtension_baseName, baseName_normalize, hasExtension_baseName]
  exact hasExtension_inferExtension s

theorem exists_getLast?_normalize (s : List Char) :
    ∃ c, (normalize s).getLast? = some c ∧ (c = 'c' ∨ c = 'p') :=
  exists_getLast?_of_hasExtension (hasExtension_normalize s)

theorem normalize_normalize (s : List Char) : normalize (normalize s) = normalize s := by
  have hinfer : inferExtension (normalize s) = normalize s :=
    inferExtension_eq_self_iff.mpr (hasExtension_normalize s)
  have hstrip : stripInclude (normalize s) = normalize s :=
    stripInclude_eq_self (afterInclude?_stripInclude (inferExtension s))
  rw [normalize, hinfer, hstrip]

/-- The normal form of any reference is its own normal form; it ends with an extension, and no
`include` segment in it has a separator after it; its base name is that of the reference with its
extension; and it leads where the reference leads, whatever is registered and on disk. -/
theorem normalize_stable (reference : String) :
    normalize (normalize reference.toList) = normalize reference.toList ∧
      (".sp".toList <:+ normalize reference.toList ∨
        ".inc".toList <:+ normalize reference.toList) ∧
      "include".toList ∉ innerSegments (normalize reference.toList) ∧
      baseName (normalize reference.toList) = baseName (inferExtension reference.toList) ∧
      ∀ disk registry directories isBuiltin,
        resolve disk registry directories (String.ofList (normalize reference.toList)) isBuiltin =
          resolve disk registry directories reference isBuiltin := by
  refine ⟨normalize_normalize _, hasExtension_iff.mp (hasExtension_normalize _), ?_,
    baseName_normalize _, ?_⟩
  · exact afterInclude?_eq_none_iff.mp (afterInclude?_stripInclude _)
  · intro disk registry directories isBuiltin
    rw [resolve, resolve, String.toList_ofList, normalize_normalize]

end PawnScope.Reference
