import PawnScope.Proofs.Text.Division
import PawnScope.Proofs.Text.Trimming
import PawnScope.Text.Word

/-! # Identifiers

A reader of names takes a name as long as it goes: what it reads is an identifier, and what follows
does not go on with it. White space never does. -/

namespace PawnScope.Text

/-- A name as a whole: a letter or an underscore, and word characters after it. -/
def IsIdentifier (s : List Char) : Prop :=
  ∃ c rest, s = c :: rest ∧ isNameStart c = true ∧ ∀ d ∈ rest, isWord d = true

theorem isIdentifier_cons {c : Char} {rest : List Char} :
    IsIdentifier (c :: rest) ↔ isNameStart c = true ∧ ∀ d ∈ rest, isWord d = true := by
  constructor
  · rintro ⟨_, _, ⟨⟩, hc, hrest⟩
    exact ⟨hc, hrest⟩
  · rintro ⟨hc, hrest⟩
    exact ⟨c, rest, rfl, hc, hrest⟩

instance : DecidablePred IsIdentifier
  | [] => isFalse fun ⟨_, _, h, _⟩ => nomatch h
  | c :: rest =>
      decidable_of_iff (isNameStart c = true ∧ rest.all isWord = true)
        (by rw [isIdentifier_cons, List.all_eq_true])

/-- The code points of white space. -/
def spacePoints : List Nat :=
  [9, 10, 11, 12, 13, 0x20, 0x85, 0xA0, 0x1680, 0x2000, 0x2001, 0x2002, 0x2003, 0x2004, 0x2005,
   0x2006, 0x2007, 0x2008, 0x2009, 0x200A, 0x2028, 0x2029, 0x202F, 0x205F, 0x3000]

theorem mem_spacePoints_of_isSpace {c : Char} (h : isSpace c = true) : c.toNat ∈ spacePoints := by
  simp only [isSpace, Bool.or_eq_true, Bool.and_eq_true, decide_eq_true_eq, beq_iff_eq] at h
  simp only [spacePoints, List.mem_cons, List.not_mem_nil, or_false]
  omega

theorem isWord_of_isSpace {c : Char} (h : isSpace c = true) : isWord c = false := by
  have hpoints : ∀ n ∈ spacePoints, isWord (Char.ofNat n) = false := by decide +kernel
  have hc := hpoints _ (mem_spacePoints_of_isSpace h)
  rwa [Char.ofNat_toNat] at hc

theorem isSpace_of_isWord {c : Char} (h : isWord c = true) : isSpace c = false := by
  rw [Bool.eq_false_iff]
  intro hspace
  rw [isWord_of_isSpace hspace] at h
  cases h

theorem toNat_lt_of_isAlpha {c : Char} (h : c.isAlpha = true) : c.toNat < 128 := by
  have hcases : c.isUpper = true ∨ c.isLower = true := Bool.or_eq_true_iff.mp h
  rcases hcases with hupper | hlower
  · have hle : c.val ≤ 'Z'.val := (of_decide_eq_true hupper).2
    exact Nat.lt_of_le_of_lt (UInt32.le_iff_toNat_le.mp hle) (by decide)
  · have hle : c.val ≤ 'z'.val := of_decide_eq_true (Bool.and_eq_true_iff.mp hlower).2
    exact Nat.lt_of_le_of_lt (UInt32.le_iff_toNat_le.mp hle) (by decide)

theorem isWord_of_isNameStart {c : Char} (h : isNameStart c = true) : isWord c = true := by
  simp only [isNameStart, Bool.or_eq_true, beq_iff_eq] at h
  rcases h with hletter | rfl
  · rw [isWord, if_pos (toNat_lt_of_isAlpha hletter), Char.isAlphanum, hletter]
    rfl
  · decide

theorem IsIdentifier.ne_nil {s : List Char} (h : IsIdentifier s) : s ≠ [] := by
  obtain ⟨c, rest, rfl, -, -⟩ := h
  simp

theorem IsIdentifier.isWord {s : List Char} (h : IsIdentifier s) : ∀ c ∈ s, isWord c = true := by
  obtain ⟨c, rest, rfl, hc, hrest⟩ := h
  rw [List.forall_mem_cons]
  exact ⟨isWord_of_isNameStart hc, hrest⟩

theorem IsIdentifier.exists_getLast {s : List Char} (h : IsIdentifier s) :
    ∃ c, s.getLast? = some c ∧ Text.isWord c = true := by
  obtain ⟨c, hc⟩ := Option.ne_none_iff_exists'.mp (mt List.getLast?_eq_none_iff.mp h.ne_nil)
  exact ⟨c, hc, h.isWord c (List.mem_of_getLast? hc)⟩

theorem IsIdentifier.isSpace {s : List Char} (h : IsIdentifier s) :
    ∀ c ∈ s, isSpace c = false :=
  fun c hc => isSpace_of_isWord (h.isWord c hc)

theorem IsIdentifier.notMem {s : List Char} (h : IsIdentifier s) {c : Char}
    (hc : Text.isWord c = false) : c ∉ s := by
  intro hmem
  rw [h.isWord c hmem] at hc
  cases hc

theorem IsIdentifier.trimStart_append {s : List Char} (h : IsIdentifier s) (rest : List Char) :
    trimStart (s ++ rest) = s ++ rest := by
  have hspace := h.isSpace
  obtain ⟨c, tail, rfl, -, -⟩ := h
  exact trimStart_cons (hspace c List.mem_cons_self) _

/-- A name is read as long as it goes. -/
theorem name?_eq_some_iff {s name rest : List Char} :
    name? s = some (name, rest) ↔
      IsIdentifier name ∧ s = name ++ rest ∧ ∀ c ∈ rest.head?, isWord c = false := by
  constructor
  · intro h
    cases s with
    | nil => cases h
    | cons c s =>
        rw [name?] at h
        split at h
        · rename_i hc
          cases h
          refine ⟨⟨c, _, rfl, hc, fun d hd => List.mem_takeWhile_imp hd⟩, ?_, ?_⟩
          · rw [List.cons_append, List.takeWhile_append_dropWhile]
          · intro d hd
            have hhead := List.head?_dropWhile_not isWord s
            rw [hd] at hhead
            simpa using hhead
        · cases h
  · rintro ⟨⟨c, tail, rfl, hc, htail⟩, rfl, hrest⟩
    have htake := takeWhile_append_eq_left htail hrest
    have hdrop : (tail ++ rest).dropWhile isWord = rest := by
      have happend := List.takeWhile_append_dropWhile (p := isWord) (l := tail ++ rest)
      rw [htake] at happend
      exact List.append_cancel_left happend
    rw [List.cons_append, name?, if_pos hc, htake, hdrop]

theorem name?_append_cons {name : List Char} (hname : IsIdentifier name) {c : Char}
    (hc : isWord c = false) (rest : List Char) :
    name? (name ++ c :: rest) = some (name, c :: rest) :=
  name?_eq_some_iff.mpr ⟨hname, rfl, by simpa using hc⟩

theorem isNameStart_of_name? {s name rest : List Char} (h : name? s = some (name, rest)) :
    ∃ c ∈ s.head?, isNameStart c = true := by
  obtain ⟨⟨c, tail, rfl, hc, -⟩, rfl, -⟩ := name?_eq_some_iff.mp h
  exact ⟨c, rfl, hc⟩

end PawnScope.Text
