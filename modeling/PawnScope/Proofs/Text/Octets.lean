import PawnScope.Proofs.Text.Percent
import Mathlib.Data.List.Induction

/-! # Reading UTF-8 back

A text that is read from octets has exactly these octets. So a text and its octets determine each
other, and what the octets say about the end of a name in ASCII can be said of its text. -/

namespace PawnScope.Text

/-! ## One character -/

theorem toNat_ofNat {n : Nat} (h : n.isValidChar) : (Char.ofNat n).val.toNat = n := by
  rw [Char.ofNat, dif_pos h]
  rfl

theorem utf8EncodeChar_ofNat_two {n : Nat} (hlow : 0x80 ≤ n) (hhigh : n < 0x800) :
    String.utf8EncodeChar (Char.ofNat n) =
      [UInt8.ofNat (n / 64 + 0xC0), UInt8.ofNat (n % 64 + 0x80)] := by
  have hvalid : n.isValidChar := Or.inl (by omega)
  have hlead : n / 64 % 32 = n / 64 := by omega
  simp only [String.utf8EncodeChar, toNat_ofNat hvalid, hlead]
  rw [if_neg (by omega), if_pos (by omega)]

theorem utf8EncodeChar_ofNat_three {n : Nat} (hvalid : n.isValidChar) (hlow : 0x800 ≤ n)
    (hhigh : n < 0x10000) :
    String.utf8EncodeChar (Char.ofNat n) =
      [UInt8.ofNat (n / 4096 + 0xE0), UInt8.ofNat (n / 64 % 64 + 0x80),
        UInt8.ofNat (n % 64 + 0x80)] := by
  have hlead : n / 4096 % 16 = n / 4096 := by omega
  simp only [String.utf8EncodeChar, toNat_ofNat hvalid, hlead]
  rw [if_neg (by omega), if_neg (by omega), if_pos (by omega)]

theorem utf8EncodeChar_ofNat_four {n : Nat} (hlow : 0x10000 ≤ n) (hhigh : n < 0x110000) :
    String.utf8EncodeChar (Char.ofNat n) =
      [UInt8.ofNat (n / 262144 + 0xF0), UInt8.ofNat (n / 4096 % 64 + 0x80),
        UInt8.ofNat (n / 64 % 64 + 0x80), UInt8.ofNat (n % 64 + 0x80)] := by
  have hvalid : n.isValidChar := Or.inr ⟨by omega, hhigh⟩
  have hlead : n / 262144 % 8 = n / 262144 := by omega
  simp only [String.utf8EncodeChar, toNat_ofNat hvalid, hlead]
  rw [if_neg (by omega), if_neg (by omega), if_neg (by omega)]

theorem ofNat_eq {n : Nat} {b : UInt8} (h : n = b.toNat) : UInt8.ofNat n = b := by
  rw [h, UInt8.ofNat_toNat]

theorem isTail_iff {b : UInt8} : isTail b = true ↔ 0x80 ≤ b.toNat ∧ b.toNat ≤ 0xBF := by
  simp [isTail, UInt8.le_iff_toNat_le]

/-- What the first octet of a character admits as the second. -/
theorem bounds_of_isSecond {a b : UInt8} (h : isSecond a b = true) :
    0x80 ≤ b.toNat ∧ b.toNat ≤ 0xBF ∧ (a.toNat = 0xE0 → 0xA0 ≤ b.toNat) ∧
      (a.toNat = 0xED → b.toNat ≤ 0x9F) ∧ (a.toNat = 0xF0 → 0x90 ≤ b.toNat) ∧
      (a.toNat = 0xF4 → b.toNat ≤ 0x8F) := by
  simp only [isSecond, isTail, beq_iff_eq, ← UInt8.toNat_inj, UInt8.reduceToNat] at h
  split at h
  · simp [UInt8.le_iff_toNat_le] at h
    omega
  · split at h
    · simp [UInt8.le_iff_toNat_le] at h
      omega
    · split at h
      · simp [UInt8.le_iff_toNat_le] at h
        omega
      · split at h
        · simp [UInt8.le_iff_toNat_le] at h
          omega
        · simp [UInt8.le_iff_toNat_le] at h
          omega

theorem utf8EncodeChar_assemble_two {a b : UInt8} (ha : 0xC2 ≤ a.toNat ∧ a.toNat ≤ 0xDF)
    (hb : isTail b = true) :
    String.utf8EncodeChar (assemble (a.toNat - 0xC0) [b]) = [a, b] := by
  have hb := isTail_iff.mp hb
  simp only [assemble, List.foldl_cons, List.foldl_nil]
  rw [utf8EncodeChar_ofNat_two (by omega) (by omega), ofNat_eq (b := a) (by omega),
    ofNat_eq (b := b) (by omega)]

theorem utf8EncodeChar_assemble_three {a b c : UInt8} (ha : 0xE0 ≤ a.toNat ∧ a.toNat ≤ 0xEF)
    (hb : isSecond a b = true) (hc : isTail c = true) :
    String.utf8EncodeChar (assemble (a.toNat - 0xE0) [b, c]) = [a, b, c] := by
  have hb := bounds_of_isSecond hb
  have hc := isTail_iff.mp hc
  simp only [assemble, List.foldl_cons, List.foldl_nil]
  rw [utf8EncodeChar_ofNat_three (by simp only [Nat.isValidChar]; omega) (by omega) (by omega),
    ofNat_eq (b := a) (by omega), ofNat_eq (b := b) (by omega), ofNat_eq (b := c) (by omega)]

theorem utf8EncodeChar_assemble_four {a b c d : UInt8} (ha : 0xF0 ≤ a.toNat ∧ a.toNat ≤ 0xF4)
    (hb : isSecond a b = true) (hc : isTail c = true) (hd : isTail d = true) :
    String.utf8EncodeChar (assemble (a.toNat - 0xF0) [b, c, d]) = [a, b, c, d] := by
  have hb := bounds_of_isSecond hb
  have hc := isTail_iff.mp hc
  have hd := isTail_iff.mp hd
  simp only [assemble, List.foldl_cons, List.foldl_nil]
  rw [utf8EncodeChar_ofNat_four (by omega) (by omega), ofNat_eq (b := a) (by omega),
    ofNat_eq (b := b) (by omega), ofNat_eq (b := c) (by omega), ofNat_eq (b := d) (by omega)]

/-- A character that is read from octets has the octets that it uses up. -/
theorem utf8EncodeChar_of_decodeFirst {a : UInt8} {s : List UInt8} {c : Char} {n : Nat}
    (h : decodeFirst a s = (some c, n)) : String.utf8EncodeChar c ++ s.drop n = a :: s := by
  unfold decodeFirst at h
  split at h
  · rename_i hascii
    obtain ⟨hc, rfl⟩ := Prod.mk.inj h
    obtain rfl := Option.some.inj hc
    have hlt : a.toNat < 128 := UInt8.lt_iff_toNat_lt.mp hascii
    have hchar : (Char.ofNat a.toNat).toNat = a.toNat := toNat_ofNat (Or.inl (by omega))
    rw [utf8EncodeChar_of_lt (by omega), hchar, UInt8.ofNat_toNat]
    rfl
  · split at h
    · rename_i hlead
      simp only [Bool.and_eq_true, decide_eq_true_eq, UInt8.le_iff_toNat_le] at hlead
      split at h
      · split at h
        · rename_i b s hb
          obtain ⟨hchar, rfl⟩ := Prod.mk.inj h
          rw [← Option.some.inj hchar, utf8EncodeChar_assemble_two hlead hb]
          rfl
        · cases h
      · cases h
    · split at h
      · rename_i hlead
        simp only [Bool.and_eq_true, decide_eq_true_eq, UInt8.le_iff_toNat_le] at hlead
        split at h
        · split at h
          · rename_i b d s hb
            split at h
            · rename_i hd
              obtain ⟨hchar, rfl⟩ := Prod.mk.inj h
              rw [← Option.some.inj hchar, utf8EncodeChar_assemble_three hlead hb hd]
              rfl
            · cases h
          · cases h
        · cases h
        · cases h
      · split at h
        · rename_i hlead
          simp only [Bool.and_eq_true, decide_eq_true_eq, UInt8.le_iff_toNat_le] at hlead
          split at h
          · split at h
            · rename_i b d e s hb
              split at h
              · rename_i hd
                split at h
                · rename_i he
                  obtain ⟨hchar, rfl⟩ := Prod.mk.inj h
                  rw [← Option.some.inj hchar, utf8EncodeChar_assemble_four hlead hb hd he]
                  rfl
                · cases h
              · cases h
            · cases h
          · cases h
          · cases h
          · cases h
        · cases h

/-! ## Whole texts -/

theorem octets_of_ofOctets? {bs : List UInt8} {s : List Char} (h : ofOctets? bs = some s) :
    octets s = bs := by
  unfold ofOctets? at h
  fun_induction decodeParts bs generalizing s with
  | case1 =>
      obtain rfl : [] = s := by simpa using h
      rfl
  | case2 a bs c n hfirst ih =>
      simp only [List.mapM_cons, Option.bind_eq_bind, Option.bind_eq_some_iff, id] at h
      obtain ⟨d, rfl, t, ht, hs⟩ := h
      obtain rfl : d :: t = s := by simpa using hs
      have hrest := ih ht
      rw [octets, List.flatMap_cons, ← octets, hrest]
      exact utf8EncodeChar_of_decodeFirst hfirst

theorem octets_injective {s t : List Char} (h : octets s = octets t) : s = t := by
  have hbytes : s.utf8Encode = t.utf8Encode := congrArg List.toByteArray h
  rw [← String.toByteArray_ofList, ← String.toByteArray_ofList, String.toByteArray_inj] at hbytes
  simpa using congrArg String.toList hbytes

theorem octets_singleton {c : Char} (h : c.toNat < 128) : octets [c] = [UInt8.ofNat c.toNat] := by
  simp [octets, utf8EncodeChar_of_lt h]

/-- All characters are in ASCII. -/
def IsAscii (s : List Char) : Prop := ∀ c ∈ s, c.toNat < 128

instance (s : List Char) : Decidable (IsAscii s) := List.decidableBAll _ s

/-- Text in ASCII is read back from its octets. -/
theorem ofOctets?_octets {s : List Char} (h : IsAscii s) : ofOctets? (octets s) = some s := by
  induction s with
  | nil => decide +kernel
  | cons c s ih =>
      rw [IsAscii, List.forall_mem_cons] at h
      have htoNat : (UInt8.ofNat c.toNat).toNat = c.toNat := by
        rw [UInt8.toNat_ofNat']
        omega
      have hfirst : decodeFirst (UInt8.ofNat c.toNat) (octets s) = (some c, 0) := by
        have hlow : UInt8.ofNat c.toNat < 0x80 := by
          rw [UInt8.lt_iff_toNat_lt, htoNat]
          exact h.1
        unfold decodeFirst
        rw [if_pos hlow, htoNat, Char.ofNat_toNat]
      have hoctets : octets (c :: s) = UInt8.ofNat c.toNat :: octets s := by
        simp [octets, utf8EncodeChar_of_lt h.1]
      have hrest := ih h.2
      rw [ofOctets?] at hrest
      simp [ofOctets?, hoctets, decodeParts, hfirst, hrest]

/-- Octets that end in an ASCII character are those of a text with this end. -/
theorem exists_concat_of_octets {s : List Char} {c : Char} {front : List UInt8}
    (hc : c.toNat < 128) (h : octets s = front ++ [UInt8.ofNat c.toNat]) :
    ∃ t, s = t ++ [c] ∧ octets t = front := by
  obtain rfl | ⟨t, d, rfl⟩ : s = [] ∨ ∃ t d, s = t ++ [d] := by
    simpa using List.eq_nil_or_concat s
  · simp [octets] at h
  · rw [octets_append] at h
    by_cases hd : d.toNat < 128
    · rw [octets_singleton hd] at h
      obtain ⟨hfront, hlast⟩ := List.append_inj' h rfl
      have hcode : d.toNat = c.toNat := by
        have hmod := congrArg UInt8.toNat (List.singleton_inj.mp hlast)
        rw [UInt8.toNat_ofNat', UInt8.toNat_ofNat'] at hmod
        omega
      exact ⟨t, by rw [Char.toNat_inj.mp hcode], hfront⟩
    · -- The last octet of a character beyond ASCII is beyond ASCII too.
      have hne : (octets [d]).getLast? ≠ none := by simp [octets]
      obtain ⟨b, hb⟩ := Option.ne_none_iff_exists'.mp hne
      have hlast := congrArg List.getLast? h
      rw [List.getLast?_append, hb, List.getLast?_concat, Option.some_or, Option.some.injEq] at hlast
      have hmem : UInt8.ofNat c.toNat ∈ octets [d] := hlast ▸ List.mem_of_getLast? hb
      have hlow := le_of_mem_utf8EncodeChar (c := d) (b := UInt8.ofNat c.toNat) (by omega)
        (by simpa [octets] using hmem)
      rw [UInt8.toNat_ofNat'] at hlow
      omega

/-- Octets with an end in ASCII are those of a text with this end. -/
theorem suffix_of_octets_suffix {s tail : List Char} (htail : ∀ c ∈ tail, c.toNat < 128)
    (h : octets tail <:+ octets s) : tail <:+ s := by
  induction tail using List.reverseRecOn generalizing s with
  | nil => exact List.nil_suffix
  | append_singleton tail c ih =>
      have hc : c.toNat < 128 := htail c (by simp)
      obtain ⟨front, hfront⟩ := h
      rw [octets_append, octets_singleton hc, ← List.append_assoc] at hfront
      obtain ⟨t, rfl, ht⟩ := exists_concat_of_octets hc hfront.symm
      have hrest : tail <:+ t := ih (fun d hd => htail d (by simp [hd])) ⟨front, ht.symm⟩
      exact List.suffix_append_self_iff.mpr hrest

end PawnScope.Text
