import PawnScope.Text.Percent

/-! # What percent-encoding keeps

The octets that a text stands for can be read back from its percent-encoded form, provided that
the percent sign itself is encoded. -/

namespace PawnScope.Text

/-! ## Octets of characters -/

theorem utf8EncodeChar_of_lt {c : Char} (h : c.toNat < 128) :
    String.utf8EncodeChar c = [UInt8.ofNat c.toNat] := by
  have hv : c.val.toNat ≤ 0x7f := Nat.le_of_lt_succ h
  simp only [String.utf8EncodeChar, if_pos hv]
  rfl

/-- The octets of a character beyond ASCII are beyond ASCII too. -/
theorem le_of_mem_utf8EncodeChar {c : Char} {b : UInt8} (h : 128 ≤ c.toNat)
    (hb : b ∈ String.utf8EncodeChar c) : 128 ≤ b.toNat := by
  have hv : ¬c.val.toNat ≤ 0x7f := Nat.not_le_of_lt h
  have htail : ∀ n m, 128 ≤ m → n + m < 256 → 128 ≤ (UInt8.ofNat (n + m)).toNat := by
    intro n m hm hlt
    rw [UInt8.toNat_ofNat_of_lt' hlt]
    omega
  simp only [String.utf8EncodeChar, if_neg hv] at hb
  split at hb
  · simp only [List.mem_cons, List.not_mem_nil, or_false] at hb
    rcases hb with rfl | rfl
    · exact htail _ _ (by omega) (by omega)
    · exact htail _ _ (by omega) (by omega)
  · split at hb
    · simp only [List.mem_cons, List.not_mem_nil, or_false] at hb
      rcases hb with rfl | rfl | rfl
      · exact htail _ _ (by omega) (by omega)
      · exact htail _ _ (by omega) (by omega)
      · exact htail _ _ (by omega) (by omega)
    · simp only [List.mem_cons, List.not_mem_nil, or_false] at hb
      rcases hb with rfl | rfl | rfl | rfl
      · exact htail _ _ (by omega) (by omega)
      · exact htail _ _ (by omega) (by omega)
      · exact htail _ _ (by omega) (by omega)
      · exact htail _ _ (by omega) (by omega)

/-- An octet of ASCII in a text is a character of the text. -/
theorem ofNat_mem_of_mem_octets {s : List Char} {b : UInt8} (hb : b.toNat < 128)
    (h : b ∈ octets s) : Char.ofNat b.toNat ∈ s := by
  obtain ⟨c, hc, hbc⟩ := List.mem_flatMap.mp h
  by_cases hlt : c.toNat < 128
  · rw [utf8EncodeChar_of_lt hlt, List.mem_singleton] at hbc
    have hn : b.toNat = c.toNat := by
      rw [hbc, UInt8.toNat_ofNat_of_lt' (Nat.lt_trans hlt (by decide))]
    rwa [hn, Char.ofNat_toNat]
  · have hle := le_of_mem_utf8EncodeChar (Nat.le_of_not_lt hlt) hbc
    omega

theorem octets_append (s t : List Char) : octets (s ++ t) = octets s ++ octets t :=
  List.flatMap_append

/-! ## Single octets -/

theorem hexValue?_hexDigit {n : Nat} (h : n < 16) : hexValue? (hexDigit n) = some n := by
  have hall : ∀ m : Fin 16, hexValue? (hexDigit m) = some m.val := by decide
  exact hall ⟨n, h⟩

/-- What follows an encoded octet is decoded by itself. -/
theorem percentDecode_percentByte_append {reserved : List Char} (hreserved : '%' ∈ reserved)
    (b : UInt8) (s : List Char) :
    percentDecode (percentByte reserved b ++ s) = b :: percentDecode s := by
  have hb := b.toNat_lt
  by_cases hwritten : (b < 0x20 || 0x7F ≤ b || reserved.contains (Char.ofNat b.toNat)) = true
  · have hvalue : UInt8.ofNat (16 * (b.toNat / 16) + b.toNat % 16) = b := by
      rw [Nat.div_add_mod, UInt8.ofNat_toNat]
    simp only [percentByte, if_pos hwritten, List.cons_append, List.nil_append, percentDecode,
      hexValue?_hexDigit (show b.toNat / 16 < 16 by omega),
      hexValue?_hexDigit (show b.toNat % 16 < 16 by omega), hvalue]
  · have hnot : ¬0x7F ≤ b ∧ Char.ofNat b.toNat ∉ reserved := by
      simp only [Bool.or_eq_true, decide_eq_true_eq, List.contains_iff_mem, not_or] at hwritten
      exact ⟨hwritten.1.2, hwritten.2⟩
    have hlt : b.toNat < 128 := by
      have hle : ¬(127 : UInt8).toNat ≤ b.toNat := fun hle => hnot.1 (UInt8.le_iff_toNat_le.mpr hle)
      have h127 : (127 : UInt8).toNat = 127 := rfl
      omega
    have hchar : (Char.ofNat b.toNat).toNat = b.toNat := by
      have hall : ∀ n : Fin 128, (Char.ofNat n).toNat = n.val := by decide
      exact hall ⟨b.toNat, hlt⟩
    have hne : Char.ofNat b.toNat ≠ '%' := by
      intro he
      exact hnot.2 (he ▸ hreserved)
    simp only [percentByte, if_neg hwritten, List.cons_append, List.nil_append]
    rw [percentDecode, utf8EncodeChar_of_lt (by rwa [hchar]), hchar, UInt8.ofNat_toNat]
    · rfl
    · rintro h l rest he -
      exact hne he

/-! ## Whole texts -/

theorem percentDecode_percentOctets {reserved : List Char} (hreserved : '%' ∈ reserved)
    (s : List UInt8) : percentDecode (percentOctets reserved s) = s := by
  induction s with
  | nil => rfl
  | cons b s ih =>
      have hcons : percentOctets reserved (b :: s) =
          percentByte reserved b ++ percentOctets reserved s := rfl
      rw [hcons, percentDecode_percentByte_append hreserved, ih]

theorem percentEncode_append (reserved s t : List Char) :
    percentEncode reserved (s ++ t) = percentEncode reserved s ++ percentEncode reserved t := by
  rw [percentEncode, octets_append]
  exact List.flatMap_append

end PawnScope.Text
