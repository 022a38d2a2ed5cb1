/-! # Catalogs

A catalog is a finite map that remembers the order in which its keys were first inserted:
inserting under a key that is present replaces the value in its place. The laws below say what
each operation does to `get?` and to `keys`. -/

namespace PawnScope

/-- Entries in the order of their keys' first insertion, one for each key. -/
structure Catalog (κ : Type) (α : Type) where
  entries : List (κ × α)
  nodup : (entries.map Prod.fst).Nodup
  deriving Repr

namespace Catalog

variable {κ α : Type} [DecidableEq κ]

def empty : Catalog κ α := ⟨[], List.nodup_nil⟩

instance : EmptyCollection (Catalog κ α) := ⟨empty⟩

instance : Inhabited (Catalog κ α) := ⟨empty⟩

/-- The value under a key. -/
def get? (m : Catalog κ α) (k : κ) : Option α :=
  (m.entries.find? fun e => e.1 = k).map Prod.snd

def contains (m : Catalog κ α) (k : κ) : Bool := (m.get? k).isSome

def keys (m : Catalog κ α) : List κ := m.entries.map Prod.fst

def values (m : Catalog κ α) : List α := m.entries.map Prod.snd

def size (m : Catalog κ α) : Nat := m.entries.length

def isEmpty (m : Catalog κ α) : Bool := m.entries.isEmpty

/-- The entry with its value replaced if it has the given key. -/
def replaceAt (k : κ) (a : α) (e : κ × α) : κ × α := if e.1 = k then (k, a) else e

theorem fst_replaceAt (k : κ) (a : α) (e : κ × α) : (replaceAt k a e).1 = e.1 := by
  by_cases h : e.1 = k
  · simp [replaceAt, h]
  · simp [replaceAt, h]

theorem map_fst_replaceAt (es : List (κ × α)) (k : κ) (a : α) :
    (es.map (replaceAt k a)).map Prod.fst = es.map Prod.fst := by
  rw [List.map_map]
  exact List.map_congr_left fun e _ => fst_replaceAt k a e

theorem mem_keys_iff {m : Catalog κ α} {k : κ} : k ∈ m.keys ↔ m.contains k = true := by
  simp [keys, contains, get?, List.find?_isSome]

/-- Replaces the value under `k` in its place, or adds an entry at the end. -/
def insert (m : Catalog κ α) (k : κ) (a : α) : Catalog κ α :=
  if h : m.contains k then
    ⟨m.entries.map (replaceAt k a), by rw [map_fst_replaceAt]; exact m.nodup⟩
  else
    ⟨m.entries ++ [(k, a)], by
      have hk : k ∉ m.keys := fun hk => h (mem_keys_iff.mp hk)
      rw [List.map_append, List.nodup_append]
      refine ⟨m.nodup, by simp, ?_⟩
      intro x hx y hy hxy
      simp only [List.map_cons, List.map_nil, List.mem_singleton] at hy
      exact hk (hy ▸ hxy ▸ hx)⟩

def erase (m : Catalog κ α) (k : κ) : Catalog κ α :=
  ⟨m.entries.filter fun e => e.1 ≠ k, (List.filter_sublist.map Prod.fst).nodup m.nodup⟩

/-- Inserts the pairs one after another, so that a later pair wins. -/
def ofList (es : List (κ × α)) : Catalog κ α := es.foldl (fun m e => m.insert e.1 e.2) empty

/-! ## Laws -/

theorem mem_keys_of_get? {m : Catalog κ α} {k : κ} {a : α} (h : m.get? k = some a) :
    k ∈ m.keys :=
  mem_keys_iff.mpr (by simp [contains, h])

theorem get?_eq_none_iff {m : Catalog κ α} {k : κ} : m.get? k = none ↔ k ∉ m.keys := by
  rw [mem_keys_iff, contains]
  cases m.get? k with
  | none => simp
  | some a => simp

/-- Looking up a replaced value among entries of which one has the key. -/
theorem find?_map_replaceAt (es : List (κ × α)) (k k' : κ) (a : α) :
    ((es.map (replaceAt k a)).find? fun e => e.1 = k') =
      (es.find? fun e => e.1 = k').map (replaceAt k a) := by
  have hp : (fun e : κ × α => decide (e.1 = k')) ∘ replaceAt k a = fun e => decide (e.1 = k') := by
    funext e
    simp only [Function.comp_apply, fst_replaceAt]
  rw [List.find?_map, hp]

theorem get?_insert (m : Catalog κ α) (k k' : κ) (a : α) :
    (m.insert k a).get? k' = if k = k' then some a else m.get? k' := by
  by_cases h : m.contains k
  · simp only [insert, h, ↓reduceDIte, get?, find?_map_replaceAt, Option.map_map]
    cases hf : m.entries.find? fun e => e.1 = k' with
    | none =>
        have hne : k ≠ k' := by
          rintro rfl
          simp [contains, get?, hf] at h
        simp [hne]
    | some e =>
        have he : e.1 = k' := by simpa using List.find?_some hf
        by_cases hk : k = k'
        · simp [replaceAt, he, hk]
        · simp [replaceAt, he, hk, Ne.symm hk]
  · simp only [insert, h, Bool.false_eq_true, ↓reduceDIte, get?, List.find?_append]
    by_cases hk : k = k'
    · have hn : (m.entries.find? fun e => e.1 = k') = none := by
        cases hf : m.entries.find? fun e => e.1 = k' with
        | none => rfl
        | some e => exact absurd (by rw [hk, contains, get?, hf]; rfl) h
      simp [hn, hk]
    · simp [hk]

theorem get?_erase (m : Catalog κ α) (k k' : κ) :
    (m.erase k).get? k' = if k = k' then none else m.get? k' := by
  simp only [erase, get?, List.find?_filter]
  by_cases hk : k = k'
  · subst hk
    simp
  · have hp : (fun e : κ × α => decide (decide (e.1 ≠ k) = true ∧ decide (e.1 = k') = true)) =
        fun e => decide (e.1 = k') := by
      funext e
      by_cases he : e.1 = k'
      · simp [he, Ne.symm hk]
      · simp [he]
    rw [hp, if_neg hk]

theorem get?_insert_of_ne (m : Catalog κ α) {k k' : κ} (h : k' ≠ k) (a : α) :
    (m.insert k a).get? k' = m.get? k' := by
  rw [get?_insert, if_neg (Ne.symm h)]

theorem get?_erase_of_ne (m : Catalog κ α) {k k' : κ} (h : k' ≠ k) :
    (m.erase k).get? k' = m.get? k' := by
  rw [get?_erase, if_neg (Ne.symm h)]

theorem keys_insert (m : Catalog κ α) (k : κ) (a : α) :
    (m.insert k a).keys = if k ∈ m.keys then m.keys else m.keys ++ [k] := by
  by_cases h : m.contains k
  · rw [if_pos (mem_keys_iff.mpr h)]
    simp only [insert, h, ↓reduceDIte, keys, map_fst_replaceAt]
  · have hk : k ∉ m.keys := fun hk => h (mem_keys_iff.mp hk)
    simp only [insert, h, hk, ↓reduceIte, ↓reduceDIte, Bool.false_eq_true]
    simp [keys]

theorem contains_iff {m : Catalog κ α} {k : κ} :
    m.contains k = true ↔ ∃ a, m.get? k = some a := by
  rw [contains, Option.isSome_iff_exists]

theorem contains_eq_false_iff {m : Catalog κ α} {k : κ} :
    m.contains k = false ↔ m.get? k = none := by
  rw [contains, Option.isSome_eq_false_iff, Option.isNone_iff_eq_none]

theorem contains_insert (m : Catalog κ α) (k k' : κ) (a : α) :
    (m.insert k a).contains k' = (decide (k = k') || m.contains k') := by
  by_cases h : k = k'
  · simp [contains, get?_insert, h]
  · simp [contains, get?_insert, h]

/-- Looking up a key among entries of which no two have one key. -/
theorem find?_eq_some_iff_of_nodup {es : List (κ × α)} (h : (es.map Prod.fst).Nodup)
    (e : κ × α) : (es.find? fun e' => e'.1 = e.1) = some e ↔ e ∈ es := by
  refine ⟨List.mem_of_find?_eq_some, fun he => ?_⟩
  induction es with
  | nil => cases he
  | cons d es ih =>
      rw [List.map_cons, List.nodup_cons] at h
      rcases List.mem_cons.mp he with rfl | he
      · simp
      · have hne : d.1 ≠ e.1 := fun hd => h.1 (hd ▸ List.mem_map_of_mem he)
        simp [hne, ih h.2 he]

theorem mem_entries_iff {m : Catalog κ α} {k : κ} {a : α} :
    (k, a) ∈ m.entries ↔ m.get? k = some a := by
  rw [← find?_eq_some_iff_of_nodup m.nodup, get?, Option.map_eq_some_iff]
  constructor
  · intro h
    exact ⟨(k, a), h, rfl⟩
  · rintro ⟨e, he, rfl⟩
    have hk : e.1 = k := by simpa using List.find?_some he
    rw [he, ← hk]

theorem mem_values_iff {m : Catalog κ α} {a : α} : a ∈ m.values ↔ ∃ k, m.get? k = some a := by
  simp only [values, List.mem_map, ← mem_entries_iff, Prod.exists, exists_eq_right]

/-- Inserting the value that stands under a key changes nothing. -/
theorem insert_eq_self {m : Catalog κ α} {k : κ} {a : α} (h : m.get? k = some a) :
    m.insert k a = m := by
  have hreplace : ∀ e ∈ m.entries, replaceAt k a e = e := by
    intro e he
    by_cases hk : e.1 = k
    · have hget : m.get? e.1 = some e.2 := mem_entries_iff.mp he
      rw [hk, h, Option.some_inj] at hget
      rw [replaceAt, if_pos hk, hget, ← hk]
    · exact if_neg hk
  have hentries : m.entries.map (replaceAt k a) = m.entries :=
    (List.map_congr_left hreplace).trans (List.map_id _)
  have hcontains : m.contains k = true := contains_iff.mpr ⟨a, h⟩
  simp only [insert, hcontains, ↓reduceDIte, hentries]

/-- After some insertions, a value is an old one or one that was inserted. -/
theorem get?_foldl_insert {β : Type} {m : Catalog κ α} {es : List β} {key : β → κ} {value : β → α}
    {k : κ} {a : α} (h : (es.foldl (fun m e => m.insert (key e) (value e)) m).get? k = some a) :
    m.get? k = some a ∨ ∃ e ∈ es, key e = k ∧ value e = a := by
  induction es generalizing m with
  | nil => exact Or.inl h
  | cons e es ih =>
      rcases ih h with hm | ⟨d, hd, hk⟩
      · rw [get?_insert] at hm
        by_cases he : key e = k
        · rw [if_pos he] at hm
          exact Or.inr ⟨e, List.mem_cons_self, he, Option.some.inj hm⟩
        · rw [if_neg he] at hm
          exact Or.inl hm
      · exact Or.inr ⟨d, List.mem_cons_of_mem e hd, hk⟩

theorem contains_foldl_insert {β : Type} {m : Catalog κ α} {es : List β} {key : β → κ}
    {value : β → α} {k : κ} :
    (es.foldl (fun m e => m.insert (key e) (value e)) m).contains k = true ↔
      m.contains k = true ∨ ∃ e ∈ es, key e = k := by
  induction es generalizing m with
  | nil => simp
  | cons e es ih =>
      rw [List.foldl_cons, ih, contains_insert]
      simp [or_assoc, or_left_comm]

/-- A catalog with at most one entry has at most one key. -/
theorem eq_of_contains_of_size_le_one {m : Catalog κ α} (h : m.size ≤ 1) {k k' : κ}
    (hk : m.contains k = true) (hk' : m.contains k' = true) : k = k' := by
  have hlen : m.keys.length ≤ 1 := by simpa [keys, size] using h
  have hmem := mem_keys_iff.mpr hk
  have hmem' := mem_keys_iff.mpr hk'
  match hkeys : m.keys with
  | [] => simp [hkeys] at hmem
  | [x] =>
      simp only [hkeys, List.mem_singleton] at hmem hmem'
      rw [hmem, hmem']
  | _ :: _ :: _ => simp [hkeys] at hlen

end Catalog

end PawnScope
