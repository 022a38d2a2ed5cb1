import PawnScope.Proofs.Visibility.Preorder

/-! # Walks down a chain

A link of a chain leads to a leaf, which leads nowhere, and then to the next link. A walk from the
first link meets all links in their order, each before its leaf, up to the link that leads to no
other. -/

namespace PawnScope.Visibility

variable {tables : Catalog Location SymbolTable}

/-- A location that leads nowhere is marked, and that is all. -/
theorem walk_cons_of_leads_eq_nil {t : Location} (h : leads tables t = [])
    (rest visited : List Location) :
    walk tables (t :: rest) visited = walk tables rest (mark visited t) := by
  by_cases ht : t ∈ visited
  · rw [walk_cons_of_mem tables rest ht, mark, if_pos ht]
  · rw [walk_cons_of_notMem tables rest ht, h, mark, if_neg ht]
    rfl

/-- The links of a chain, each before its leaf. Several links may have one leaf, which is then
listed after the first of them. -/
def chain (link leaf : Nat → Location) (n : Nat) : List Location :=
  ((List.range n).flatMap fun i => [link i, leaf i]).eraseDups

theorem eraseDups_concat (ls : List Location) (l : Location) :
    (ls ++ [l]).eraseDups = mark ls.eraseDups l := by
  by_cases h : l ∈ ls
  · have hmem : l ∈ ls.eraseDups := List.mem_eraseDups.mpr h
    simp [List.eraseDups_append, List.removeAll, mark, hmem, h]
  · have hmem : l ∉ ls.eraseDups := fun hmem => h (List.mem_eraseDups.mp hmem)
    simp [List.eraseDups_append, List.eraseDups_cons, List.removeAll, mark, hmem, h]

variable {link leaf : Nat → Location}

theorem chain_succ (n : Nat) :
    chain link leaf (n + 1) = mark (mark (chain link leaf n) (link n)) (leaf n) := by
  rw [chain, chain, ← eraseDups_concat, ← eraseDups_concat, List.range_succ, List.flatMap_append]
  simp

theorem mem_chain_iff {n : Nat} {l : Location} :
    l ∈ chain link leaf n ↔ ∃ i < n, l = link i ∨ l = leaf i := by
  simp [chain, List.mem_eraseDups]

/-- The links and leaves of a chain are different locations. -/
structure IsProper (link leaf : Nat → Location) : Prop where
  injective : Function.Injective link
  disjoint : ∀ i j, link i ≠ leaf j

theorem IsProper.link_notMem_chain (h : IsProper link leaf) (n : Nat) :
    link n ∉ chain link leaf n := by
  rw [mem_chain_iff]
  rintro ⟨i, hi, heq | heq⟩
  · exact absurd (h.injective heq) (by omega)
  · exact h.disjoint n i heq

/-- The walk meets a link and its leaf, and then goes where the link leads besides. -/
theorem IsProper.walk_link (h : IsProper link leaf) {i : Nat} {next : List Location}
    (hlink : leads tables (link i) = leaf i :: next) (hleaf : leads tables (leaf i) = []) :
    walk tables [link i] (chain link leaf i) = walk tables next (chain link leaf (i + 1)) := by
  have hnew := h.link_notMem_chain i
  have hmark : mark (chain link leaf i) (link i) = chain link leaf i ++ [link i] := if_neg hnew
  rw [walk_cons_of_notMem tables [] hnew, hlink, List.append_nil, walk_cons_of_leads_eq_nil hleaf,
    chain_succ, hmark]

/-- A walk that has come to a link goes on to the end of the chain. -/
theorem IsProper.walk_chain (h : IsProper link leaf) {last : Nat}
    (hlink : ∀ i ≤ last, leads tables (link i) =
      leaf i :: if i < last then [link (i + 1)] else [])
    (hleaf : ∀ i, leads tables (leaf i) = []) {i : Nat} (hi : i ≤ last) :
    walk tables [link i] (chain link leaf i) = chain link leaf (last + 1) := by
  -- The induction is on the number of links that are left.
  induction hleft : last - i generalizing i with
  | zero =>
      obtain rfl : i = last := by omega
      rw [h.walk_link (hlink i hi) (hleaf i), if_neg (Nat.lt_irrefl i), walk_nil]
  | succ left ih =>
      have hlt : i < last := by omega
      rw [h.walk_link (hlink i hi) (hleaf i), if_pos hlt]
      exact ih hlt (by omega)

theorem filter_mark {p : Location → Bool} (visited : List Location) (l : Location) :
    (mark visited l).filter p = if p l then mark (visited.filter p) l else visited.filter p := by
  by_cases hl : l ∈ visited
  · by_cases hp : p l = true
    · simp [mark, hl, hp]
    · simp [mark, hl, hp]
  · by_cases hp : p l = true
    · simp [mark, hl, hp]
    · simp [mark, hl, hp]

/-- The links alone stand in their order. -/
theorem IsProper.filter_chain (h : IsProper link leaf) {p : Location → Bool}
    (hlink : ∀ i, p (link i) = true) (hleaf : ∀ i, p (leaf i) = false) (n : Nat) :
    (chain link leaf n).filter p = (List.range n).map link := by
  induction n with
  | zero => rfl
  | succ n ih =>
      have hnew : link n ∉ (List.range n).map link := by
        simp [h.injective.eq_iff]
      rw [chain_succ, filter_mark, hleaf, if_neg Bool.false_ne_true, filter_mark, hlink, if_pos rfl,
        ih, mark, if_neg hnew, List.range_succ, List.map_append]
      rfl

end PawnScope.Visibility
