import PawnScope.Index.Visibility
import Mathlib.Data.List.Basic

/-! # Pre-order walks

A recursive walk goes through the includes of a file in order and enters each file that it has not
met before it goes on. The walk with a stack meets the same files in the same order: what lies
deeper on the stack is what the recursive walk still has to do when it returns. -/

namespace PawnScope.Visibility

/-! ## The recursive walk -/

/-- Where the includes of a file lead: nowhere if it has no table. -/
def leads (tables : Catalog Location SymbolTable) (l : Location) : List Location :=
  match tables.get? l with
  | none => []
  | some table => targets table

theorem length_unseen_le_of_subset (keys : List Location) {visited out : List Location}
    (h : visited ⊆ out) : (unseen keys out).length ≤ (unseen keys visited).length := by
  apply List.Sublist.length_le
  apply List.monotone_filter_right
  intro l hl
  simp only [decide_eq_true_eq] at hl ⊢
  exact fun hv => hl (h hv)

/-- Goes through some include edges. A target that was not visited is appended to the visited
locations, and its own edges come before the edges that are left. -/
def visit (tables : Catalog Location SymbolTable) (edges visited : List Location) :
    { out : List Location // visited ⊆ out } :=
  match edges with
  | [] => ⟨visited, List.Subset.refl visited⟩
  | t :: rest =>
      if _hv : t ∈ visited then visit tables rest visited
      else
        let inner := visit tables (leads tables t) (visited ++ [t])
        let out := visit tables rest inner.1
        ⟨out.1, List.Subset.trans (List.subset_append_left visited [t])
          (List.Subset.trans inner.2 out.2)⟩
termination_by ((unseen tables.keys visited).length, edges.length)
decreasing_by
  · exact Prod.Lex.right _ (by simp)
  · cases ht : tables.get? t with
    | none =>
        -- Without a table there is nothing to enter, and the list of edges is what shrinks.
        have hle := length_unseen_append_le tables.keys visited t
        rcases Nat.lt_or_eq_of_le hle with h | h
        · exact Prod.Lex.left _ _ h
        · rw [h]
          exact Prod.Lex.right _ (by simp [leads, ht])
    | some table =>
        exact Prod.Lex.left _ _ (length_unseen_append_lt (Catalog.mem_keys_of_get? ht) _hv)
  · have hsub : visited ⊆ inner.1 := List.Subset.trans (List.subset_append_left visited [t]) inner.2
    rcases Nat.lt_or_eq_of_le (length_unseen_le_of_subset tables.keys hsub) with h | h
    · exact Prod.Lex.left _ _ h
    · rw [h]
      exact Prod.Lex.right _ (by simp)

/-- The recursive pre-order walk from a location. -/
def preorder (tables : Catalog Location SymbolTable) (start : Location) (visited : List Location) :
    List Location :=
  (visit tables (leads tables start) visited).1

/-! ## The walk with a stack -/

theorem walk_nil (tables : Catalog Location SymbolTable) (visited : List Location) :
    walk tables [] visited = visited := by
  rw [walk]

theorem walk_cons_of_mem (tables : Catalog Location SymbolTable) {t : Location}
    (rest : List Location) {visited : List Location} (h : t ∈ visited) :
    walk tables (t :: rest) visited = walk tables rest visited := by
  rw [walk]
  simp [h]

theorem walk_cons_of_notMem (tables : Catalog Location SymbolTable) {t : Location}
    (rest : List Location) {visited : List Location} (h : t ∉ visited) :
    walk tables (t :: rest) visited = walk tables (leads tables t ++ rest) (visited ++ [t]) := by
  rw [walk]
  simp only [h, ↓reduceDIte]
  split
  · rename_i ht
    simp [leads, ht]
  · rename_i table ht
    simp [leads, ht]

theorem walkFrom_eq_walk (tables : Catalog Location SymbolTable) (start : Location)
    (visited : List Location) :
    walkFrom tables start visited = walk tables (leads tables start) visited := by
  cases ht : tables.get? start with
  | none => simp [walkFrom, leads, ht, walk_nil]
  | some table => simp [walkFrom, leads, ht]

/-- Induction along a walk: a location on top of the stack has been visited, or it is visited now
and where it leads comes on top. -/
theorem walk_induction (tables : Catalog Location SymbolTable)
    {motive : List Location → List Location → Prop}
    (nil : ∀ visited, motive [] visited)
    (seen : ∀ t rest visited, t ∈ visited → motive rest visited → motive (t :: rest) visited)
    (fresh : ∀ t rest visited, t ∉ visited → motive (leads tables t ++ rest) (visited ++ [t]) →
      motive (t :: rest) visited)
    (stack visited : List Location) : motive stack visited := by
  induction stack, visited using walk.induct tables with
  | case1 visited => exact nil visited
  | case2 visited t rest hv ih => exact seen t rest visited hv ih
  | case3 visited t rest hv ht ih =>
      have hl : leads tables t = [] := by simp [leads, ht]
      exact fresh t rest visited hv (by rwa [hl, List.nil_append])
  | case4 visited t rest hv table ht ih =>
      have hl : leads tables t = targets table := by simp [leads, ht]
      exact fresh t rest visited hv (by rwa [hl])

/-! ## Simulation -/

/-- A stack whose top is a list of edges is worked off by the recursive walk over these edges,
and the rest of the stack follows. -/
theorem walk_append_eq_walk_visit (tables : Catalog Location SymbolTable)
    (edges visited stack : List Location) :
    walk tables (edges ++ stack) visited = walk tables stack (visit tables edges visited).1 := by
  fun_induction visit tables edges visited generalizing stack with
  | case1 visited => rfl
  | case2 visited t rest hv ih =>
      rw [List.cons_append, walk_cons_of_mem tables (rest ++ stack) hv]
      exact ih stack
  | case3 visited t rest hv inner out ihInner ihRest =>
      rw [List.cons_append, walk_cons_of_notMem tables (rest ++ stack) hv, ihInner (rest ++ stack)]
      exact ihRest stack

/-- The walk with a stack visits what the recursive pre-order walk visits, in the same order, from
every start and after every sequence of earlier visits. -/
theorem walkFrom_eq_preorder (tables : Catalog Location SymbolTable) (start : Location)
    (visited : List Location) : walkFrom tables start visited = preorder tables start visited := by
  have h := walk_append_eq_walk_visit tables (leads tables start) visited []
  rw [List.append_nil, walk_nil] at h
  rw [walkFrom_eq_walk, h]
  rfl

end PawnScope.Visibility
