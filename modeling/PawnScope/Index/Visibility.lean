import PawnScope.Index

/-! # Visibility

A file sees the files that it includes, directly or not, in the order in which a depth-first walk
first meets them; then itself; then what the main file sees and the main file. -/

namespace PawnScope

namespace Visibility

/-- The locations of a list that a walk has not met. -/
def unseen (keys visited : List Location) : List Location := keys.filter (· ∉ visited)

theorem length_unseen_append_le (keys visited : List Location) (t : Location) :
    (unseen keys (visited ++ [t])).length ≤ (unseen keys visited).length := by
  have h : unseen keys (visited ++ [t]) = (unseen keys visited).filter (· ≠ t) := by
    simp [unseen, List.filter_filter, Bool.and_comm]
  rw [h]
  exact List.length_filter_le _ _

theorem length_unseen_append_lt {keys visited : List Location} {t : Location} (hk : t ∈ keys)
    (hv : t ∉ visited) :
    (unseen keys (visited ++ [t])).length < (unseen keys visited).length := by
  have h : unseen keys (visited ++ [t]) = (unseen keys visited).filter (· ≠ t) := by
    simp [unseen, List.filter_filter, Bool.and_comm]
  rw [h, List.length_filter_lt_length_iff_exists]
  exact ⟨t, by simp [unseen, hk, hv], by simp⟩

/-- The files that a table includes, in order. -/
def targets (t : SymbolTable) : List Location := t.includes.map (·.target)

/-- Walks over include edges depth first. The locations on the stack wait in order; each is marked
as visited when it is first met, before what it includes is put on the stack, so that cycles end.
A location without a table leads nowhere. -/
def walk (tables : Catalog Location SymbolTable) (stack visited : List Location) : List Location :=
  match stack with
  | [] => visited
  | t :: rest =>
      if _hv : t ∈ visited then walk tables rest visited
      else
        match _ht : tables.get? t with
        | none => walk tables rest (visited ++ [t])
        | some table => walk tables (targets table ++ rest) (visited ++ [t])
termination_by ((unseen tables.keys visited).length, stack.length)
decreasing_by
  · exact Prod.Lex.right _ (by simp)
  · rcases Nat.lt_or_eq_of_le (length_unseen_append_le tables.keys visited t) with h | h
    · exact Prod.Lex.left _ _ h
    · rw [h]
      exact Prod.Lex.right _ (by simp)
  · exact Prod.Lex.left _ _ (length_unseen_append_lt (Catalog.mem_keys_of_get? _ht) _hv)

/-- The walk that starts with what a location includes. -/
def walkFrom (tables : Catalog Location SymbolTable) (start : Location) (visited : List Location) :
    List Location :=
  match tables.get? start with
  | none => visited
  | some table => walk tables (targets table) visited

/-- Adds a location at the end unless it is there. -/
def mark (visited : List Location) (l : Location) : List Location :=
  if l ∈ visited then visited else visited ++ [l]

end Visibility

namespace Index

/-- The location of the main file, if one is configured and its path is absolute. -/
def mainLocation (x : Index) (disk : Disk) : Except QueryError (Option Location) := do
  return (← x.config.resolveMainPath disk).bind Location.ofPath?

/-- The location of the main file, if there is one and its path is not missing. -/
def main? (x : Index) (disk : Disk) : Option Location := ((x.mainLocation disk).toOption).join

/-- The files whose declarations a file sees, in order. -/
def visible (x : Index) (disk : Disk) (l : Location) : Except QueryError (List Location) := do
  let own := Visibility.mark (Visibility.walkFrom x.tables l []) l
  match ← x.mainLocation disk with
  | none => return own
  | some main => return Visibility.mark (Visibility.walkFrom x.tables main own) main

end Index

end PawnScope
