import PawnScope.Proofs.Visibility.Preorder
import Mathlib.Data.List.Nodup
import Mathlib.Logic.Relation

/-! # Visibility is reachability

What a file sees is what its includes reach, itself, and what the main file's includes reach with
the main file. The walk from the main file goes on with the locations that the first walk has
visited. It misses nothing since these are closed: with a file, they hold whatever it includes. -/

namespace PawnScope.Visibility

open Relation

/-! ## Reachability -/

/-- A file with a table includes another file directly. -/
def Includes (tables : Catalog Location SymbolTable) (a b : Location) : Prop :=
  ∃ table, tables.get? a = some table ∧ b ∈ targets table

/-- One file reaches another by one or more includes. A file without a table leads nowhere. -/
def Reaches (tables : Catalog Location SymbolTable) : Location → Location → Prop :=
  TransGen (Includes tables)

/-- Whatever a visited file includes is visited or waits on the stack. -/
def ClosedUpTo (tables : Catalog Location SymbolTable) (visited stack : List Location) : Prop :=
  ∀ a ∈ visited, ∀ b, Includes tables a b → b ∈ visited ∨ b ∈ stack

/-- Whatever a visited file includes is visited. -/
def Closed (tables : Catalog Location SymbolTable) (visited : List Location) : Prop :=
  ∀ a ∈ visited, ∀ b, Includes tables a b → b ∈ visited

variable {tables : Catalog Location SymbolTable}

theorem includes_iff_mem_leads {a b : Location} : Includes tables a b ↔ b ∈ leads tables a := by
  cases h : tables.get? a with
  | none => simp [Includes, leads, h]
  | some table => simp [Includes, leads, h]

theorem closedUpTo_nil_iff {visited : List Location} :
    ClosedUpTo tables visited [] ↔ Closed tables visited := by
  simp [ClosedUpTo, Closed]

theorem Closed.mem_of_reaches {visited : List Location} (h : Closed tables visited)
    {a b : Location} (ha : a ∈ visited) (hab : Reaches tables a b) : b ∈ visited := by
  induction hab with
  | single hab => exact h _ ha _ hab
  | tail _ hbc ih => exact h _ ih _ hbc

/-! ## One walk -/

variable (tables)

theorem nodup_walk (stack visited : List Location) (h : visited.Nodup) :
    (walk tables stack visited).Nodup := by
  induction stack, visited using walk_induction tables with
  | nil visited => rwa [walk_nil]
  | seen t rest visited hv ih =>
      rw [walk_cons_of_mem tables rest hv]
      exact ih h
  | fresh t rest visited hv ih =>
      rw [walk_cons_of_notMem tables rest hv]
      exact ih (by rw [← List.concat_eq_append]; exact List.Nodup.concat hv h)

theorem subset_walk (stack visited : List Location) : visited ⊆ walk tables stack visited := by
  induction stack, visited using walk_induction tables with
  | nil visited =>
      rw [walk_nil]
      exact List.Subset.refl visited
  | seen t rest visited hv ih => rwa [walk_cons_of_mem tables rest hv]
  | fresh t rest visited hv ih =>
      rw [walk_cons_of_notMem tables rest hv]
      exact List.Subset.trans (List.subset_append_left visited [t]) ih

/-- Whatever waits on the stack is visited in the end. -/
theorem stack_subset_walk (stack visited : List Location) : stack ⊆ walk tables stack visited := by
  induction stack, visited using walk_induction tables with
  | nil visited => exact List.nil_subset _
  | seen t rest visited hv ih =>
      rw [walk_cons_of_mem tables rest hv]
      exact List.cons_subset.mpr ⟨subset_walk tables rest visited hv, ih⟩
  | fresh t rest visited hv ih =>
      rw [walk_cons_of_notMem tables rest hv]
      have ht : t ∈ visited ++ [t] := List.mem_append_right visited (List.mem_singleton.mpr rfl)
      exact List.cons_subset.mpr
        ⟨subset_walk tables _ _ ht, List.Subset.trans (List.subset_append_right _ rest) ih⟩

/-- A walk visits only what the stack reaches. -/
theorem reached_of_mem_walk (stack visited : List Location) {v : Location}
    (h : v ∈ walk tables stack visited) :
    v ∈ visited ∨ ∃ s ∈ stack, ReflTransGen (Includes tables) s v := by
  induction stack, visited using walk_induction tables with
  | nil visited =>
      rw [walk_nil] at h
      exact Or.inl h
  | seen t rest visited hv ih =>
      rw [walk_cons_of_mem tables rest hv] at h
      rcases ih h with h | ⟨s, hs, hsv⟩
      · exact Or.inl h
      · exact Or.inr ⟨s, List.mem_cons_of_mem t hs, hsv⟩
  | fresh t rest visited hv ih =>
      rw [walk_cons_of_notMem tables rest hv] at h
      rcases ih h with h | ⟨s, hs, hsv⟩
      · rcases List.mem_append.mp h with h | h
        · exact Or.inl h
        · rw [List.mem_singleton] at h
          exact Or.inr ⟨t, List.mem_cons_self, by rw [h]⟩
      · rcases List.mem_append.mp hs with hs | hs
        · have hts : Includes tables t s := includes_iff_mem_leads.mpr hs
          exact Or.inr ⟨t, List.mem_cons_self, hsv.head hts⟩
        · exact Or.inr ⟨s, List.mem_cons_of_mem t hs, hsv⟩

/-- The stack carries what is missing from the visited locations, so that in the end nothing is
missing. -/
theorem closed_walk (stack visited : List Location) (h : ClosedUpTo tables visited stack) :
    Closed tables (walk tables stack visited) := by
  induction stack, visited using walk_induction tables with
  | nil visited =>
      rw [walk_nil]
      exact closedUpTo_nil_iff.mp h
  | seen t rest visited hv ih =>
      rw [walk_cons_of_mem tables rest hv]
      apply ih
      intro a ha b hab
      rcases h a ha b hab with hb | hb
      · exact Or.inl hb
      · rcases List.mem_cons.mp hb with rfl | hb
        · exact Or.inl hv
        · exact Or.inr hb
  | fresh t rest visited hv ih =>
      rw [walk_cons_of_notMem tables rest hv]
      apply ih
      intro a ha b hab
      rcases List.mem_append.mp ha with ha | ha
      · rcases h a ha b hab with hb | hb
        · exact Or.inl (List.mem_append_left [t] hb)
        · rcases List.mem_cons.mp hb with rfl | hb
          · exact Or.inl (List.mem_append_right visited (List.mem_singleton.mpr rfl))
          · exact Or.inr (List.mem_append_right _ hb)
      · rw [List.mem_singleton] at ha
        subst ha
        exact Or.inr (List.mem_append_left rest (includes_iff_mem_leads.mp hab))

/-! ## A walk and its start -/

/-- The locations after the walk from a start, with the start added at the end. -/
def extend (start : Location) (visited : List Location) : List Location :=
  mark (walkFrom tables start visited) start

theorem mem_mark_iff {visited : List Location} {l v : Location} :
    v ∈ mark visited l ↔ v ∈ visited ∨ v = l := by
  by_cases h : l ∈ visited
  · rw [mark, if_pos h]
    refine ⟨Or.inl, ?_⟩
    rintro (hv | rfl)
    · exact hv
    · exact h
  · rw [mark, if_neg h, List.mem_append, List.mem_singleton]

theorem nodup_mark {visited : List Location} (l : Location) (h : visited.Nodup) :
    (mark visited l).Nodup := by
  by_cases hl : l ∈ visited
  · rwa [mark, if_pos hl]
  · rw [mark, if_neg hl]
    rw [← List.concat_eq_append]
    exact List.Nodup.concat hl h

theorem nodup_extend (start : Location) {visited : List Location} (h : visited.Nodup) :
    (extend tables start visited).Nodup := by
  rw [extend, walkFrom_eq_walk]
  exact nodup_mark start (nodup_walk tables _ visited h)

/-- After closed visits, a walk with its start adds the start and what the start reaches. -/
theorem mem_extend_iff (start : Location) {visited : List Location} (h : Closed tables visited)
    {v : Location} :
    v ∈ extend tables start visited ↔ v ∈ visited ∨ v = start ∨ Reaches tables start v := by
  have hclosed : Closed tables (walk tables (leads tables start) visited) :=
    closed_walk tables _ visited fun a ha b hab => Or.inl (h a ha b hab)
  rw [extend, walkFrom_eq_walk, mem_mark_iff]
  constructor
  · rintro (hv | hv)
    · rcases reached_of_mem_walk tables _ visited hv with hv | ⟨s, hs, hsv⟩
      · exact Or.inl hv
      · exact Or.inr (Or.inr (TransGen.head' (includes_iff_mem_leads.mpr hs) hsv))
    · exact Or.inr (Or.inl hv)
  · rintro (hv | hv | hv)
    · exact Or.inl (subset_walk tables _ visited hv)
    · exact Or.inr hv
    · obtain ⟨s, hs, hsv⟩ := TransGen.head'_iff.mp hv
      have hmem := stack_subset_walk tables _ visited (includes_iff_mem_leads.mp hs)
      rcases reflTransGen_iff_eq_or_transGen.mp hsv with rfl | hsv
      · exact Or.inl hmem
      · exact Or.inl (hclosed.mem_of_reaches hmem hsv)

theorem closed_extend (start : Location) {visited : List Location} (h : Closed tables visited) :
    Closed tables (extend tables start visited) := by
  intro a ha b hab
  rw [mem_extend_iff tables start h] at ha ⊢
  rcases ha with ha | rfl | ha
  · exact Or.inl (h a ha b hab)
  · exact Or.inr (Or.inr (TransGen.single hab))
  · exact Or.inr (Or.inr (ha.tail hab))

end PawnScope.Visibility

namespace PawnScope

open Visibility

/-! ## The main file -/

namespace Config

/-- A main path is configured that is on disk neither as it is nor below the first workspace
root. -/
def MainPathMissing (c : Config) (disk : Disk) (path : Path) : Prop :=
  c.mainPath = some path ∧ disk.has path = false ∧
    ∀ root, c.workspaceRoots.head? = some root → disk.has (root.join path) = false

/-- The main path leads to the file at a location. -/
def MainAt (c : Config) (disk : Disk) (main : Location) : Prop :=
  ∃ path, c.resolveMainPath disk = .ok (some path) ∧ Location.ofPath? path = some main

theorem resolveMainPath_eq_error_iff {c : Config} {disk : Disk} {e : QueryError} :
    c.resolveMainPath disk = .error e ↔
      ∃ path, c.MainPathMissing disk path ∧ e = .mainPathNotFound path c.workspaceRoots.head? := by
  cases hpath : c.mainPath with
  | none => simp [resolveMainPath, MainPathMissing, hpath]
  | some path =>
      by_cases h : disk.has path = true
      · simp [resolveMainPath, MainPathMissing, hpath, h]
      · cases hroot : c.workspaceRoots.head? with
        | none =>
            simp only [resolveMainPath, MainPathMissing, hpath, hroot, h]
            simpa [h] using eq_comm
        | some root =>
            by_cases hj : disk.has (root.join path) = true
            · simp [resolveMainPath, MainPathMissing, hpath, hroot, h, hj]
            · simp only [resolveMainPath, MainPathMissing, hpath, hroot, h, hj]
              simpa [h, hj] using eq_comm

theorem mainAt_iff {c : Config} {disk : Disk} {path : Option Path}
    (h : c.resolveMainPath disk = .ok path) (main : Location) :
    c.MainAt disk main ↔ path.bind Location.ofPath? = some main := by
  simp [MainAt, h, Option.bind_eq_some_iff]

end Config

namespace Index

/-! ## What an index sees -/

theorem visible_of_error {x : Index} {disk : Disk} {e : QueryError}
    (h : x.config.resolveMainPath disk = .error e) (l : Location) :
    x.visible disk l = .error e := by
  simp [visible, mainLocation, h, bind, Except.bind]

theorem visible_of_ok {x : Index} {disk : Disk} {path : Option Path}
    (h : x.config.resolveMainPath disk = .ok path) (l : Location) :
    x.visible disk l = .ok
      (match path.bind Location.ofPath? with
      | none => extend x.tables l []
      | some main => extend x.tables main (extend x.tables l [])) := by
  cases hmain : path.bind Location.ofPath? with
  | none => simp [visible, mainLocation, h, hmain, bind, Except.bind, pure, Except.pure, extend]
  | some main =>
      simp [visible, mainLocation, h, hmain, bind, Except.bind, pure, Except.pure, extend]

theorem visible_eq_error_iff {x : Index} {disk : Disk} {l : Location} {e : QueryError} :
    x.visible disk l = .error e ↔ x.config.resolveMainPath disk = .error e := by
  cases h : x.config.resolveMainPath disk with
  | error e' => simp [visible_of_error h l]
  | ok path => simp [visible_of_ok h l]

/-- The locations that a file sees, each of them once. -/
theorem exists_visible_of_ok {x : Index} {disk : Disk} {path : Option Path}
    (h : x.config.resolveMainPath disk = .ok path) (l : Location) :
    ∃ seen, x.visible disk l = .ok seen ∧ seen.Nodup ∧
      ∀ v, v ∈ seen ↔ (v = l ∨ Reaches x.tables l v) ∨
        ∃ main, x.config.MainAt disk main ∧ (v = main ∨ Reaches x.tables main v) := by
  have hnil : Closed x.tables [] := by simp [Closed]
  have hown : Closed x.tables (extend x.tables l []) := closed_extend x.tables l hnil
  have hnodup : (extend x.tables l []).Nodup := nodup_extend x.tables l List.nodup_nil
  refine ⟨_, visible_of_ok h l, ?_⟩
  cases hmain : path.bind Location.ofPath? with
  | none =>
      refine ⟨hnodup, fun v => ?_⟩
      simp [mem_extend_iff x.tables l hnil, Config.mainAt_iff h, hmain]
  | some main =>
      refine ⟨nodup_extend x.tables main hnodup, fun v => ?_⟩
      simp [mem_extend_iff x.tables main hown, mem_extend_iff x.tables l hnil,
        Config.mainAt_iff h, hmain]

/-- A query for what a file sees fails exactly when the main path is missing. Otherwise the file
sees itself, what it reaches, the main file and what that reaches, each location once. -/
theorem visible_eq_reachable (x : Index) (disk : Disk) (l : Location) :
    (∀ e, x.visible disk l = .error e ↔
      ∃ path, x.config.MainPathMissing disk path ∧
        e = .mainPathNotFound path x.config.workspaceRoots.head?) ∧
    ((∃ path, x.config.MainPathMissing disk path) ∨
      ∃ seen, x.visible disk l = .ok seen ∧ seen.Nodup ∧
        ∀ v, v ∈ seen ↔ (v = l ∨ Reaches x.tables l v) ∨
          ∃ main, x.config.MainAt disk main ∧ (v = main ∨ Reaches x.tables main v)) := by
  constructor
  · intro e
    exact visible_eq_error_iff.trans Config.resolveMainPath_eq_error_iff
  · cases h : x.config.resolveMainPath disk with
    | error e =>
        obtain ⟨path, hpath, -⟩ := Config.resolveMainPath_eq_error_iff.mp h
        exact Or.inl ⟨path, hpath⟩
    | ok path => exact Or.inr (exists_visible_of_ok h l)

end Index

end PawnScope
