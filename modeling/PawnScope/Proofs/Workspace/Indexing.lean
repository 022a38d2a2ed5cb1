import PawnScope.Workspace

/-! # What indexing changes

Each step of indexing is described by what it does to the known files and their tables. Buffers,
folders, registry and configuration stay as they are, so that includes are resolved in the same way
from the first step to the last. -/

namespace PawnScope

/-- The edges of a file with a given outline under the current registry and configuration. -/
def Index.edgesOf (x : Index) (disk : Disk) (o : Outline) : List (Include × Edge) :=
  x.resolveAll disk (x.config.effectiveIncludes o)

/-- The table of a known file. -/
def SourceFile.table (f : SourceFile) (l : Location) : SymbolTable :=
  SymbolTable.ofSymbols l f.outline.symbols (f.edges.map (·.2))

namespace Workspace

/-- A file with a given outline, as it is indexed now. -/
def fileOf (w : Workspace) (disk : Disk) (o : Outline) : SourceFile := ⟨o, w.index.edgesOf disk o⟩

/-! ## What stays -/

/-- Nothing but files and tables differs. -/
structure SameSetting (w w' : Workspace) : Prop where
  buffers : w'.buffers = w.buffers
  folders : w'.folders = w.folders
  registry : w'.index.registry = w.index.registry
  config : w'.index.config = w.index.config

namespace SameSetting

variable {w w' w'' : Workspace}

theorem refl (w : Workspace) : SameSetting w w := ⟨rfl, rfl, rfl, rfl⟩

theorem trans (h : SameSetting w w') (h' : SameSetting w' w'') : SameSetting w w'' where
  buffers := h'.buffers.trans h.buffers
  folders := h'.folders.trans h.folders
  registry := h'.registry.trans h.registry
  config := h'.config.trans h.config

theorem resolve_eq (h : SameSetting w w') (disk : Disk) :
    w'.index.resolve disk = w.index.resolve disk := by
  funext reference isBuiltin
  rw [Index.resolve, Index.resolve, h.registry, h.config]

theorem edgesOf_eq (h : SameSetting w w') (disk : Disk) (o : Outline) :
    w'.index.edgesOf disk o = w.index.edgesOf disk o := by
  rw [Index.edgesOf, Index.edgesOf, Index.resolveAll, Index.resolveAll, h.resolve_eq, h.config]

theorem fileOf_eq (h : SameSetting w w') (disk : Disk) (o : Outline) :
    w'.fileOf disk o = w.fileOf disk o := by
  rw [fileOf, fileOf, h.edgesOf_eq]

theorem main?_eq (h : SameSetting w w') (disk : Disk) :
    w'.index.main? disk = w.index.main? disk := by
  rw [Index.main?, Index.main?, Index.mainLocation, Index.mainLocation, h.config]

end SameSetting

/-! ## One file -/

theorem sameSetting_indexOutline (w : Workspace) (disk : Disk) (l : Location) (o : Outline) :
    SameSetting w (w.indexOutline disk l o) := ⟨rfl, rfl, rfl, rfl⟩

theorem get?_indexOutline (w : Workspace) (disk : Disk) (l k : Location) (o : Outline) :
    (w.indexOutline disk l o).files.get? k =
      if l = k then some (w.fileOf disk o) else w.files.get? k :=
  Catalog.get?_insert w.files l k _

theorem table?_indexOutline (w : Workspace) (disk : Disk) (l k : Location) (o : Outline) :
    (w.indexOutline disk l o).index.table? k =
      if l = k then some ((w.fileOf disk o).table l) else w.index.table? k :=
  Catalog.get?_insert w.index.tables l k _

/-! ## All known files -/

/-- Indexes the files of some entries again. -/
def reindex (w : Workspace) (disk : Disk) (es : List (Location × SourceFile)) : Workspace :=
  es.foldl (fun w e => w.indexOutline disk e.1 e.2.outline) w

theorem sameSetting_reindex (w : Workspace) (disk : Disk) (es : List (Location × SourceFile)) :
    SameSetting w (w.reindex disk es) := by
  induction es generalizing w with
  | nil => exact SameSetting.refl w
  | cons e es ih => exact (sameSetting_indexOutline w disk e.1 e.2.outline).trans (ih _)

theorem reindex_of_notMem (w : Workspace) (disk : Disk) (es : List (Location × SourceFile))
    {k : Location} (h : k ∉ es.map Prod.fst) :
    (w.reindex disk es).files.get? k = w.files.get? k ∧
      (w.reindex disk es).index.table? k = w.index.table? k := by
  induction es generalizing w with
  | nil => exact ⟨rfl, rfl⟩
  | cons e es ih =>
      rw [List.map_cons, List.mem_cons, not_or] at h
      have hne : e.1 ≠ k := fun he => h.1 he.symm
      obtain ⟨hfile, htable⟩ := ih (w.indexOutline disk e.1 e.2.outline) h.2
      rw [get?_indexOutline, if_neg hne] at hfile
      rw [table?_indexOutline, if_neg hne] at htable
      exact ⟨hfile, htable⟩

theorem reindex_of_mem (w : Workspace) (disk : Disk) (es : List (Location × SourceFile))
    (hes : (es.map Prod.fst).Nodup) {k : Location} {f : SourceFile} (h : (k, f) ∈ es) :
    (w.reindex disk es).files.get? k = some (w.fileOf disk f.outline) ∧
      (w.reindex disk es).index.table? k = some ((w.fileOf disk f.outline).table k) := by
  induction es generalizing w with
  | nil => cases h
  | cons e es ih =>
      rw [List.map_cons, List.nodup_cons] at hes
      rcases List.mem_cons.mp h with rfl | h
      · -- The entries that follow are of other files.
        obtain ⟨hfile, htable⟩ :=
          reindex_of_notMem (w.indexOutline disk k f.outline) disk es hes.1
        rw [get?_indexOutline, if_pos rfl] at hfile
        rw [table?_indexOutline, if_pos rfl] at htable
        exact ⟨hfile, htable⟩
      · have hstep := ih (w.indexOutline disk e.1 e.2.outline) hes.2 h
        rwa [(sameSetting_indexOutline w disk e.1 e.2.outline).fileOf_eq] at hstep

theorem sameSetting_rebuild (w : Workspace) (disk : Disk) : SameSetting w (w.rebuild disk) :=
  sameSetting_reindex w disk w.files.entries

theorem get?_rebuild (w : Workspace) (disk : Disk) (k : Location) :
    (w.rebuild disk).files.get? k =
      (w.files.get? k).map fun f => w.fileOf disk f.outline := by
  cases h : w.files.get? k with
  | none =>
      have hk := Catalog.get?_eq_none_iff.mp h
      exact (reindex_of_notMem w disk w.files.entries hk).1.trans h
  | some f =>
      have hk := Catalog.mem_entries_iff.mpr h
      exact (reindex_of_mem w disk w.files.entries w.files.nodup hk).1

theorem table?_rebuild_of_known {w : Workspace} {disk : Disk} {k : Location} {f : SourceFile}
    (h : w.files.get? k = some f) :
    (w.rebuild disk).index.table? k = some ((w.fileOf disk f.outline).table k) :=
  (reindex_of_mem w disk w.files.entries w.files.nodup (Catalog.mem_entries_iff.mpr h)).2

theorem table?_rebuild_of_unknown {w : Workspace} {disk : Disk} {k : Location}
    (h : w.files.get? k = none) : (w.rebuild disk).index.table? k = w.index.table? k :=
  (reindex_of_notMem w disk w.files.entries (Catalog.get?_eq_none_iff.mp h)).2

/-! ## Files from disk -/

/-- One workspace is another with files that were not known, each indexed from disk. -/
structure Loads (disk : Disk) (w w' : Workspace) : Prop extends SameSetting w w' where
  known : ∀ l f, w.files.get? l = some f →
    w'.files.get? l = some f ∧ w'.index.table? l = w.index.table? l
  loaded : ∀ l f, w.files.get? l = none → w'.files.get? l = some f →
    ∃ text, readText? disk l = some text ∧ f = w.fileOf disk (Outline.ofText text) ∧
      w'.index.table? l = some (f.table l)
  unknown : ∀ l, w'.files.get? l = none → w'.index.table? l = w.index.table? l

theorem Loads.refl (disk : Disk) (w : Workspace) : Loads disk w w where
  toSameSetting := SameSetting.refl w
  known _ _ h := ⟨h, rfl⟩
  loaded l f h h' := by
    rw [h] at h'
    cases h'
  unknown _ _ := rfl

/-- A file that is known after loading was known before, or it was read from disk. -/
theorem Loads.known_or_loaded {disk : Disk} {w w' : Workspace} (h : Loads disk w w') {l : Location}
    {f : SourceFile} (hf : w'.files.get? l = some f) :
    (w.files.get? l = some f ∧ w'.index.table? l = w.index.table? l) ∨
      (w.files.get? l = none ∧ ∃ text, readText? disk l = some text ∧
        f = w.fileOf disk (Outline.ofText text) ∧ w'.index.table? l = some (f.table l)) := by
  cases hold : w.files.get? l with
  | none => exact Or.inr ⟨rfl, h.loaded l f hold hf⟩
  | some f' =>
      obtain ⟨hf', htable⟩ := h.known l f' hold
      rw [hf] at hf'
      exact Or.inl ⟨hf'.symm, htable⟩

/-- Files that are loaded have their tables, and those of other files stay as they are. -/
theorem Loads.table? {disk : Disk} {w w' : Workspace} (h : Loads disk w w')
    (hw : ∀ l f, w.files.get? l = some f → w.index.table? l = some (f.table l)) {l : Location}
    {f : SourceFile} (hf : w'.files.get? l = some f) : w'.index.table? l = some (f.table l) := by
  rcases h.known_or_loaded hf with ⟨hold, htable⟩ | ⟨-, text, -, -, htable⟩
  · rw [htable]
    exact hw l f hold
  · exact htable

theorem Loads.loadFile {disk : Disk} {w w' : Workspace} (h : Loads disk w w') {l : Location}
    (hl : w.files.get? l = none) : Loads disk w (w'.loadFile disk l) := by
  cases ht : readText? disk l with
  | none => rwa [Workspace.loadFile, ht]
  | some text =>
      rw [Workspace.loadFile, ht]
      refine ⟨h.toSameSetting.trans (sameSetting_indexOutline w' disk l _), ?_, ?_, ?_⟩
      · intro k f hk
        have hne : l ≠ k := by
          rintro rfl
          rw [hl] at hk
          cases hk
        rw [get?_indexOutline, if_neg hne, table?_indexOutline, if_neg hne]
        exact h.known k f hk
      · intro k f hk hf
        rw [get?_indexOutline] at hf
        rw [table?_indexOutline]
        by_cases hlk : l = k
        · subst hlk
          rw [if_pos rfl, h.toSameSetting.fileOf_eq] at hf
          obtain rfl := Option.some.inj hf
          exact ⟨text, ht, rfl, by rw [if_pos rfl, h.toSameSetting.fileOf_eq]⟩
        · rw [if_neg hlk] at hf
          rw [if_neg hlk]
          exact h.loaded k f hk hf
      · intro k hk
        rw [get?_indexOutline] at hk
        rw [table?_indexOutline]
        by_cases hlk : l = k
        · rw [if_pos hlk] at hk
          cases hk
        · rw [if_neg hlk] at hk ⊢
          exact h.unknown k hk

end Workspace

end PawnScope
