import PawnScope.Proofs.Workspace.History

/-! # A disk that changes

Files may come, go and change on disk between any two events. The index stays in step with the known
files all the same, since each table is made from what is stored for its file. An open document is
indexed with the text that the editor holds, and nothing that is read from disk later takes the
place of this text: folders are scanned for files that are not open, and includes bring in only
files that are not known. -/

namespace PawnScope.Workspace

variable {disk : Disk} {w w' : Workspace} {l k : Location}

/-- The workspace after some events, each on the disk as it was then. -/
def afterOn (steps : List (Disk × Event)) : Workspace :=
  steps.foldl (fun w step => w.perform step.1 step.2) {}

/-! ## Consistency -/

theorem consistent_afterOn (steps : List (Disk × Event)) : Consistent (afterOn steps) :=
  List.foldlRecOn steps _ consistent_empty fun _ h step _ => h.perform step.1 step.2

/-- Whatever happens on a disk that may change, the known files are those that have tables; each
table is made from the stored outline and the stored edges, which are those of the includes under
the current configuration; and open documents and the owners of base names are known. -/
theorem inStep_afterOn (steps : List (Disk × Event)) :
    (∀ l, (afterOn steps).index.tables.contains l = (afterOn steps).files.contains l) ∧
      (∀ l f, (afterOn steps).files.get? l = some f →
        (afterOn steps).index.table? l =
            some (SymbolTable.ofSymbols l f.outline.symbols (f.edges.map (·.2))) ∧
          f.edges.map (·.1) = (afterOn steps).index.config.effectiveIncludes f.outline) ∧
      (∀ l, (afterOn steps).buffers.contains l = true →
        (afterOn steps).files.contains l = true) ∧
      ∀ name l, (afterOn steps).index.registry.resolve? name = some l →
        (afterOn steps).files.contains l = true ∧ l.baseName? = some name := by
  have h := consistent_afterOn steps
  refine ⟨h.contains_tables, ?_, h.opened, ?_⟩
  · intro l f hf
    exact ⟨h.table? l f hf, h.includes l f hf⟩
  · intro name l hl
    exact (h.registered name l hl).symm

/-! ## Stored outlines -/

/-- The stored outline of a known file. -/
def outline? (w : Workspace) (l : Location) : Option Outline := (w.files.get? l).map (·.outline)

theorem outline?_indexOutline (w : Workspace) (disk : Disk) (l k : Location) (o : Outline) :
    (w.indexOutline disk l o).outline? k = if l = k then some o else w.outline? k := by
  rw [outline?, get?_indexOutline]
  by_cases h : l = k
  · rw [if_pos h, if_pos h]
    rfl
  · rw [if_neg h, if_neg h]
    rfl

theorem outline?_rebuild (w : Workspace) (disk : Disk) (l : Location) :
    (w.rebuild disk).outline? l = w.outline? l := by
  rw [outline?, get?_rebuild, Option.map_map]
  rfl

theorem Loads.outline? (h : Loads disk w w') {o : Outline} (hl : w.outline? l = some o) :
    w'.outline? l = some o := by
  obtain ⟨f, hf, rfl⟩ := Option.map_eq_some_iff.mp hl
  rw [Workspace.outline?, (h.known l f hf).1]
  rfl

theorem outline?_loadDependencies {o : Outline} (h : w.outline? l = some o) :
    (w.loadDependencies disk).outline? l = some o :=
  (loads_loadDependencies w disk).outline? h

theorem outline?_reresolve {o : Outline} (h : w.outline? l = some o) :
    (w.reresolve disk).outline? l = some o :=
  outline?_loadDependencies ((outline?_rebuild w disk l).trans h)

/-- Indexing a text stores its outline and keeps those of other known files. -/
theorem outline?_indexText {text : String} {o : Outline}
    (h : (if l = k then some (Outline.ofText text) else w.outline? k) = some o) :
    (w.indexText disk l text).outline? k = some o := by
  have hindexed := (outline?_indexOutline { w with index := w.index.register l } disk l k
    (Outline.ofText text)).trans h
  rw [indexText]
  split
  · exact outline?_reresolve hindexed
  · exact outline?_loadDependencies hindexed

theorem outline?_setConfig {o : Outline} (h : w.outline? l = some o) (config : Config) :
    (w.setConfig disk config).outline? l = some o := by
  have hconfig : { w with index := { w.index with config := config } }.outline? l = some o := h
  rw [setConfig]
  split
  · exact outline?_reresolve hconfig
  · exact outline?_loadDependencies hconfig

theorem outline?_takeIn {o : Outline} (h : w.outline? l = some o) (hl : w.buffers.contains l = true)
    (found : List (Location × Outline)) : (w.takeIn found).outline? l = some o := by
  obtain ⟨f, hf, rfl⟩ := Option.map_eq_some_iff.mp h
  obtain ⟨f', hf'⟩ := Catalog.contains_iff.mp
    (Catalog.contains_foldl_insert.mpr (Or.inl (Catalog.contains_iff.mpr ⟨f, hf⟩)))
  rw [outline?, takeIn, hf']
  rcases Catalog.get?_foldl_insert hf' with hold | ⟨e, he, rfl, -⟩
  · rw [hf] at hold
    obtain rfl := Option.some.inj hold
    rfl
  · simp [hl] at he

/-! ## Open documents -/

theorem buffers_reresolve (w : Workspace) (disk : Disk) : (w.reresolve disk).buffers = w.buffers :=
  (sameSetting_reresolve w disk).buffers

theorem buffers_indexText (w : Workspace) (disk : Disk) (l : Location) (text : String) :
    (w.indexText disk l text).buffers = w.buffers :=
  (sameSetting_indexText w disk l text).buffers

theorem buffers_setConfig (w : Workspace) (disk : Disk) (config : Config) :
    (w.setConfig disk config).buffers = w.buffers :=
  (sameSetting_setConfig w disk config).buffers

/-- The stored outline of every open document is that of the text that the editor holds. -/
def BuffersIndexed (w : Workspace) : Prop :=
  ∀ l b, w.buffers.get? l = some b → w.outline? l = some (Outline.ofText b.text)

theorem BuffersIndexed.reresolve (h : BuffersIndexed w) (disk : Disk) :
    BuffersIndexed (w.reresolve disk) := by
  intro l b hb
  rw [buffers_reresolve] at hb
  exact outline?_reresolve (h l b hb)

/-- Indexing a text while only the document of this file is opened, changed or closed. If the
document is open then, the text is the one that it has. -/
theorem BuffersIndexed.indexText (h : BuffersIndexed w) (disk : Disk) {text : String}
    {buffers : Catalog Location Buffer}
    (hothers : ∀ k, k ≠ l → buffers.get? k = w.buffers.get? k)
    (htext : ∀ b, buffers.get? l = some b → b.text = text) :
    BuffersIndexed ({ w with buffers := buffers }.indexText disk l text) := by
  intro k b hb
  rw [buffers_indexText] at hb
  apply outline?_indexText
  by_cases hlk : l = k
  · subst hlk
    rw [if_pos rfl, htext b hb]
  · rw [if_neg hlk]
    exact h k b ((hothers k (Ne.symm hlk)).symm.trans hb)

theorem BuffersIndexed.setConfig (h : BuffersIndexed w) (disk : Disk) (config : Config) :
    BuffersIndexed (w.setConfig disk config) := by
  intro l b hb
  rw [buffers_setConfig] at hb
  exact outline?_setConfig (h l b hb) config

theorem BuffersIndexed.takeIn (h : BuffersIndexed w) (found : List (Location × Outline)) :
    BuffersIndexed (w.takeIn found) := by
  intro l b hb
  exact outline?_takeIn (h l b hb) (Catalog.contains_iff.mpr ⟨b, hb⟩) found

theorem BuffersIndexed.dropFile (h : BuffersIndexed w) (l : Location) :
    BuffersIndexed ({ w with buffers := w.buffers.erase l }.dropFile l) := by
  intro k b hb
  change (w.buffers.erase l).get? k = some b at hb
  change ((w.files.erase l).get? k).map (·.outline) = _
  rw [Catalog.get?_erase] at hb ⊢
  by_cases hlk : l = k
  · rw [if_pos hlk] at hb
    cases hb
  · rw [if_neg hlk] at hb ⊢
    exact h k b hb

theorem BuffersIndexed.perform (h : BuffersIndexed w) (disk : Disk) {e : Event}
    (he : ∀ l text, e ≠ .indexed l text) : BuffersIndexed (w.perform disk e) := by
  cases e with
  | addFolder folder => exact h
  | settings settings =>
      rw [Workspace.perform, applySettings?]
      cases w.index.config.applySettings? settings with
      | none => exact h
      | some config => exact h.setConfig disk config
  | opened l text version =>
      apply h.indexText disk
      · exact fun k hk => Catalog.get?_insert_of_ne _ hk _
      · simp [Catalog.get?_insert]
  | changed l changes version =>
      rw [Workspace.perform, changeDocument]
      cases w.buffers.get? l with
      | none => exact h
      | some b =>
          apply h.indexText disk
          · exact fun k hk => Catalog.get?_insert_of_ne _ hk _
          · simp [Catalog.get?_insert]
  | closed l =>
      rw [Workspace.perform, closeDocument]
      cases readText? disk l with
      | none => exact (h.dropFile l).reresolve disk
      | some text =>
          apply h.indexText disk
          · exact fun k hk => Catalog.get?_erase_of_ne _ hk
          · simp [Catalog.get?_erase]
  | scanned found => exact (h.takeIn found).reresolve disk
  | indexed l text => exact absurd rfl (he l text)
  | reresolved => exact h.reresolve disk

/-- As long as no text is indexed past the editor, an open document has the outline of the text that
the editor holds, and a table with the symbols of this text, whatever the disk holds and whatever a
scan says about it. -/
theorem bufferWins_afterOn {steps : List (Disk × Event)}
    (hsteps : ∀ step ∈ steps, ∀ l text, step.2 ≠ .indexed l text) {l : Location} {b : Buffer}
    (hb : (afterOn steps).buffers.get? l = some b) :
    ∃ f, (afterOn steps).files.get? l = some f ∧ f.outline = Outline.ofText b.text ∧
      (afterOn steps).index.table? l = some
        (SymbolTable.ofSymbols l (Outline.ofText b.text).symbols (f.edges.map (·.2))) := by
  have hindexed : BuffersIndexed (afterOn steps) := by
    refine List.foldlRecOn steps _ ?_ fun _ h step hstep => h.perform step.1 (hsteps step hstep)
    intro l b hb
    cases hb
  obtain ⟨f, hf, houtline⟩ := Option.map_eq_some_iff.mp (hindexed l b hb)
  refine ⟨f, hf, houtline, ?_⟩
  rw [(consistent_afterOn steps).table? l f hf, SourceFile.table, houtline]

/-- A disk with one file. -/
def fileOnDisk : Disk where
  root := .dir [(Text.octets "a.sp".toList, .file (some "int g_Disk;"))]

/-- The file is opened with another text before it is on disk. Then it is written and scanned, the
document is edited, and all edges are renewed. -/
def editedHistory : List (Disk × Event) :=
  [(.blank [], .opened (.ofSegments ["a.sp"]) "int g_Open;" (some 1)),
    (fileOnDisk, .scanned [(.ofSegments ["a.sp"], Outline.ofText "int g_Disk;")]),
    (fileOnDisk, .changed (.ofSegments ["a.sp"]) [⟨some ⟨⟨0, 6⟩, ⟨0, 10⟩⟩, "Edit"⟩] (some 2)),
    (fileOnDisk, .reresolved)]

theorem bufferWins_afterOn_edited :
    (∀ step ∈ editedHistory, ∀ l text, step.2 ≠ .indexed l text) ∧
      (afterOn editedHistory).buffers.get? (.ofSegments ["a.sp"]) =
        some ⟨"int g_Edit;", some 2, 1⟩ ∧
      ∃ f, (afterOn editedHistory).files.get? (.ofSegments ["a.sp"]) = some f ∧
        f.outline = Outline.ofText "int g_Edit;" ∧
        (afterOn editedHistory).index.table? (.ofSegments ["a.sp"]) = some
          (SymbolTable.ofSymbols (.ofSegments ["a.sp"]) (Outline.ofText "int g_Edit;").symbols
            (f.edges.map (·.2))) := by
  have hsteps : ∀ step ∈ editedHistory, ∀ l text, step.2 ≠ .indexed l text := by
    simp [editedHistory]
  have hb : (afterOn editedHistory).buffers.get? (.ofSegments ["a.sp"]) =
      some ⟨"int g_Edit;", some 2, 1⟩ := by
    decide +kernel
  exact ⟨hsteps, hb, bufferWins_afterOn hsteps hb⟩

end PawnScope.Workspace
