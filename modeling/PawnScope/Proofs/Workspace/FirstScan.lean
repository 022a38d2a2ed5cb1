import PawnScope.Proofs.Visibility.Preorder
import PawnScope.Proofs.Workspace.MissingIncludes
import PawnScope.Proofs.Workspace.Order
import PawnScope.Workspace.Scan

/-! # The first scan of a workspace

In a workspace in which nothing is known yet, a scan decides everything: the known files are those
that it found, and each base name belongs to the file that has it. Where all includes lead to such
files or to placeholders, nothing else is loaded, so that a file leads where its includes are
resolved among the files found. -/

namespace PawnScope

/-- Nothing is included that is not written, and nothing is looked for outside the workspace. -/
structure Config.IsPlain (c : Config) : Prop where
  implicitSourcemod : c.implicitSourcemod = false
  includeDirectories : c.includeDirectories = []
  mainPath : c.mainPath = none

namespace Workspace

/-- Nothing is open, known or registered. -/
structure IsBlank (w : Workspace) : Prop where
  buffers : ∀ l, w.buffers.contains l = false
  files : ∀ l, w.files.get? l = none
  registry : ∀ name, w.index.registry.resolve? name = none
  tables : ∀ l, w.index.tables.get? l = none

/-- A workspace with a plain configuration in which nothing is known yet. -/
structure IsPlain (w : Workspace) : Prop extends IsBlank w where
  config : w.index.config.IsPlain

/-! ## Values under different keys -/

section Write

variable {β κ α : Type} [DecidableEq κ] {key : β → Option κ} {value : β → α} {es : List β} {k : κ}

theorem foldl_write_of_forall_ne (h : ∀ e ∈ es, key e ≠ some k) (g : κ → Option α) :
    es.foldl (fun g e k => if key e = some k then some (value e) else g k) g k = g k := by
  induction es generalizing g with
  | nil => rfl
  | cons e es ih =>
      rw [List.forall_mem_cons] at h
      rw [List.foldl_cons, ih h.2, if_neg h.1]

/-- What was written under a key is what stands there if no other entry has the key. -/
theorem foldl_write_of_mem (hkeys : (es.filterMap key).Nodup) {e : β} (he : e ∈ es)
    (hk : key e = some k) (g : κ → Option α) :
    es.foldl (fun g e k => if key e = some k then some (value e) else g k) g k =
      some (value e) := by
  obtain ⟨front, back, rfl⟩ := List.append_of_mem he
  have hback : ∀ d ∈ back, key d ≠ some k := by
    rw [List.filterMap_append, List.filterMap_cons_some hk, List.nodup_append,
      List.nodup_cons] at hkeys
    intro d hd hdk
    exact hkeys.2.1.1 (List.mem_filterMap.mpr ⟨d, hd, hdk⟩)
  rw [List.foldl_append, List.foldl_cons, foldl_write_of_forall_ne hback, if_pos hk]

end Write

variable {disk : Disk} {w : Workspace} {found : List (Location × Outline)}

namespace IsBlank

/-! ## What is taken in -/

theorem get?_takeIn (hw : IsBlank w) (hlocations : (found.map Prod.fst).Nodup)
    {e : Location × Outline} (he : e ∈ found) :
    (w.takeIn found).files.get? e.1 = some ⟨e.2, []⟩ := by
  have hclosed : (found.filter fun e => !w.buffers.contains e.1) = found := by
    simp [hw.buffers]
  have hkeys : (found.filterMap fun e => some e.1).Nodup := by
    rw [List.filterMap_eq_map']
    exact hlocations
  rw [takeIn, get?_foldl_insert_eq, hclosed]
  exact foldl_write_of_mem hkeys he rfl _

theorem get?_takeIn_eq_none (hw : IsBlank w) {l : Location} (hl : l ∉ found.map Prod.fst) :
    (w.takeIn found).files.get? l = none := by
  have hother : ∀ e ∈ found.filter (fun e => !w.buffers.contains e.1), some e.1 ≠ some l := by
    intro e he heq
    exact hl (List.mem_map.mpr ⟨e, (List.mem_filter.mp he).1, Option.some.inj heq⟩)
  rw [takeIn, get?_foldl_insert_eq, foldl_write_of_forall_ne hother, hw.files]

theorem resolve?_takeIn (hnames : (found.filterMap (·.1.baseName?)).Nodup)
    {e : Location × Outline} (he : e ∈ found) {name : String} (hname : e.1.baseName? = some name) :
    (w.takeIn found).index.registry.resolve? name = some e.1 := by
  rw [takeIn, foldl_register_eq, resolve?_foldl_register_eq]
  exact foldl_write_of_mem hnames he hname _

theorem resolve?_takeIn_eq_none (hw : IsBlank w) {name : String}
    (hname : ∀ e ∈ found, e.1.baseName? ≠ some name) :
    (w.takeIn found).index.registry.resolve? name = none := by
  rw [takeIn, foldl_register_eq, resolve?_foldl_register_eq, foldl_write_of_forall_ne hname,
    hw.registry]

theorem exists_of_get?_takeIn (hw : IsBlank w) (hlocations : (found.map Prod.fst).Nodup)
    {l : Location} {f : SourceFile} (hf : (w.takeIn found).files.get? l = some f) :
    ∃ o, (l, o) ∈ found ∧ f = ⟨o, []⟩ := by
  have hl : l ∈ found.map Prod.fst := by
    by_contra hl
    rw [hw.get?_takeIn_eq_none hl] at hf
    cases hf
  obtain ⟨e, he, rfl⟩ := List.mem_map.mp hl
  rw [hw.get?_takeIn hlocations he] at hf
  exact ⟨e.2, he, (Option.some.inj hf).symm⟩

end IsBlank

theorem config_takeIn (w : Workspace) (found : List (Location × Outline)) :
    (w.takeIn found).index.config = w.index.config := by
  rw [takeIn, foldl_register_eq]

theorem tables_takeIn (w : Workspace) (found : List (Location × Outline)) :
    (w.takeIn found).index.tables = w.index.tables := by
  rw [takeIn, foldl_register_eq]

/-! ## Where the files lead -/

theorem IsPlain.edgesOf_takeIn (hw : IsPlain w) (o : Outline) :
    (w.takeIn found).index.edgesOf disk o =
      o.includes.map fun i => (i, (w.takeIn found).index.resolve disk i.reference i.isBuiltin) := by
  have heffective : w.index.config.effectiveIncludes o = o.includes := by
    simp [Config.effectiveIncludes, hw.config.implicitSourcemod]
  rw [Index.edgesOf, Index.resolveAll, config_takeIn, heffective]

theorem mainLocation_of_mainPath_eq_none {x : Index} (h : x.config.mainPath = none) :
    x.mainLocation disk = .ok none := by
  simp [Index.mainLocation, Config.resolveMainPath, h]

/-- All includes of the files found lead to files found or to placeholders. -/
def ClosedUnder (disk : Disk) (w : Workspace) (found : List (Location × Outline)) : Prop :=
  ∀ e ∈ found, ∀ i ∈ (w.takeIn found).index.edgesOf disk e.2,
    i.2.isUnresolved = false → i.2.target ∈ found.map Prod.fst

namespace IsBlank

theorem applyScan_eq_rebuild (hw : IsBlank w) (hlocations : (found.map Prod.fst).Nodup)
    (hmain : w.index.config.mainPath = none) (hclosed : ClosedUnder disk w found) :
    w.applyScan disk found = (w.takeIn found).rebuild disk := by
  apply loadRounds_of_missing_eq_nil
  rw [List.eq_nil_iff_forall_not_mem]
  intro l hl
  obtain ⟨hwanted, hunsettled⟩ := mem_missing_iff.mp hl
  rcases mem_wanted_iff.mp hwanted with ⟨k, f, hf, hlf⟩ | hl
  · rw [get?_rebuild, Option.map_eq_some_iff] at hf
    obtain ⟨f, hf, rfl⟩ := hf
    obtain ⟨o, ho, rfl⟩ := hw.exists_of_get?_takeIn hlocations hf
    obtain ⟨i, hi, hresolved, rfl⟩ := mem_targets_iff.mp hlf
    obtain ⟨e, he, hel⟩ := List.mem_map.mp (hclosed _ ho i hi hresolved)
    apply hunsettled
    left
    rw [Catalog.contains, get?_rebuild, ← hel, hw.get?_takeIn hlocations he]
    rfl
  · rw [(sameSetting_rebuild _ disk).main?_eq, Index.main?,
      mainLocation_of_mainPath_eq_none (by rw [config_takeIn, hmain])] at hl
    cases hl

variable (hw : IsBlank w) (hlocations : (found.map Prod.fst).Nodup)
  (hmain : w.index.config.mainPath = none) (hclosed : ClosedUnder disk w found)

include hw hlocations hmain hclosed

/-- The includes of a file that was found are resolved among the files found. -/
theorem get?_applyScan {e : Location × Outline} (he : e ∈ found) :
    (w.applyScan disk found).files.get? e.1 = some ((w.takeIn found).fileOf disk e.2) := by
  rw [hw.applyScan_eq_rebuild hlocations hmain hclosed, get?_rebuild, hw.get?_takeIn hlocations he]
  rfl

/-- A file that was found leads where its includes are resolved among the files found. -/
theorem leads_applyScan {e : Location × Outline} (he : e ∈ found) :
    Visibility.leads (w.applyScan disk found).index.tables e.1 =
      (((w.takeIn found).index.edgesOf disk e.2).map (·.2)).map (·.target) := by
  have htable : ((w.takeIn found).rebuild disk).index.tables.get? e.1 = _ :=
    table?_rebuild_of_known (hw.get?_takeIn hlocations he)
  rw [hw.applyScan_eq_rebuild hlocations hmain hclosed, Visibility.leads, htable]
  simp [Visibility.targets, SourceFile.table, SymbolTable.ofSymbols, fileOf]

/-- No other file leads anywhere. -/
theorem leads_applyScan_eq_nil {l : Location} (hl : l ∉ found.map Prod.fst) :
    Visibility.leads (w.applyScan disk found).index.tables l = [] := by
  have htable : ((w.takeIn found).rebuild disk).index.tables.get? l =
      (w.takeIn found).index.tables.get? l :=
    table?_rebuild_of_unknown (hw.get?_takeIn_eq_none hl)
  rw [tables_takeIn, hw.tables] at htable
  rw [hw.applyScan_eq_rebuild hlocations hmain hclosed, Visibility.leads, htable]

end IsBlank

/-! ## Workspaces with one folder -/

/-- A workspace with one folder, under a configuration. -/
def opened (disk : Disk) (folder : Location) (c : Config) : Workspace :=
  (({} : Workspace).addFolder folder).setConfig disk c

/-- A workspace with one folder, after its first scan. -/
def scanned (disk : Disk) (folder : Location) (c : Config) : Workspace :=
  (opened disk folder c).applyScan disk ((opened disk folder c).scanFolders disk)

/-- There is nothing to load before a scan. -/
theorem opened_eq (folder : Location) {c : Config} (hc : c.IsPlain) :
    opened disk folder c = { folders := [folder], index := { config := c } } := by
  have hmissing : missing { folders := [folder], index := { config := c } } disk [] = [] := by
    rw [missing, wanted, Index.main?, mainLocation_of_mainPath_eq_none hc.mainPath]
    rfl
  rw [opened, setConfig]
  split
  · exact loadRounds_of_missing_eq_nil hmissing _
  · exact loadRounds_of_missing_eq_nil hmissing _

theorem isPlain_opened (folder : Location) {c : Config} (hc : c.IsPlain) :
    IsPlain (opened disk folder c) := by
  rw [opened_eq folder hc]
  exact { buffers := fun _ => rfl, files := fun _ => rfl, registry := fun _ => rfl,
          tables := fun _ => rfl, config := hc }

theorem scanFolders_opened (folder : Location) {c : Config} (hc : c.IsPlain) :
    (opened disk folder c).scanFolders disk = scanFolder disk folder := by
  rw [opened_eq folder hc, scanFolders, List.flatMap_singleton]

end Workspace

end PawnScope
