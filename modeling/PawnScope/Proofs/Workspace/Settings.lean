import PawnScope.Proofs.Workspace.Freshness

/-! # Settings without a rebuild

New settings call for a rebuild only if includes may lead elsewhere under them; otherwise only what
is missing is loaded. This is as good as a rebuild: in a workspace whose edges are fresh and whose
tables are in step with its files, indexing a file again writes what is there already. -/

namespace PawnScope.Workspace

variable {disk : Disk} {w : Workspace}

/-- The table of every known file is the one that its outline and its edges make. -/
def TablesInStep (w : Workspace) : Prop :=
  ∀ l f, w.files.get? l = some f → w.index.table? l = some (f.table l)

/-! ## Rebuilding what is up to date -/

theorem indexOutline_eq_self {l : Location} {f : SourceFile} (hf : w.files.get? l = some f)
    (htable : w.index.table? l = some (f.table l))
    (hedges : f.edges = w.index.edgesOf disk f.outline) :
    w.indexOutline disk l f.outline = w := by
  have hfile : w.files.insert l ⟨f.outline, w.index.edgesOf disk f.outline⟩ = w.files := by
    rw [← hedges]
    exact Catalog.insert_eq_self hf
  have hindex : w.index.update l f.outline.symbols
      ((w.index.edgesOf disk f.outline).map (·.2)) = w.index := by
    have htables : w.index.tables.insert l (f.table l) = w.index.tables :=
      Catalog.insert_eq_self htable
    rw [← hedges]
    exact congrArg (fun tables => { w.index with tables := tables }) htables
  exact congrArg₂ (fun index files => { w with index := index, files := files }) hindex hfile

theorem reindex_eq_self {es : List (Location × SourceFile)}
    (h : ∀ e ∈ es, w.indexOutline disk e.1 e.2.outline = w) : w.reindex disk es = w := by
  induction es with
  | nil => rfl
  | cons e es ih =>
      have hstep : w.reindex disk (e :: es) =
          (w.indexOutline disk e.1 e.2.outline).reindex disk es := rfl
      rw [hstep, h e List.mem_cons_self]
      exact ih fun d hd => h d (List.mem_cons_of_mem e hd)

theorem rebuild_eq_self (htables : TablesInStep w) (hfresh : Fresh disk w) :
    w.rebuild disk = w := by
  apply reindex_eq_self
  intro e he
  have hf : w.files.get? e.1 = some e.2 := Catalog.mem_entries_iff.mp he
  exact indexOutline_eq_self hf (htables e.1 e.2 hf) (hfresh e.1 e.2 hf)

/-! ## Settings -/

theorem setConfig_eq_reresolve (htables : TablesInStep w) (hfresh : Fresh disk w)
    (config : Config) :
    w.setConfig disk config =
      { w with index := { w.index with config := config } }.reresolve disk := by
  rw [setConfig]
  split
  · rfl
  · rename_i hdiffer
    have hrebuild : { w with index := { w.index with config := config } }.rebuild disk =
        { w with index := { w.index with config := config } } :=
      rebuild_eq_self htables (hfresh.withConfig (Bool.eq_false_iff.mpr hdiffer))
    rw [reresolve, hrebuild]

/-- Settings are refused only for what they say, and then nothing changes. When they are taken in
while edges are fresh and tables in step, the outcome is that of a rebuild under the new
configuration, whether there is a rebuild or not. -/
theorem applySettings?_eq_reresolve (w : Workspace) (disk : Disk) (settings : Json) :
    (w.applySettings? disk settings = none ↔ Settings.ofJson? settings = none) ∧
      (w.applySettings? disk settings = none → w.perform disk (.settings settings) = w) ∧
      (TablesInStep w → Fresh disk w → ∀ s, Settings.ofJson? settings = some s →
        w.applySettings? disk settings = some
          ({ w with index := { w.index with config := w.index.config.update s } }.reresolve
            disk)) := by
  refine ⟨?_, ?_, ?_⟩
  · rw [applySettings?, Config.applySettings?, Option.map_eq_none_iff, Option.map_eq_none_iff]
  · intro hnone
    rw [perform, hnone]
    rfl
  · intro htables hfresh s hs
    rw [applySettings?, Config.applySettings?, hs]
    exact congrArg some (setConfig_eq_reresolve htables hfresh (w.index.config.update s))

/-- A disk with a header below an include directory and a main file that includes another one. -/
def mainOnDisk : Disk where
  root := .dir [(Text.octets "inc".toList, .dir
      [(Text.octets "a.inc".toList, .file (some "int g_A;")),
        (Text.octets "b.inc".toList, .file (some "int g_B;"))]),
    (Text.octets "main.sp".toList, .file (some "#include <b>"))]

/-- The include directory is set, and a plugin that includes the header is opened. -/
def pluginHistory : List Event :=
  [.settings (.obj [("sourcepawn", .obj [("includeDirectories", .arr [.str "/inc"])])]),
    .opened (.ofSegments ["plugin.sp"]) "#include <a>" none]

/-- The same include directory, spelled in another way, and a main file. -/
def mainSettings : Settings where
  includeDirectories := some ["/./inc/"]
  mainPath := some "/main.sp"

theorem applySettings?_eq_reresolve_main :
    Settings.ofJson? (.obj [("sourcepawn", .obj [("includeDirectories", .arr [.str "/./inc/"]),
        ("mainPath", .str "/main.sp")])]) = some mainSettings ∧
      (after mainOnDisk pluginHistory).index.config.includesDiffer
        ((after mainOnDisk pluginHistory).index.config.update mainSettings) = false ∧
      TablesInStep (after mainOnDisk pluginHistory) ∧
      Fresh mainOnDisk (after mainOnDisk pluginHistory) ∧
      (after mainOnDisk pluginHistory).applySettings? mainOnDisk
          (.obj [("sourcepawn", .obj [("includeDirectories", .arr [.str "/./inc/"]),
            ("mainPath", .str "/main.sp")])]) =
        some ({ after mainOnDisk pluginHistory with
          index := { (after mainOnDisk pluginHistory).index with
            config := (after mainOnDisk pluginHistory).index.config.update mainSettings }
          }.reresolve mainOnDisk) := by
  have hsettings : Settings.ofJson? (.obj [("sourcepawn", .obj [("includeDirectories",
      .arr [.str "/./inc/"]), ("mainPath", .str "/main.sp")])]) = some mainSettings := by
    decide +kernel
  have htables : TablesInStep (after mainOnDisk pluginHistory) :=
    (consistent_after mainOnDisk pluginHistory).table?
  have hfresh : Fresh mainOnDisk (after mainOnDisk pluginHistory) := by decide +kernel
  exact ⟨hsettings, by decide +kernel, htables, hfresh,
    (applySettings?_eq_reresolve _ mainOnDisk _).2.2 htables hfresh mainSettings hsettings⟩

end PawnScope.Workspace
