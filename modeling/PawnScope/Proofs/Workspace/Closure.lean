import PawnScope.Proofs.Visibility.Reachability
import PawnScope.Proofs.Workspace.History

/-! # Closure under includes

On a disk that does not change, no include leads from the index to a file that could be read and is
not there. An event that ends with loading leaves nothing wanted behind, be it wanted by an include
or as the main file; any other event keeps the known files as they are. A folder that is added may
make another file the main file, so that only the includes stay settled then. -/

namespace PawnScope

theorem Index.main?_eq_some_iff {x : Index} {disk : Disk} {main : Location} :
    x.main? disk = some main ↔ x.config.MainAt disk main := by
  cases h : x.config.resolveMainPath disk with
  | error e =>
      simp [main?, mainLocation, Config.MainAt, h, bind, Except.bind, Except.toOption]
  | ok path =>
      rw [Config.mainAt_iff h]
      simp [main?, mainLocation, h, bind, Except.bind, pure, Except.pure, Except.toOption]

namespace Workspace

variable {disk : Disk} {w : Workspace}

/-- The file at a location has a table, or it cannot be read. -/
def Indexed (disk : Disk) (w : Workspace) (l : Location) : Prop :=
  w.index.tables.contains l = true ∨ readText? disk l = none

/-- Every file that is wanted is known or cannot be read. -/
def WantedLoaded (disk : Disk) (w : Workspace) : Prop :=
  ∀ l ∈ w.wanted disk, w.files.contains l = true ∨ readText? disk l = none

/-- Every file that a known file includes, placeholders apart, is known or cannot be read. -/
def TargetsLoaded (disk : Disk) (w : Workspace) : Prop :=
  ∀ k f, w.files.get? k = some f → ∀ l ∈ f.targets,
    w.files.contains l = true ∨ readText? disk l = none

theorem WantedLoaded.targetsLoaded (h : WantedLoaded disk w) : TargetsLoaded disk w :=
  fun k f hf l hl => h l (mem_wanted_iff.mpr (Or.inl ⟨k, f, hf, hl⟩))

theorem wantedLoaded_loadDependencies (w : Workspace) (disk : Disk) :
    WantedLoaded disk (w.loadDependencies disk) :=
  fun _ h => settled_loadDependencies w disk h

theorem wantedLoaded_reresolve (w : Workspace) (disk : Disk) :
    WantedLoaded disk (w.reresolve disk) :=
  wantedLoaded_loadDependencies (w.rebuild disk) disk

theorem wantedLoaded_indexText (w : Workspace) (disk : Disk) (l : Location) (text : String) :
    WantedLoaded disk (w.indexText disk l text) := by
  rw [indexText]
  split
  · exact wantedLoaded_reresolve _ disk
  · exact wantedLoaded_loadDependencies _ disk

theorem wantedLoaded_setConfig (w : Workspace) (disk : Disk) (config : Config) :
    WantedLoaded disk (w.setConfig disk config) := by
  rw [setConfig]
  split
  · exact wantedLoaded_reresolve _ disk
  · exact wantedLoaded_loadDependencies _ disk

/-! ## Events -/

/-- The event looks for no files: a folder is added, the document that changes is not open, or the
settings are not usable. -/
def IsIdle (w : Workspace) : Event → Prop
  | .addFolder _ => True
  | .changed l _ _ => w.buffers.contains l = false
  | .settings settings => w.index.config.applySettings? settings = none
  | _ => False

theorem files_perform_of_isIdle {e : Event} (h : w.IsIdle e) (disk : Disk) :
    (w.perform disk e).files = w.files := by
  cases e with
  | addFolder folder => rfl
  | settings settings =>
      change w.index.config.applySettings? settings = none at h
      rw [perform, applySettings?, h]
      rfl
  | changed l changes version =>
      rw [perform, changeDocument, Catalog.contains_eq_false_iff.mp h]
  | opened | closed | scanned | indexed | reresolved => exact h.elim

theorem wantedLoaded_perform {e : Event} (h : ¬w.IsIdle e) (disk : Disk) :
    WantedLoaded disk (w.perform disk e) := by
  cases e with
  | addFolder folder => exact absurd trivial h
  | settings settings =>
      rw [perform, applySettings?]
      cases hconfig : w.index.config.applySettings? settings with
      | none => exact absurd hconfig h
      | some config => exact wantedLoaded_setConfig w disk config
  | opened l text version => exact wantedLoaded_indexText _ disk l text
  | changed l changes version =>
      rw [perform, changeDocument]
      cases hb : w.buffers.get? l with
      | none => exact absurd (Catalog.contains_eq_false_iff.mpr hb) h
      | some b => exact wantedLoaded_indexText _ disk l _
  | closed l =>
      rw [perform, closeDocument]
      cases readText? disk l with
      | none => exact wantedLoaded_reresolve _ disk
      | some text => exact wantedLoaded_indexText _ disk l text
  | scanned found => exact wantedLoaded_reresolve _ disk
  | indexed l text => exact wantedLoaded_indexText w disk l text
  | reresolved => exact wantedLoaded_reresolve w disk

theorem TargetsLoaded.perform (h : TargetsLoaded disk w) (e : Event) :
    TargetsLoaded disk (w.perform disk e) := by
  by_cases hidle : w.IsIdle e
  · rw [TargetsLoaded, files_perform_of_isIdle hidle]
    exact h
  · exact (wantedLoaded_perform hidle disk).targetsLoaded

theorem targetsLoaded_after (disk : Disk) (events : List Event) :
    TargetsLoaded disk (after disk events) := by
  refine after_induction events ?_ fun _ e _ h => h.perform e
  intro k f hf
  cases hf

/-- After any events on a disk that does not change, an include of a table leads to a placeholder,
to a file with a table, or to one that cannot be read. So does the main path, unless the last event
has looked for no files. -/
theorem indexed_after (disk : Disk) (events : List Event) :
    (∀ l t, (after disk events).index.table? l = some t → ∀ e ∈ t.includes,
      e.isUnresolved = false → Indexed disk (after disk events) e.target) ∧
    ∀ past e, events = past ++ [e] → ¬(after disk past).IsIdle e →
      ∀ main, (after disk events).index.config.MainAt disk main →
        Indexed disk (after disk events) main := by
  have hw := consistent_after disk events
  constructor
  · intro l t ht e he hfound
    obtain ⟨f, hf, rfl⟩ := hw.exists_of_table? ht
    obtain ⟨p, hp, rfl⟩ := List.mem_map.mp he
    rw [Indexed, hw.contains_tables]
    exact targetsLoaded_after disk events l f hf _ (mem_targets_iff.mpr ⟨p, hp, hfound, rfl⟩)
  · rintro past e rfl hidle main hmain
    rw [Indexed, hw.contains_tables]
    rw [after_concat] at hmain ⊢
    exact wantedLoaded_perform hidle disk main
      (mem_wanted_iff.mpr (Or.inr (Index.main?_eq_some_iff.mpr hmain)))

end Workspace

end PawnScope
