import PawnScope.Proofs.Workspace.ChangingDisk
import PawnScope.Proofs.Workspace.Closure
import PawnScope.Proofs.Workspace.Settings

/-! # Resolving everything again, once and twice

Whatever a workspace is like before, all edges are fresh after everything is resolved again, those
of the files that are loaded on the way included, since these are indexed under the same registry
and configuration. The tables are in step with the files then, and what is still wanted cannot be
read. So a second time finds nothing to rebuild and tries in vain to load what is missing. -/

namespace PawnScope.Workspace

variable {disk : Disk} {w : Workspace}

/-! ## Nothing to load -/

theorem loadAll_of_unreadable {found : List Location}
    (h : ∀ l ∈ found, readText? disk l = none) : w.loadAll disk found = w := by
  induction found with
  | nil => rfl
  | cons l found ih =>
      have hstep : w.loadAll disk (l :: found) = (w.loadFile disk l).loadAll disk found := rfl
      have hload : w.loadFile disk l = w := by rw [loadFile, h l List.mem_cons_self]
      rw [hstep, hload]
      exact ih fun k hk => h k (List.mem_cons_of_mem l hk)

/-- If all that is wanted is known or cannot be read, then nothing that is missing can be read. -/
theorem WantedLoaded.loadAll_missing (h : WantedLoaded disk w) (tried : List Location) :
    w.loadAll disk (w.missing disk tried) = w := by
  apply loadAll_of_unreadable
  intro l hl
  obtain ⟨hwanted, hunsettled⟩ := mem_missing_iff.mp hl
  rcases h l hwanted with hknown | hunread
  · exact absurd (Or.inl hknown) hunsettled
  · exact hunread

theorem WantedLoaded.loadRounds_eq_self (h : WantedLoaded disk w) (fuel : Nat)
    (tried : List Location) : loadRounds disk fuel tried w = w := by
  induction fuel generalizing tried with
  | zero => rfl
  | succ fuel ih =>
      rw [loadRounds]
      split
      · rfl
      · rw [h.loadAll_missing]
        exact ih _

theorem WantedLoaded.loadDependencies_eq_self (h : WantedLoaded disk w) :
    w.loadDependencies disk = w :=
  h.loadRounds_eq_self _ []

/-! ## Tables -/

theorem tablesInStep_rebuild (w : Workspace) (disk : Disk) : TablesInStep (w.rebuild disk) := by
  intro l f hf
  rw [get?_rebuild, Option.map_eq_some_iff] at hf
  obtain ⟨f, hf, rfl⟩ := hf
  exact table?_rebuild_of_known hf

theorem tablesInStep_reresolve (w : Workspace) (disk : Disk) :
    TablesInStep (w.reresolve disk) :=
  fun _ _ hf => (loads_loadDependencies _ disk).table? (tablesInStep_rebuild w disk) hf

/-! ## Resolving again -/

/-- After everything is resolved again, every known file has the edges that its includes make under
the registry and the configuration, which have not changed, and the table that goes with them. All
files that were known still are, with the same outlines. Resolving everything once more leaves the
workspace exactly as it is. -/
theorem reresolve_fresh_and_idempotent (w : Workspace) (disk : Disk) :
    SameSetting w (w.reresolve disk) ∧
      (∀ l o, w.outline? l = some o → (w.reresolve disk).outline? l = some o) ∧
      Fresh disk (w.reresolve disk) ∧ TablesInStep (w.reresolve disk) ∧
      (w.reresolve disk).reresolve disk = w.reresolve disk := by
  have hfresh := fresh_reresolve w disk
  have htables := tablesInStep_reresolve w disk
  refine ⟨sameSetting_reresolve w disk, fun l o => outline?_reresolve, hfresh, htables, ?_⟩
  have hrebuild : (w.reresolve disk).rebuild disk = w.reresolve disk :=
    rebuild_eq_self htables hfresh
  have hload : (w.reresolve disk).loadDependencies disk = w.reresolve disk :=
    (wantedLoaded_reresolve w disk).loadDependencies_eq_self
  calc (w.reresolve disk).reresolve disk
      = ((w.reresolve disk).rebuild disk).loadDependencies disk := rfl
    _ = (w.reresolve disk).loadDependencies disk := by rw [hrebuild]
    _ = w.reresolve disk := hload

end PawnScope.Workspace
