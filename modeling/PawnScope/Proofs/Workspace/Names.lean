import PawnScope.Proofs.Include.Registration
import PawnScope.Proofs.Workspace.MissingIncludes

/-! # The names of open documents

An open document is registered under its base name, but another file may take the name later. If
that file is then closed and is not on disk, it is unregistered, and the name is lost although the
document is still open. There is no other way to lose the name of an open document. -/

namespace PawnScope.Workspace

variable {disk : Disk} {w : Workspace} {u : Location}

/-! ## What events ask of the registry -/

/-- What an event asks of the registry: it registers the files that it indexes or finds, and
unregisters a file that is closed and not on disk. -/
def registryCalls (w : Workspace) (disk : Disk) : Event → List Registry.Call
  | .addFolder _ => []
  | .settings _ => []
  | .opened l _ _ => [.register l]
  | .changed l _ _ => if w.buffers.contains l then [.register l] else []
  | .closed l => if (readText? disk l).isSome then [.register l] else [.unregister l]
  | .scanned found => found.map fun e => .register e.1
  | .indexed l _ => [.register l]
  | .reresolved => []

theorem registry_applyScan (w : Workspace) (disk : Disk) (found : List (Location × Outline)) :
    (w.applyScan disk found).index.registry =
      w.index.registry.applyAll (found.map fun e => .register e.1) := by
  rw [applyScan, (sameSetting_reresolve _ disk).registry, takeIn, foldl_register_eq,
    Registry.applyAll, List.foldl_map]
  rfl

theorem registry_perform (w : Workspace) (disk : Disk) (e : Event) :
    (w.perform disk e).index.registry =
      w.index.registry.applyAll (w.registryCalls disk e) := by
  cases e with
  | addFolder folder => rfl
  | settings settings =>
      rw [perform, applySettings?]
      cases w.index.config.applySettings? settings with
      | none => rfl
      | some config => exact (sameSetting_setConfig w disk config).registry
  | opened l text version => exact (sameSetting_indexText _ disk l text).registry
  | changed l changes version =>
      rw [perform, changeDocument, registryCalls]
      cases hb : w.buffers.get? l with
      | none => simp [Catalog.contains, hb, Registry.applyAll]
      | some b =>
          rw [if_pos (Catalog.contains_iff.mpr ⟨b, hb⟩)]
          exact (sameSetting_indexText _ disk l _).registry
  | closed l =>
      rw [perform, closeDocument, registryCalls]
      cases readText? disk l with
      | none => exact (sameSetting_reresolve _ disk).registry
      | some text => exact (sameSetting_indexText _ disk l text).registry
  | scanned found => exact registry_applyScan w disk found
  | indexed l text => exact (sameSetting_indexText w disk l text).registry
  | reresolved => exact (sameSetting_reresolve w disk).registry

/-- What a history asks of the registry from a workspace on. -/
def registryCallsFrom (w : Workspace) : List (Disk × Event) → List Registry.Call
  | [] => []
  | (disk, e) :: steps =>
      w.registryCalls disk e ++ registryCallsFrom (w.perform disk e) steps

theorem registry_foldl_perform (w : Workspace) (steps : List (Disk × Event)) :
    (steps.foldl (fun w step => w.perform step.1 step.2) w).index.registry =
      w.index.registry.applyAll (w.registryCallsFrom steps) := by
  induction steps generalizing w with
  | nil => rfl
  | cons step steps ih =>
      rw [List.foldl_cons, ih, registry_perform, registryCallsFrom, Registry.applyAll_append]

/-! ## Open documents -/

theorem buffers_perform_of_no_document {e : Event} (he : e.document? = none) :
    (w.perform disk e).buffers = w.buffers := by
  cases e with
  | addFolder folder => rfl
  | settings settings =>
      rw [perform, applySettings?]
      cases w.index.config.applySettings? settings with
      | none => rfl
      | some config => exact buffers_setConfig w disk config
  | scanned found => exact buffers_reresolve _ disk
  | indexed l text => exact buffers_indexText w disk l text
  | reresolved => exact buffers_reresolve w disk
  | opened | changed | closed => cases he

theorem not_open_of_closed (w : Workspace) (disk : Disk) (l : Location) :
    (w.perform disk (.closed l)).buffers.contains l = false := by
  rw [perform, buffers_closeDocument, Catalog.contains_eq_false_iff, Catalog.get?_erase, if_pos rfl]

/-- A document becomes open only by being opened. -/
theorem opened_of_perform {e : Event} (hbefore : w.buffers.contains u = false)
    (hafter : (w.perform disk e).buffers.contains u = true) :
    ∃ text version, e = .opened u text version := by
  have hnone : w.buffers.get? u = none := Catalog.contains_eq_false_iff.mp hbefore
  have hchanged : (w.perform disk e).buffers.get? u ≠ w.buffers.get? u := by
    intro hsame
    rw [Catalog.contains, hsame, hnone] at hafter
    cases hafter
  have hdocument : e.document? = some u := by
    cases he : e.document? with
    | none => exact absurd (congrArg (·.get? u) (buffers_perform_of_no_document he)) hchanged
    | some k =>
        by_contra hne
        exact hchanged (buffers_perform he fun huk => hne (congrArg some huk.symm))
  cases e with
  | opened l text version =>
      obtain rfl := Option.some.inj hdocument
      exact ⟨text, version, rfl⟩
  | changed l changes version =>
      obtain rfl := Option.some.inj hdocument
      rw [perform, changeDocument, hnone] at hchanged
      exact absurd hnone hchanged
  | closed l =>
      obtain rfl := Option.some.inj hdocument
      rw [not_open_of_closed] at hafter
      cases hafter
  | addFolder | settings | scanned | indexed | reresolved => cases hdocument

theorem unregister_notMem_registryCalls {e : Event}
    (h : (w.perform disk e).buffers.contains u = true) :
    .unregister u ∉ w.registryCalls disk e := by
  intro hmem
  cases e with
  | closed l =>
      rw [registryCalls] at hmem
      split at hmem
      · cases List.mem_singleton.mp hmem
      · cases List.mem_singleton.mp hmem
        rw [not_open_of_closed] at h
        cases h
  | changed l changes version =>
      rw [registryCalls] at hmem
      split at hmem
      · cases List.mem_singleton.mp hmem
      · cases hmem
  | opened | indexed => cases List.mem_singleton.mp hmem
  | scanned found =>
      obtain ⟨e, -, he⟩ := List.mem_map.mp hmem
      cases he
  | addFolder | settings | reresolved => cases hmem

/-- A file was registered and has not been unregistered since. -/
def StillRegistered (calls : List Registry.Call) (l : Location) : Prop :=
  ∃ before since, calls = before ++ .register l :: since ∧ .unregister l ∉ since

theorem StillRegistered.append {calls calls' : List Registry.Call} (h : StillRegistered calls u)
    (hcalls : .unregister u ∉ calls') : StillRegistered (calls ++ calls') u := by
  obtain ⟨before, since, rfl, hsince⟩ := h
  refine ⟨before, since ++ calls', by simp, ?_⟩
  rw [List.mem_append]
  rintro (hmem | hmem)
  · exact hsince hmem
  · exact hcalls hmem

/-- One event keeps every open document registered. -/
theorem stillRegistered_perform {calls : List Registry.Call}
    (hcalls : ∀ u, w.buffers.contains u = true → StillRegistered calls u) (e : Event)
    (hu : (w.perform disk e).buffers.contains u = true) :
    StillRegistered (calls ++ w.registryCalls disk e) u := by
  cases hbefore : w.buffers.contains u with
  | true => exact (hcalls u hbefore).append (unregister_notMem_registryCalls hu)
  | false =>
      obtain ⟨text, version, rfl⟩ := opened_of_perform hbefore hu
      exact ⟨calls, [], rfl, by simp⟩

theorem stillRegistered_foldl_perform (calls : List Registry.Call)
    (hcalls : ∀ u, w.buffers.contains u = true → StillRegistered calls u)
    (steps : List (Disk × Event))
    (hu : (steps.foldl (fun w step => w.perform step.1 step.2) w).buffers.contains u = true) :
    StillRegistered (calls ++ w.registryCallsFrom steps) u := by
  induction steps generalizing w calls with
  | nil =>
      rw [registryCallsFrom, List.append_nil]
      exact hcalls u hu
  | cons step steps ih =>
      rw [registryCallsFrom, ← List.append_assoc]
      exact ih _ (fun v hv => stillRegistered_perform hcalls step.2 hv) hu

/-- A file that is still registered was not unregistered after the last registration under its
name. -/
theorem StillRegistered.unregister_notMem {calls since : List Registry.Call} {name : String}
    (h : StillRegistered calls u) (hlast : Registry.LastUnder name calls u since) :
    .unregister u ∉ since := by
  obtain ⟨before, later, rfl, hlater⟩ := h
  obtain ⟨before', hcalls⟩ := hlast.split
  have hsuffix : .register u :: since <:+ before ++ .register u :: later := ⟨before', hcalls.symm⟩
  intro hmem
  rcases List.suffix_or_suffix_of_suffix hsuffix (List.suffix_append _ _) with h | h
  · rcases List.suffix_cons_iff.mp h with heq | hin
    · cases heq
      exact hlater hmem
    · exact hlater (hin.subset (List.mem_cons_of_mem _ hmem))
  · rcases List.suffix_cons_iff.mp h with heq | hin
    · cases heq
      exact hlater hmem
    · -- The file would have been registered after the last registration under its name.
      exact hlast.noneUnder u (hin.subset List.mem_cons_self) hlast.baseName?

/-! ## Names -/

/-- The registry leads a base name to an indexed file that has it. -/
def NameHeld (w : Workspace) (name : String) : Prop :=
  ∃ l, w.index.registry.resolve? name = some l ∧ w.index.tables.contains l = true ∧
    l.baseName? = some name

/-- What a history asks of the registry. -/
def registryCallsOn (steps : List (Disk × Event)) : List Registry.Call :=
  registryCallsFrom {} steps

/-- The base name of an open document is held by an indexed file exactly unless the file that was
registered last under it is another one and has been unregistered since: it was closed while it was
not on disk. -/
theorem nameHeld_iff {steps : List (Disk × Event)} {name : String}
    (hu : (afterOn steps).buffers.contains u = true) (hname : u.baseName? = some name) :
    (afterOn steps).NameHeld name ↔
      ¬∃ l since, l ≠ u ∧ Registry.LastUnder name (registryCallsOn steps) l since ∧
        .unregister l ∈ since := by
  have hregistry : (afterOn steps).index.registry =
      (Registry.mk {}).applyAll (registryCallsOn steps) := registry_foldl_perform {} steps
  have hstill : StillRegistered (registryCallsOn steps) u :=
    stillRegistered_foldl_perform [] (fun v hv => by cases hv) steps hu
  constructor
  · rintro ⟨k, hk, -⟩ ⟨l, since, -, hlast, hsince⟩
    rw [hregistry, hlast.resolve?, if_pos hsince] at hk
    cases hk
  · intro h
    -- The document itself was registered under the name, so there is a last file that was.
    have hunder : ¬Registry.NoneUnder name (registryCallsOn steps) := by
      obtain ⟨before, since, hcalls, -⟩ := hstill
      exact fun hnone => hnone u (by simp [hcalls]) hname
    obtain ⟨l, since, hlast⟩ := Registry.exists_lastUnder hunder
    have hkept : .unregister l ∉ since := by
      by_cases hlu : l = u
      · subst hlu
        exact hstill.unregister_notMem hlast
      · exact fun hsince => h ⟨l, since, hlu, hlast, hsince⟩
    have howner : (afterOn steps).index.registry.resolve? name = some l := by
      rw [hregistry, hlast.resolve?, if_neg hkept]
    obtain ⟨-, hknown⟩ := (consistent_afterOn steps).registered name l howner
    refine ⟨l, howner, ?_, hlast.baseName?⟩
    rwa [(consistent_afterOn steps).contains_tables]

/-- Two headers with one base name are opened. The newer one is closed, and the older one edited. -/
def sharedNameHistory : List (Disk × Event) :=
  [(.blank [], .opened (.ofSegments ["a", "util.inc"]) "int g_A;" none),
    (.blank [], .opened (.ofSegments ["b", "util.inc"]) "int g_B;" none),
    (.blank [], .closed (.ofSegments ["b", "util.inc"])),
    (.blank [], .changed (.ofSegments ["a", "util.inc"]) [⟨none, "int g_C;"⟩] none)]

theorem nameHeld_iff_edited :
    (afterOn sharedNameHistory).buffers.contains (.ofSegments ["a", "util.inc"]) = true ∧
      (Location.ofSegments ["a", "util.inc"]).baseName? = some "util.inc" ∧
      ((afterOn sharedNameHistory).NameHeld "util.inc" ↔
        ¬∃ l since, l ≠ .ofSegments ["a", "util.inc"] ∧
          Registry.LastUnder "util.inc" (registryCallsOn sharedNameHistory) l since ∧
          .unregister l ∈ since) := by
  have hopen : (afterOn sharedNameHistory).buffers.contains (.ofSegments ["a", "util.inc"]) =
      true := by decide +kernel
  have hname : (Location.ofSegments ["a", "util.inc"]).baseName? = some "util.inc" := by
    decide +kernel
  exact ⟨hopen, hname, nameHeld_iff hopen hname⟩

/-- After the newer header is closed and before the older one is edited, no file has the name,
although the older one is open. -/
theorem nameLost_after_closed :
    (afterOn (sharedNameHistory.take 3)).buffers.contains (.ofSegments ["a", "util.inc"]) = true ∧
      (Location.ofSegments ["a", "util.inc"]).baseName? = some "util.inc" ∧
      ¬(afterOn (sharedNameHistory.take 3)).NameHeld "util.inc" := by
  refine ⟨by decide +kernel, by decide +kernel, ?_⟩
  rintro ⟨l, hl, -⟩
  have hnone : (afterOn (sharedNameHistory.take 3)).index.registry.resolve? "util.inc" = none := by
    decide +kernel
  rw [hnone] at hl
  cases hl

end PawnScope.Workspace
