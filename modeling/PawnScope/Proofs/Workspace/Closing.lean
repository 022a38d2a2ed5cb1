import PawnScope.Proofs.Workspace.Freshness
import PawnScope.Proofs.Workspace.MissingIncludes

/-! # Closing a document that is not on disk

Such a document is dropped from the files, the tables and the registry. Then all includes are
resolved again, which makes no file known, and files are loaded that they want, which makes only
those known that can be read. So neither brings the document back, although an include or the main
path may still lead to it, and consistency does the rest: a file that is not known is not open and
has neither a table nor a name. -/

namespace PawnScope.Workspace

variable {disk : Disk} {w : Workspace} {l k : Location} {o : Outline}

/-! ## No trace -/

/-- A location is neither open nor known, and has neither a table nor a name. -/
structure Traceless (w : Workspace) (l : Location) : Prop where
  buffers : w.buffers.contains l = false
  files : w.files.contains l = false
  tables : w.index.tables.contains l = false
  names : ∀ name, w.index.registry.resolve? name ≠ some l

theorem Consistent.traceless (h : Consistent w) (hl : w.files.contains l = false) :
    Traceless w l where
  buffers := h.contains_buffers_of_unknown hl
  files := hl
  tables := (h.contains_tables l).trans hl
  names := by
    intro name hname
    rw [(h.registered name l hname).2] at hl
    cases hl

/-- Resolving all includes again makes only files known that are read from disk. -/
theorem readText?_of_outline?_reresolve (hk : w.outline? k = none)
    (ho : (w.reresolve disk).outline? k = some o) :
    ∃ text, readText? disk k = some text ∧ o = Outline.ofText text := by
  obtain ⟨f, hf, rfl⟩ := Option.map_eq_some_iff.mp ho
  have hrebuild : (w.rebuild disk).files.get? k = none := by
    rw [← outline?_rebuild w disk] at hk
    exact Option.map_eq_none_iff.mp hk
  obtain ⟨text, htext, rfl, -⟩ := (loads_loadDependencies _ disk).loaded k f hrebuild hf
  exact ⟨text, htext, rfl⟩

theorem contains_reresolve_of_unreadable (hl : w.outline? l = none)
    (hdisk : readText? disk l = none) : (w.reresolve disk).files.contains l = false := by
  rw [Catalog.contains_eq_false_iff]
  cases hf : (w.reresolve disk).files.get? l with
  | none => rfl
  | some f =>
      have ho : (w.reresolve disk).outline? l = some f.outline := by simp [outline?, hf]
      obtain ⟨text, htext, -⟩ := readText?_of_outline?_reresolve hl ho
      rw [hdisk] at htext
      cases htext

/-! ## Names -/

/-- In a consistent workspace a location loses the names that it has, and no other file does. -/
theorem Consistent.resolve?_unregister (h : Consistent w) (l : Location) (name : String) :
    (w.index.registry.unregister l).resolve? name =
      if w.index.registry.resolve? name = some l then none
      else w.index.registry.resolve? name := by
  rw [Registry.resolve?_unregister]
  congr 1
  rw [eq_iff_iff, and_iff_right_iff_imp]
  exact fun hname => (h.registered name l hname).1

/-! ## Closing -/

/-- All else is as it was before a location was forgotten: other documents with their texts,
versions and revisions, the outlines of other files, the names that other files have, and the
configuration. What is known only now was read from disk. -/
structure Forgets (disk : Disk) (l : Location) (w w' : Workspace) : Prop where
  buffers : ∀ k, k ≠ l → w'.buffers.get? k = w.buffers.get? k
  outlines : ∀ k o, k ≠ l → w.outline? k = some o → w'.outline? k = some o
  loaded : ∀ k o, w.outline? k = none → w'.outline? k = some o →
    ∃ text, readText? disk k = some text ∧ o = Outline.ofText text
  names : ∀ name, w'.index.registry.resolve? name =
    if w.index.registry.resolve? name = some l then none else w.index.registry.resolve? name
  config : w'.index.config = w.index.config

theorem closeDocument_of_unreadable (w : Workspace) (hdisk : readText? disk l = none) :
    w.closeDocument disk l =
      ({ w with buffers := w.buffers.erase l }.dropFile l).reresolve disk := by
  rw [closeDocument, hdisk]

theorem outline?_dropFile_self (w : Workspace) (l : Location) :
    (w.dropFile l).outline? l = none := by
  change ((w.files.erase l).get? l).map (·.outline) = none
  rw [Catalog.get?_erase, if_pos rfl]
  rfl

theorem Consistent.forgets_closeDocument (h : Consistent w) (hdisk : readText? disk l = none) :
    Forgets disk l w (w.closeDocument disk l) := by
  have hclose := closeDocument_of_unreadable w hdisk
  have hsame := sameSetting_reresolve ({ w with buffers := w.buffers.erase l }.dropFile l) disk
  rw [← hclose] at hsame
  refine ⟨?_, ?_, ?_, ?_, hsame.config⟩
  · intro k hk
    rw [buffers_closeDocument]
    exact Catalog.get?_erase_of_ne _ hk
  · intro k o hk ho
    rw [hclose]
    exact outline?_reresolve ((outline?_dropFile hk).trans ho)
  · intro k o hk ho
    rw [hclose] at ho
    refine readText?_of_outline?_reresolve ?_ ho
    by_cases hkl : k = l
    · rw [hkl]
      exact outline?_dropFile_self _ l
    · exact (outline?_dropFile hkl).trans hk
  · intro name
    rw [hsame.registry]
    exact h.resolve?_unregister l name

/-- Closing a document that cannot be read from disk leaves no trace of it and all else as it was,
and every known file has the edges, and the table, that its includes make under the registry
without the document. -/
theorem Consistent.closeDocument_unsaved (h : Consistent w) (hdisk : readText? disk l = none) :
    Traceless (w.closeDocument disk l) l ∧ Forgets disk l w (w.closeDocument disk l) ∧
      ∀ k f, (w.closeDocument disk l).files.get? k = some f →
        f.edges = (w.index.config.effectiveIncludes f.outline).map (fun i =>
          (i, Reference.resolve disk (w.index.registry.unregister l)
            w.index.config.includeDirectories i.reference i.isBuiltin)) ∧
        (w.closeDocument disk l).index.table? k = some (f.table k) := by
  have hclose := closeDocument_of_unreadable w hdisk
  have hconsistent : Consistent (w.closeDocument disk l) := by
    rw [hclose]
    exact (h.dropFile l).reresolve disk
  refine ⟨?_, h.forgets_closeDocument hdisk, ?_⟩
  · apply hconsistent.traceless
    rw [hclose]
    exact contains_reresolve_of_unreadable (outline?_dropFile_self _ l) hdisk
  · intro k f hf
    refine ⟨?_, hconsistent.table? k f hf⟩
    rw [hclose] at hf
    have hfresh := fresh_reresolve _ disk k f hf
    exact hfresh.trans ((sameSetting_reresolve _ disk).edgesOf_eq disk f.outline)

/-- Two headers with one base name are opened, and a file that includes this name. -/
def includedHistory : List Event :=
  [.opened (.ofSegments ["a", "util.inc"]) "int g_A;" none,
    .opened (.ofSegments ["b", "util.inc"]) "int g_B;" none,
    .opened (.ofSegments ["plugin.sp"]) "#include \"util\"" none]

/-- The newer header has the name and is closed. The older one stays open and known, and nobody has
the name. -/
theorem Consistent.closeDocument_unsaved_util :
    let w := after (.blank []) includedHistory
    let w' := w.closeDocument (.blank []) (.ofSegments ["b", "util.inc"])
    Consistent w ∧ readText? (.blank []) (.ofSegments ["b", "util.inc"]) = none ∧
      w.index.registry.resolve? "util.inc" = some (.ofSegments ["b", "util.inc"]) ∧
      Traceless w' (.ofSegments ["b", "util.inc"]) ∧
      w'.index.registry.resolve? "util.inc" = none ∧
      w'.outline? (.ofSegments ["a", "util.inc"]) = some (Outline.ofText "int g_A;") := by
  have hconsistent := consistent_after (.blank []) includedHistory
  have hdisk : readText? (.blank []) (.ofSegments ["b", "util.inc"]) = none := by decide +kernel
  have howner : (after (.blank []) includedHistory).index.registry.resolve? "util.inc" =
      some (.ofSegments ["b", "util.inc"]) := by decide +kernel
  have houtline : (after (.blank []) includedHistory).outline? (.ofSegments ["a", "util.inc"]) =
      some (Outline.ofText "int g_A;") := by decide +kernel
  obtain ⟨htrace, hforgets, -⟩ := hconsistent.closeDocument_unsaved hdisk
  refine ⟨hconsistent, hdisk, howner, htrace, ?_, ?_⟩
  · rw [hforgets.names, if_pos howner]
  · exact hforgets.outlines _ _ (by decide) houtline

end PawnScope.Workspace
