import PawnScope.Proofs.Workspace.ChangingDisk

/-! # Missing includes

A quoted include that is not written `#tryinclude` has to be found. Indexing a file leaves what is
missing in other files as it is, unless all includes are resolved again: when a file is indexed that
was not known, and when one is closed that is not on disk. Then another file misses whatever its
text includes and the new registry and the include directories do not have. -/

namespace PawnScope

/-- An include that must not be missing: it is quoted, and not one that is only tried. -/
def Include.isRequired (i : Include) : Bool := !i.isBuiltin && !i.isTry

namespace Config

/-- An include has to be found and is not, under a registry. -/
def misses (c : Config) (disk : Disk) (registry : Registry) (i : Include) : Bool :=
  i.isRequired &&
    (Reference.resolve disk registry c.includeDirectories i.reference i.isBuiltin).isUnresolved

/-- The includes of a text that have to be found and are not, under a registry. -/
def missingIncludes (c : Config) (disk : Disk) (registry : Registry) (o : Outline) :
    List Include :=
  o.includes.filter (c.misses disk registry)

/-- The implicit include counts as one of the standard library, so that it is never missing. -/
theorem filter_misses_effectiveIncludes (c : Config) (disk : Disk) (registry : Registry)
    (o : Outline) :
    (c.effectiveIncludes o).filter (c.misses disk registry) =
      c.missingIncludes disk registry o := by
  rw [effectiveIncludes, List.filter_append]
  split
  · rfl
  · rfl

end Config

namespace Workspace

variable {disk : Disk} {w w' : Workspace} {l k : Location} {o : Outline}

theorem isRequired_of_mem_unresolved {i : Include} (h : i ∈ w.unresolved l) :
    i.isRequired = true := by
  unfold unresolved at h
  split at h
  · cases h
  · obtain ⟨p, hp, rfl⟩ := List.mem_map.mp h
    exact (Bool.and_eq_true_iff.mp (List.mem_filter.mp hp).2).1

/-! ## What operations do to missing includes -/

theorem Loads.unresolved_eq (h : Loads disk w w') (hl : w.files.contains l = true) :
    w'.unresolved l = w.unresolved l := by
  obtain ⟨f, hf⟩ := Catalog.contains_iff.mp hl
  rw [unresolved, unresolved, hf, (h.known l f hf).1]

theorem unresolved_of_fileOf (h : w'.files.get? l = some (w.fileOf disk o)) :
    w'.unresolved l = w.index.config.missingIncludes disk w.index.registry o := by
  rw [← Config.filter_misses_effectiveIncludes, unresolved, h]
  simp only [fileOf, Index.edgesOf, Index.resolveAll, List.filter_map, List.map_map]
  exact List.map_id _

theorem unresolved_reresolve (h : w.outline? l = some o) :
    (w.reresolve disk).unresolved l =
      w.index.config.missingIncludes disk w.index.registry o := by
  obtain ⟨f, hf, rfl⟩ := Option.map_eq_some_iff.mp h
  have hrebuild : (w.rebuild disk).files.get? l = some (w.fileOf disk f.outline) := by
    rw [get?_rebuild, hf]
    rfl
  exact unresolved_of_fileOf ((loads_loadDependencies _ disk).known l _ hrebuild).1

/-- Indexing a file that was not known renews what is missing elsewhere. -/
theorem unresolved_indexText (hlk : l ≠ k) (h : w.outline? l = some o) (text : String) :
    (w.indexText disk k text).unresolved l =
      if w.files.contains k = true then w.unresolved l
      else w.index.config.missingIncludes disk (w.index.registry.register k) o := by
  have houtline : ({ w with index := w.index.register k }.indexOutline disk k
      (Outline.ofText text)).outline? l = some o := by
    rw [outline?_indexOutline, if_neg (Ne.symm hlk)]
    exact h
  obtain ⟨f, hf, -⟩ := Option.map_eq_some_iff.mp houtline
  have hknown := Catalog.contains_iff.mpr ⟨f, hf⟩
  rw [indexText]
  by_cases hk : w.files.contains k = true
  · rw [if_pos hk, if_neg (by simp [hk]), (loads_loadDependencies _ disk).unresolved_eq hknown]
    rw [unresolved, get?_indexOutline, if_neg (Ne.symm hlk)]
    rfl
  · -- There are two files at least, so that all of them are resolved again.
    have hsize : 1 < ({ w with index := w.index.register k }.indexOutline disk k
        (Outline.ofText text)).files.size := by
      by_contra hsize
      refine hlk (Catalog.eq_of_contains_of_size_le_one (Nat.le_of_not_lt hsize) hknown ?_)
      simp [indexOutline, Catalog.contains_insert]
    rw [if_neg hk, if_pos (by simp [hk, hsize]), unresolved_reresolve houtline]
    rfl

theorem outline?_dropFile (hlk : l ≠ k) : (w.dropFile k).outline? l = w.outline? l := by
  change ((w.files.erase k).get? l).map (·.outline) = _
  rw [Catalog.get?_erase_of_ne _ hlk]
  rfl

/-! ## Events about one document -/

/-- The registry under which all includes are resolved again when a document is opened or closed,
if they are. A file that was not known takes its base name, and one that is not on disk loses it. -/
def renewal? (w : Workspace) (disk : Disk) : Event → Option Registry
  | .opened l _ _ => if w.files.contains l then none else some (w.index.registry.register l)
  | .closed l =>
      if (readText? disk l).isNone then some (w.index.registry.unregister l)
      else if w.files.contains l then none else some (w.index.registry.register l)
  | _ => none

theorem buffers_closeDocument (w : Workspace) (disk : Disk) (l : Location) :
    (w.closeDocument disk l).buffers = w.buffers.erase l := by
  rw [closeDocument]
  cases readText? disk l with
  | none => exact buffers_reresolve _ disk
  | some text => exact buffers_indexText _ disk l text

theorem buffers_perform {e : Event} (he : e.document? = some k) (hlk : l ≠ k) :
    (w.perform disk e).buffers.get? l = w.buffers.get? l := by
  cases e with
  | opened m text version =>
      obtain rfl := Option.some.inj he
      rw [perform, openDocument, buffers_indexText]
      exact Catalog.get?_insert_of_ne _ hlk _
  | changed m changes version =>
      obtain rfl := Option.some.inj he
      rw [perform, changeDocument]
      cases w.buffers.get? m with
      | none => rfl
      | some b =>
          rw [buffers_indexText]
          exact Catalog.get?_insert_of_ne _ hlk _
  | closed m =>
      obtain rfl := Option.some.inj he
      rw [perform, buffers_closeDocument]
      exact Catalog.get?_erase_of_ne _ hlk
  | addFolder | settings | scanned | indexed | reresolved => cases he

/-- What is missing in another document changes only if all includes are resolved again. -/
theorem unresolved_perform (hw : Consistent w) {e : Event} (he : e.document? = some k) (hlk : l ≠ k)
    (ho : w.outline? l = some o) :
    (w.perform disk e).unresolved l =
      match w.renewal? disk e with
      | none => w.unresolved l
      | some registry => w.index.config.missingIncludes disk registry o := by
  have hindex : ∀ buffers text, ({ w with buffers := buffers }.indexText disk k text).unresolved l =
      if w.files.contains k = true then w.unresolved l
      else w.index.config.missingIncludes disk (w.index.registry.register k) o :=
    fun buffers text => unresolved_indexText (w := { w with buffers := buffers }) hlk ho text
  cases e with
  | opened m text version =>
      obtain rfl := Option.some.inj he
      rw [perform, openDocument, hindex, renewal?]
      by_cases hm : w.files.contains m = true
      · simp only [if_pos hm]
      · simp only [if_neg hm]
  | changed m changes version =>
      obtain rfl := Option.some.inj he
      have hnone : w.renewal? disk (.changed m changes version) = none := rfl
      rw [perform, changeDocument, hnone]
      cases hb : w.buffers.get? m with
      | none => rfl
      | some b =>
          have hm := hw.opened m (Catalog.contains_iff.mpr ⟨b, hb⟩)
          exact (hindex _ _).trans (if_pos hm)
  | closed m =>
      obtain rfl := Option.some.inj he
      rw [perform, closeDocument, renewal?]
      cases readText? disk m with
      | none => exact unresolved_reresolve ((outline?_dropFile hlk).trans ho)
      | some text =>
          refine (hindex _ text).trans ?_
          by_cases hm : w.files.contains m = true
          · simp [hm]
          · simp [hm]
  | addFolder | settings | scanned | indexed | reresolved => cases he

/-- An event opens or closes one document, and in another open document other includes are missing
afterwards than before. -/
def Overlooks (w : Workspace) (disk : Disk) (e : Event) : Prop :=
  ∃ k registry, e.document? = some k ∧ w.renewal? disk e = some registry ∧
    ∃ l b, l ≠ k ∧ w.buffers.get? l = some b ∧
      w.index.config.missingIncludes disk registry (Outline.ofText b.text) ≠ w.unresolved l

theorem not_overlooks_iff (hw : Consistent w) (hindexed : BuffersIndexed w) {e : Event}
    (he : e.document? = some k) :
    ¬w.Overlooks disk e ↔ ∀ l, l ≠ k → w.buffers.contains l = true →
      (w.perform disk e).unresolved l = w.unresolved l := by
  constructor
  · intro h l hlk hopen
    obtain ⟨b, hb⟩ := Catalog.contains_iff.mp hopen
    rw [unresolved_perform hw he hlk (hindexed l b hb)]
    cases hregistry : w.renewal? disk e with
    | none => rfl
    | some registry =>
        by_contra hne
        exact h ⟨k, registry, he, hregistry, l, b, hlk, hb, hne⟩
  · rintro h ⟨m, registry, hm, hregistry, l, b, hlm, hb, hne⟩
    obtain rfl := Option.some.inj (he.symm.trans hm)
    have hsame := h l hlm (Catalog.contains_iff.mpr ⟨b, hb⟩)
    rw [unresolved_perform hw he hlm (hindexed l b hb), hregistry] at hsame
    exact hne hsame

end Workspace

end PawnScope
