import PawnScope.Proofs.Workspace.Loading
import Mathlib.Data.List.Induction

/-! # Histories of a workspace

A workspace comes about by events, one after another, from the empty workspace. Whatever happens,
it stays consistent: there is a table for each known file and for no other, open documents and
registered files are known, and the directives of a file are those that its outline has under the
current configuration. -/

namespace PawnScope

/-- What can happen to a workspace. -/
inductive Event where
  | addFolder (folder : Location)
  | settings (settings : Json)
  | opened (l : Location) (text : String) (version : Option Int)
  | changed (l : Location) (changes : List Change) (version : Option Int)
  | closed (l : Location)
  | scanned (found : List (Location × Outline))
  | indexed (l : Location) (text : String)
  | reresolved

/-- The document that an event opens, changes or closes. -/
def Event.document? : Event → Option Location
  | .opened l _ _ => some l
  | .changed l _ _ => some l
  | .closed l => some l
  | _ => none

namespace Workspace

/-- The workspace after an event. Settings that are not usable change nothing. -/
def perform (w : Workspace) (disk : Disk) : Event → Workspace
  | .addFolder folder => w.addFolder folder
  | .settings settings => (w.applySettings? disk settings).getD w
  | .opened l text version => w.openDocument disk l text version
  | .changed l changes version => w.changeDocument disk l changes version
  | .closed l => w.closeDocument disk l
  | .scanned found => w.applyScan disk found
  | .indexed l text => w.indexText disk l text
  | .reresolved => w.reresolve disk

/-- The workspace after some events on a disk that does not change. -/
def after (disk : Disk) (events : List Event) : Workspace :=
  events.foldl (·.perform disk ·) {}

theorem after_concat (disk : Disk) (events : List Event) (e : Event) :
    after disk (events ++ [e]) = (after disk events).perform disk e := by
  simp [after]

/-- What holds of the empty workspace and is kept by every event holds after any events. -/
theorem after_induction {disk : Disk} {motive : Workspace → Prop} (events : List Event)
    (empty : motive {})
    (step : ∀ w, ∀ e ∈ events, motive w → motive (w.perform disk e)) :
    motive (after disk events) := by
  induction events using List.reverseRecOn with
  | nil => exact empty
  | append_singleton events e ih =>
      rw [after_concat]
      apply step _ e (by simp)
      exact ih fun w e he => step w e (List.mem_append_left _ he)

/-! ## Consistency -/

/-- What registration and open documents demand of the known files, and that only these have
tables. -/
structure Grounded (w : Workspace) : Prop where
  opened : ∀ l, w.buffers.contains l = true → w.files.contains l = true
  registered : ∀ name l, w.index.registry.resolve? name = some l →
    l.baseName? = some name ∧ w.files.contains l = true
  tables : ∀ l, w.files.get? l = none → w.index.table? l = none

/-- The index is in step with the known files. -/
structure Consistent (w : Workspace) : Prop extends Grounded w where
  table? : ∀ l f, w.files.get? l = some f → w.index.table? l = some (f.table l)
  includes : ∀ l f, w.files.get? l = some f →
    f.edges.map (·.1) = w.index.config.effectiveIncludes f.outline

theorem Grounded.contains_buffers_of_unknown {w : Workspace} (h : Grounded w) {l : Location}
    (hl : w.files.contains l = false) : w.buffers.contains l = false := by
  rw [Bool.eq_false_iff]
  intro hopen
  rw [h.opened l hopen] at hl
  cases hl

theorem Grounded.withConfig {w : Workspace} (h : Grounded w) (config : Config) :
    Grounded { w with index := { w.index with config := config } } where
  opened := h.opened
  registered := h.registered
  tables := h.tables

/-- A table belongs to a known file. -/
theorem Consistent.exists_of_table? {w : Workspace} (h : Consistent w) {l : Location}
    {t : SymbolTable} (ht : w.index.table? l = some t) :
    ∃ f, w.files.get? l = some f ∧ t = f.table l := by
  cases hf : w.files.get? l with
  | none =>
      rw [h.tables l hf] at ht
      cases ht
  | some f =>
      rw [h.table? l f hf] at ht
      exact ⟨f, rfl, (Option.some.inj ht).symm⟩

theorem Consistent.contains_tables {w : Workspace} (h : Consistent w) (l : Location) :
    w.index.tables.contains l = w.files.contains l := by
  cases hf : w.files.get? l with
  | none =>
      rw [Catalog.contains_eq_false_iff.mpr hf]
      exact Catalog.contains_eq_false_iff.mpr (h.tables l hf)
  | some f =>
      rw [Catalog.contains_iff.mpr ⟨f, hf⟩]
      exact Catalog.contains_iff.mpr ⟨f.table l, h.table? l f hf⟩

theorem includes_fileOf (w : Workspace) (disk : Disk) (o : Outline) :
    (w.fileOf disk o).edges.map (·.1) = w.index.config.effectiveIncludes o := by
  simp [fileOf, Index.edgesOf, Index.resolveAll, Function.comp_def]

theorem consistent_empty : Consistent {} where
  opened l h := by cases h
  registered name l h := by cases h
  tables l _ := rfl
  table? l f h := by cases h
  includes l f h := by cases h

theorem Grounded.rebuild {w : Workspace} (h : Grounded w) (disk : Disk) :
    Consistent (w.rebuild disk) := by
  have hsame := sameSetting_rebuild w disk
  have hknown : ∀ l, (w.rebuild disk).files.contains l = w.files.contains l := by
    intro l
    simp [Catalog.contains, get?_rebuild]
  refine ⟨⟨?_, ?_, ?_⟩, ?_, ?_⟩
  · intro l hl
    rw [hsame.buffers] at hl
    rw [hknown]
    exact h.opened l hl
  · intro name l hl
    rw [hsame.registry] at hl
    rw [hknown]
    exact h.registered name l hl
  · intro l hl
    rw [get?_rebuild, Option.map_eq_none_iff] at hl
    rw [table?_rebuild_of_unknown hl]
    exact h.tables l hl
  · intro l f hf
    rw [get?_rebuild, Option.map_eq_some_iff] at hf
    obtain ⟨f, hf, rfl⟩ := hf
    exact table?_rebuild_of_known hf
  · intro l f hf
    rw [get?_rebuild, Option.map_eq_some_iff] at hf
    obtain ⟨f, hf, rfl⟩ := hf
    rw [includes_fileOf, hsame.config]
    rfl

theorem Loads.consistent {disk : Disk} {w w' : Workspace} (h : Loads disk w w')
    (hw : Consistent w) : Consistent w' := by
  refine ⟨⟨?_, ?_, ?_⟩, ?_, ?_⟩
  · intro l hl
    rw [h.buffers] at hl
    exact h.contains (hw.opened l hl)
  · intro name l hl
    rw [h.registry] at hl
    exact (hw.registered name l hl).imp_right h.contains
  · intro l hl
    rw [h.unknown l hl]
    apply hw.tables
    cases hf : w.files.get? l with
    | none => rfl
    | some f =>
        rw [(h.known l f hf).1] at hl
        cases hl
  · intro l f hf
    exact h.table? hw.table? hf
  · intro l f hf
    rw [h.config]
    rcases h.known_or_loaded hf with ⟨hold, -⟩ | ⟨-, text, -, rfl, -⟩
    · exact hw.includes l f hold
    · exact includes_fileOf w disk _

theorem Consistent.loadDependencies {w : Workspace} (h : Consistent w) (disk : Disk) :
    Consistent (w.loadDependencies disk) :=
  (loads_loadDependencies w disk).consistent h

theorem Grounded.reresolve {w : Workspace} (h : Grounded w) (disk : Disk) :
    Consistent (w.reresolve disk) :=
  (h.rebuild disk).loadDependencies disk

theorem Consistent.register_indexOutline {w : Workspace} (h : Consistent w) (disk : Disk)
    (l : Location) (o : Outline) {buffers : Catalog Location Buffer}
    (hothers : ∀ k, k ≠ l → buffers.get? k = w.buffers.get? k) :
    Consistent ({ w with buffers := buffers, index := w.index.register l }.indexOutline
      disk l o) := by
  have hknown : ∀ k, k = l ∨ w.files.contains k = true →
      (w.files.insert l (fileOf { w with index := w.index.register l } disk o)).contains k =
        true := by
    intro k hk
    rw [Catalog.contains_insert, Bool.or_eq_true, decide_eq_true_eq]
    exact hk.imp_left Eq.symm
  refine ⟨⟨?_, ?_, ?_⟩, ?_, ?_⟩
  · intro k hk
    apply hknown k
    by_cases hkl : k = l
    · exact Or.inl hkl
    · change buffers.contains k = true at hk
      rw [Catalog.contains, hothers k hkl] at hk
      exact Or.inr (h.opened k hk)
  · intro name k hk
    change (w.index.registry.register l).resolve? name = some k at hk
    rw [Registry.resolve?_register] at hk
    by_cases hname : l.baseName? = some name
    · rw [if_pos hname] at hk
      obtain rfl := Option.some.inj hk
      exact ⟨hname, hknown l (Or.inl rfl)⟩
    · rw [if_neg hname] at hk
      exact (h.registered name k hk).imp_right fun hk => hknown k (Or.inr hk)
  · intro k hk
    rw [get?_indexOutline] at hk
    rw [table?_indexOutline]
    by_cases hlk : l = k
    · rw [if_pos hlk] at hk
      cases hk
    · rw [if_neg hlk] at hk ⊢
      exact h.tables k hk
  · intro k f hf
    rw [get?_indexOutline] at hf
    rw [table?_indexOutline]
    by_cases hlk : l = k
    · rw [if_pos hlk] at hf ⊢
      obtain rfl := Option.some.inj hf
      rw [hlk]
    · rw [if_neg hlk] at hf ⊢
      exact h.table? k f hf
  · intro k f hf
    rw [get?_indexOutline] at hf
    by_cases hlk : l = k
    · rw [if_pos hlk] at hf
      obtain rfl := Option.some.inj hf
      exact includes_fileOf _ disk o
    · rw [if_neg hlk] at hf
      exact h.includes k f hf

/-- Indexing a text keeps a workspace consistent, also when it opens or closes the document. -/
theorem Consistent.indexText {w : Workspace} (h : Consistent w) (disk : Disk) (l : Location)
    (text : String) {buffers : Catalog Location Buffer}
    (hothers : ∀ k, k ≠ l → buffers.get? k = w.buffers.get? k) :
    Consistent ({ w with buffers := buffers }.indexText disk l text) := by
  have hindexed := h.register_indexOutline disk l (Outline.ofText text) hothers
  rw [Workspace.indexText]
  split
  · exact hindexed.toGrounded.reresolve disk
  · exact hindexed.loadDependencies disk

theorem Consistent.addFolder {w : Workspace} (h : Consistent w) (folder : Location) :
    Consistent (w.addFolder folder) where
  opened := h.opened
  registered := h.registered
  tables := h.tables
  table? := h.table?
  includes := h.includes

theorem effectiveIncludes_eq_of_includesDiffer {c d : Config} (h : c.includesDiffer d = false)
    (o : Outline) : d.effectiveIncludes o = c.effectiveIncludes o := by
  have himplicit : c.implicitSourcemod = d.implicitSourcemod := by
    simp [Config.includesDiffer] at h
    exact h.2
  rw [Config.effectiveIncludes, Config.effectiveIncludes, himplicit]

theorem Consistent.setConfig {w : Workspace} (h : Consistent w) (disk : Disk) (config : Config) :
    Consistent (w.setConfig disk config) := by
  have hgrounded := h.toGrounded.withConfig config
  rw [Workspace.setConfig]
  split
  · exact hgrounded.reresolve disk
  · rename_i hdiffer
    have hsame := Bool.eq_false_iff.mpr hdiffer
    apply Consistent.loadDependencies
    refine ⟨hgrounded, h.table?, ?_⟩
    intro l f hf
    rw [h.includes l f hf]
    exact (effectiveIncludes_eq_of_includesDiffer hsame f.outline).symm

theorem Consistent.dropFile {w : Workspace} (h : Consistent w) (l : Location) :
    Grounded ({ w with buffers := w.buffers.erase l }.dropFile l) := by
  have hknown : ∀ k, k ≠ l → w.files.contains k = true → (w.files.erase l).contains k = true := by
    intro k hk hfile
    rwa [Catalog.contains, Catalog.get?_erase, if_neg (Ne.symm hk)]
  refine ⟨?_, ?_, ?_⟩
  · intro k hk
    change (w.buffers.erase l).contains k = true at hk
    rw [Catalog.contains, Catalog.get?_erase] at hk
    by_cases hlk : l = k
    · rw [if_pos hlk] at hk
      cases hk
    · rw [if_neg hlk] at hk
      exact hknown k (Ne.symm hlk) (h.opened k hk)
  · intro name k hk
    change (w.index.registry.unregister l).resolve? name = some k at hk
    rw [Registry.resolve?_unregister] at hk
    split at hk
    · cases hk
    · rename_i hother
      obtain ⟨hname, hfile⟩ := h.registered name k hk
      refine ⟨hname, hknown k ?_ hfile⟩
      rintro rfl
      exact hother ⟨hname, hk⟩
  · intro k hk
    change (w.files.erase l).get? k = none at hk
    change (w.index.tables.erase l).get? k = none
    rw [Catalog.get?_erase] at hk ⊢
    by_cases hlk : l = k
    · rw [if_pos hlk]
    · rw [if_neg hlk] at hk ⊢
      exact h.tables k hk

/-! ## Scans -/

theorem foldl_register_eq (found : List (Location × Outline)) (x : Index) :
    found.foldl (fun x e => Index.register x e.1) x =
      { x with registry := found.foldl (fun r e => r.register e.1) x.registry } := by
  induction found generalizing x with
  | nil => rfl
  | cons e found ih => exact ih (x.register e.1)

theorem resolve?_foldl_register {found : List (Location × Outline)} {r : Registry} {name : String}
    {l : Location} (h : (found.foldl (fun r e => r.register e.1) r).resolve? name = some l) :
    r.resolve? name = some l ∨ (l.baseName? = some name ∧ ∃ e ∈ found, e.1 = l) := by
  induction found generalizing r with
  | nil => exact Or.inl h
  | cons e found ih =>
      rcases ih h with hr | ⟨hname, d, hd, hdl⟩
      · rw [Registry.resolve?_register] at hr
        by_cases hname : e.1.baseName? = some name
        · rw [if_pos hname] at hr
          obtain rfl := Option.some.inj hr
          exact Or.inr ⟨hname, e, List.mem_cons_self, rfl⟩
        · rw [if_neg hname] at hr
          exact Or.inl hr
      · exact Or.inr ⟨hname, d, List.mem_cons_of_mem e hd, hdl⟩

theorem Consistent.takeIn {w : Workspace} (h : Consistent w)
    (found : List (Location × Outline)) : Grounded (w.takeIn found) := by
  have hknown : ∀ k, w.files.contains k = true → (w.takeIn found).files.contains k = true :=
    fun k hk => Catalog.contains_foldl_insert.mpr (Or.inl hk)
  -- A scanned file that is open is known for being open.
  have hfound : ∀ e ∈ found, (w.takeIn found).files.contains e.1 = true := by
    intro e he
    by_cases hopen : w.buffers.contains e.1 = true
    · exact hknown e.1 (h.opened e.1 hopen)
    · exact Catalog.contains_foldl_insert.mpr (Or.inr ⟨e, by simp [he, hopen], rfl⟩)
  have hindex : (w.takeIn found).index = _ := foldl_register_eq found w.index
  refine ⟨fun k hk => hknown k (h.opened k hk), ?_, ?_⟩
  · intro name l hl
    rw [hindex] at hl
    rcases resolve?_foldl_register hl with hl | ⟨hname, e, he, rfl⟩
    · exact (h.registered name l hl).imp_right (hknown l)
    · exact ⟨hname, hfound e he⟩
  · intro k hk
    rw [hindex]
    apply h.tables k
    cases hf : w.files.get? k with
    | none => rfl
    | some f =>
        obtain ⟨f', hf'⟩ := Catalog.contains_iff.mp (hknown k (Catalog.contains_iff.mpr ⟨f, hf⟩))
        rw [hk] at hf'
        cases hf'

/-! ## Events -/

theorem Consistent.perform {w : Workspace} (h : Consistent w) (disk : Disk) (e : Event) :
    Consistent (w.perform disk e) := by
  cases e with
  | addFolder folder => exact h.addFolder folder
  | settings settings =>
      rw [Workspace.perform, applySettings?]
      cases w.index.config.applySettings? settings with
      | none => exact h
      | some config => exact h.setConfig disk config
  | opened l text version =>
      apply h.indexText disk l text
      exact fun k hk => Catalog.get?_insert_of_ne _ hk _
  | changed l changes version =>
      rw [Workspace.perform, changeDocument]
      cases w.buffers.get? l with
      | none => exact h
      | some b =>
          apply h.indexText disk l
          exact fun k hk => Catalog.get?_insert_of_ne _ hk _
  | closed l =>
      rw [Workspace.perform, closeDocument]
      cases readText? disk l with
      | none => exact (h.dropFile l).reresolve disk
      | some text =>
          apply h.indexText disk l text
          exact fun k hk => Catalog.get?_erase_of_ne _ hk
  | scanned found => exact (h.takeIn found).reresolve disk
  | indexed l text => exact h.indexText disk l text fun k _ => rfl
  | reresolved => exact h.toGrounded.reresolve disk

theorem consistent_after (disk : Disk) (events : List Event) : Consistent (after disk events) :=
  after_induction events consistent_empty fun _ e _ h => h.perform disk e

end Workspace

end PawnScope
