import PawnScope.Proofs.Location.FilePath
import PawnScope.Proofs.Workspace.History
import PawnScope.Workspace.Scan

/-! # Current outlines

The current text of a file is that of the open document, else that on disk. Whatever has happened,
the outline of every known file is that of its current text: opening and changing a document
indexes its new text, closing it brings the text on disk back or forgets the file, and folders and
includes bring in only files that are not open, with their texts on disk. -/

namespace PawnScope

/-! ## Scanned files -/

theorem Path.getLast?_steps_of_fileName? {p : Path} {n : FileName} (h : p.fileName? = some n) :
    p.steps.getLast? = some n := by
  have hlast : p.components.getLast? = some (.name n) := by
    unfold fileName? at h
    split at h
    · rename_i m hm
      rw [hm, Option.some.inj h]
    · cases h
  rw [components_eq, List.getLast?_append, List.getLast?_map] at hlast
  cases hs : p.steps.getLast? with
  | some s =>
      have hstep : Component.ofStep s = .name n := by simpa [hs] using hlast
      unfold Component.ofStep at hstep
      split at hstep
      · cases hstep
      · cases hstep
        rfl
  | none =>
      -- What starts a path is no name.
      exfalso
      have hstart : p.start.getLast? = some (.name n) := by simpa [hs] using hlast
      unfold start at hstart
      split at hstart
      · cases hstart
      · split at hstart
        · cases hstart
        · cases hstart

/-- The path of a source file does not end like a drive. -/
theorem Path.exists_getLast?_of_isSource {p : Path} (h : p.isSource = true) :
    ∃ n b, p.steps.getLast? = some (n ++ [b]) ∧ b ≠ 58 ∧ b ≠ 124 := by
  unfold isSource at h
  split at h
  · rename_i extension hext
    obtain ⟨n, hname, -⟩ := Option.bind_eq_some_iff.mp hext
    obtain ⟨-, stem, -, hn⟩ := (extension?_eq_some_iff hname).mp hext
    have hmark : ∀ b, lowerOctet b = 112 ∨ lowerOctet b = 99 → b ≠ 58 ∧ b ≠ 124 := by
      intro b hb
      constructor
      · rintro rfl
        exact absurd hb (by decide)
      · rintro rfl
        exact absurd hb (by decide)
    have hlast : ∃ b, extension.getLast? = some b ∧ (lowerOctet b = 112 ∨ lowerOctet b = 99) := by
      rw [Bool.or_eq_true, decide_eq_true_eq, decide_eq_true_eq] at h
      rcases h with h | h
      · have hend : (extension.map lowerOctet).getLast? = some 112 := by rw [h]; rfl
        rw [List.getLast?_map, Option.map_eq_some_iff] at hend
        obtain ⟨b, hb, hlower⟩ := hend
        exact ⟨b, hb, Or.inl hlower⟩
      · have hend : (extension.map lowerOctet).getLast? = some 99 := by rw [h]; rfl
        rw [List.getLast?_map, Option.map_eq_some_iff] at hend
        obtain ⟨b, hb, hlower⟩ := hend
        exact ⟨b, hb, Or.inr hlower⟩
    obtain ⟨b, hb, hlower⟩ := hlast
    obtain ⟨front, rfl⟩ := List.getLast?_eq_some_iff.mp hb
    refine ⟨stem ++ 46 :: front, b, ?_, hmark b hlower⟩
    rw [getLast?_steps_of_fileName? hname, hn, List.append_assoc, List.cons_append]
  · cases h

namespace Workspace

variable {disk : Disk}

/-- What a scan finds is a source file that can be read, at the location of its path. -/
theorem exists_of_mem_scanFolder {folder : Location} {e : Location × Outline}
    (h : e ∈ scanFolder disk folder) :
    ∃ p text, disk.readText? p = some text ∧ Location.ofPath? p = some e.1 ∧ p.isSource = true ∧
      e.2 = Outline.ofText text := by
  have hscan : ∃ p, scanFile? disk p = some e := by
    unfold scanFolder at h
    split at h
    · cases h
    · rw [List.mem_mergeSort, List.mem_filterMap] at h
      obtain ⟨p, -, hp⟩ := h
      exact ⟨p, hp⟩
  obtain ⟨p, hp⟩ := hscan
  obtain ⟨text, htext, hp⟩ := Option.bind_eq_some_iff.mp hp
  obtain ⟨l, hl, hp⟩ := Option.bind_eq_some_iff.mp hp
  split at hp
  · rename_i hsource
    obtain rfl := Option.some.inj hp
    exact ⟨p, text, htext, hl, hsource, rfl⟩
  · cases hp

/-- What a scan finds at a location is the outline of the text at that location. -/
theorem readText?_of_mem_scanFolder {folder : Location} {e : Location × Outline}
    (h : e ∈ scanFolder disk folder) :
    ∃ text, readText? disk e.1 = some text ∧ e.2 = Outline.ofText text := by
  obtain ⟨p, text, htext, hl, hsource, houtline⟩ := exists_of_mem_scanFolder h
  obtain ⟨n, b, hlast, hcolon, hbar⟩ := Path.exists_getLast?_of_isSource hsource
  obtain ⟨q, hq, hpabs, hqabs, hpieces⟩ :=
    Location.exists_filePath?_of_ofPath? hl hlast hcolon hbar
  refine ⟨text, ?_, houtline⟩
  rw [readText?, hq, Option.bind_some, Disk.readText?_eq_some_iff]
  exact Disk.find?_of_pieces hpabs hqabs hpieces (Disk.readText?_eq_some_iff.mp htext)

/-! ## Texts -/

/-- The text of a file now: that of the open document, else that on disk. -/
def currentText? (w : Workspace) (disk : Disk) (l : Location) : Option String :=
  ((w.buffers.get? l).map (·.text)).or (readText? disk l)

/-- The outline of every known file is that of its current text. -/
def Current (disk : Disk) (w : Workspace) : Prop :=
  ∀ l f, w.files.get? l = some f →
    ∃ text, w.currentText? disk l = some text ∧ f.outline = Outline.ofText text

theorem current_empty (disk : Disk) : Current disk {} := by
  intro l f h
  cases h

theorem currentText?_of_closed {w : Workspace} {l : Location} (h : w.buffers.contains l = false) :
    w.currentText? disk l = readText? disk l := by
  rw [currentText?, Catalog.contains_eq_false_iff.mp h]
  rfl

theorem Grounded.currentText?_of_unknown {w : Workspace} (h : Grounded w) {l : Location}
    (hl : w.files.contains l = false) : w.currentText? disk l = readText? disk l :=
  currentText?_of_closed (h.contains_buffers_of_unknown hl)

/-! ## Operations -/

theorem Current.rebuild {w : Workspace} (h : Current disk w) : Current disk (w.rebuild disk) := by
  intro l f hf
  rw [get?_rebuild, Option.map_eq_some_iff] at hf
  obtain ⟨f, hf, rfl⟩ := hf
  rw [currentText?, (sameSetting_rebuild w disk).buffers]
  exact h l f hf

/-- A file that is loaded was not known, so it is not open. -/
theorem Loads.current {w w' : Workspace} (hw : Loads disk w w') (hgrounded : Grounded w)
    (h : Current disk w) : Current disk w' := by
  intro l f hf
  rw [currentText?, hw.buffers, ← currentText?]
  rcases hw.known_or_loaded hf with ⟨hold, -⟩ | ⟨hold, text, htext, rfl, -⟩
  · exact h l f hold
  · have hclosed : w.currentText? disk l = readText? disk l :=
      hgrounded.currentText?_of_unknown (Catalog.contains_eq_false_iff.mpr hold)
    exact ⟨text, hclosed.trans htext, rfl⟩

theorem Current.reresolve {w : Workspace} (h : Current disk w) (hgrounded : Grounded w) :
    Current disk (w.reresolve disk) :=
  (loads_loadDependencies (w.rebuild disk) disk).current (hgrounded.rebuild disk).toGrounded
    h.rebuild

/-- Indexing the current text of a file, also when only the document of this file is opened,
changed or closed. -/
theorem Current.indexText {w : Workspace} (h : Current disk w) (hw : Consistent w) {l : Location}
    {text : String} {buffers : Catalog Location Buffer}
    (hothers : ∀ k, k ≠ l → buffers.get? k = w.buffers.get? k)
    (htext : { w with buffers := buffers }.currentText? disk l = some text) :
    Current disk ({ w with buffers := buffers }.indexText disk l text) := by
  have hindexed := hw.register_indexOutline disk l (Outline.ofText text) hothers
  have hcurrent : Current disk ({ w with buffers := buffers, index := w.index.register l
      }.indexOutline disk l (Outline.ofText text)) := by
    intro k f hf
    rw [get?_indexOutline] at hf
    by_cases hlk : l = k
    · subst hlk
      rw [if_pos rfl] at hf
      obtain rfl := Option.some.inj hf
      exact ⟨text, htext, rfl⟩
    · rw [if_neg hlk] at hf
      change ∃ text, ((buffers.get? k).map (·.text)).or (readText? disk k) = some text ∧ _
      rw [hothers k (Ne.symm hlk)]
      exact h k f hf
  rw [Workspace.indexText]
  split
  · exact hcurrent.reresolve hindexed.toGrounded
  · exact (loads_loadDependencies _ disk).current hindexed.toGrounded hcurrent

theorem Current.setConfig {w : Workspace} (h : Current disk w) (hw : Consistent w)
    (config : Config) : Current disk (w.setConfig disk config) := by
  have hgrounded := hw.toGrounded.withConfig config
  have hcurrent : Current disk { w with index := { w.index with config := config } } := h
  rw [Workspace.setConfig]
  split
  · exact hcurrent.reresolve hgrounded
  · exact (loads_loadDependencies _ disk).current hgrounded hcurrent

theorem Current.dropFile {w : Workspace} (h : Current disk w) (l : Location) :
    Current disk ({ w with buffers := w.buffers.erase l }.dropFile l) := by
  intro k f hf
  change (w.files.erase l).get? k = some f at hf
  change ∃ text, (((w.buffers.erase l).get? k).map (·.text)).or (readText? disk k) = some text ∧ _
  rw [Catalog.get?_erase] at hf ⊢
  by_cases hlk : l = k
  · rw [if_pos hlk] at hf
    cases hf
  · rw [if_neg hlk] at hf ⊢
    exact h k f hf

theorem Current.takeIn {w : Workspace} (h : Current disk w) {found : List (Location × Outline)}
    (hfound : ∀ e ∈ found, ∃ text, readText? disk e.1 = some text ∧ e.2 = Outline.ofText text) :
    Current disk (w.takeIn found) := by
  intro l f hf
  rcases Catalog.get?_foldl_insert hf with hf | ⟨e, he, rfl, rfl⟩
  · exact h l f hf
  · rw [List.mem_filter, Bool.not_eq_true'] at he
    obtain ⟨text, htext, houtline⟩ := hfound e he.1
    exact ⟨text, (currentText?_of_closed (w := w) he.2).trans htext, houtline⟩

end Workspace

/-! ## Events -/

/-- What the event brings in comes from an editor or from the disk: no text is indexed without a
document, and a scan finds what some folders hold, in whatever order. -/
def Event.IsFaithful (disk : Disk) : Event → Prop
  | .scanned found =>
      ∃ folders : List Location, found.Perm (folders.flatMap (Workspace.scanFolder disk))
  | .indexed _ _ => False
  | _ => True

namespace Workspace

variable {disk : Disk}

theorem Current.perform {w : Workspace} (h : Current disk w) (hw : Consistent w) {e : Event}
    (he : e.IsFaithful disk) : Current disk (w.perform disk e) := by
  cases e with
  | addFolder folder => exact h
  | settings settings =>
      rw [Workspace.perform, applySettings?]
      cases w.index.config.applySettings? settings with
      | none => exact h
      | some config => exact h.setConfig hw config
  | opened l text version =>
      apply h.indexText hw
      · exact fun k hk => Catalog.get?_insert_of_ne _ hk _
      · simp [currentText?, Catalog.get?_insert]
  | changed l changes version =>
      rw [Workspace.perform, changeDocument]
      cases w.buffers.get? l with
      | none => exact h
      | some b =>
          apply h.indexText hw
          · exact fun k hk => Catalog.get?_insert_of_ne _ hk _
          · simp [currentText?, Catalog.get?_insert]
  | closed l =>
      rw [Workspace.perform, closeDocument]
      cases htext : readText? disk l with
      | none => exact (h.dropFile l).reresolve (hw.dropFile l)
      | some text =>
          apply h.indexText hw
          · exact fun k hk => Catalog.get?_erase_of_ne _ hk
          · simp [currentText?, Catalog.get?_erase, htext]
  | scanned found =>
      obtain ⟨folders, hfound⟩ := he
      refine Current.reresolve ?_ (hw.takeIn found)
      apply h.takeIn
      intro e he
      obtain ⟨folder, -, hscan⟩ := List.mem_flatMap.mp (hfound.mem_iff.mp he)
      exact readText?_of_mem_scanFolder hscan
  | indexed l text => exact he.elim
  | reresolved => exact h.reresolve hw.toGrounded

theorem current_after {events : List Event} (h : ∀ e ∈ events, e.IsFaithful disk) :
    Current disk (after disk events) := by
  have hboth : Consistent (after disk events) ∧ Current disk (after disk events) := by
    refine after_induction (motive := fun w => Consistent w ∧ Current disk w) events
      ⟨consistent_empty, current_empty disk⟩ ?_
    intro w e he hw
    exact ⟨hw.1.perform disk e, hw.2.perform hw.1 (h e he)⟩
  exact hboth.2

end Workspace

end PawnScope
