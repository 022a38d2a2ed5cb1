import PawnScope.Proofs.Disk.Lookup
import PawnScope.Proofs.Workspace.Indexing
import Mathlib.Data.List.Basic

/-! # Loading what is missing

Loading goes on in rounds until nothing is missing: in the end every file that is wanted is known
or cannot be read. The number of rounds is bounded by the texts on disk. After the first round,
whatever is missing is wanted by a file that the last round has read from disk; and the next round
tries all that such a text wants, so that the text never makes anything missing again. -/

namespace PawnScope.Workspace

variable {disk : Disk}

/-! ## What is wanted -/

theorem mem_targets_iff {f : SourceFile} {l : Location} :
    l ∈ f.targets ↔ ∃ p ∈ f.edges, p.2.isUnresolved = false ∧ p.2.target = l := by
  simp only [SourceFile.targets, List.mem_map, List.mem_filter, Bool.not_eq_true']
  constructor
  · rintro ⟨e, ⟨⟨p, hp, rfl⟩, he⟩, rfl⟩
    exact ⟨p, hp, he, rfl⟩
  · rintro ⟨p, hp, he, rfl⟩
    exact ⟨p.2, ⟨⟨p, hp, rfl⟩, he⟩, rfl⟩

theorem mem_wanted_iff {w : Workspace} {l : Location} :
    l ∈ w.wanted disk ↔
      (∃ k f, w.files.get? k = some f ∧ l ∈ f.targets) ∨ w.index.main? disk = some l := by
  simp only [wanted, List.mem_append, List.mem_flatMap, Catalog.mem_values_iff, Option.mem_toList]
  constructor
  · rintro (⟨f, ⟨k, hk⟩, hl⟩ | hl)
    · exact Or.inl ⟨k, f, hk, hl⟩
    · exact Or.inr hl
  · rintro (⟨k, f, hk, hl⟩ | hl)
    · exact Or.inl ⟨f, ⟨k, hk⟩, hl⟩
    · exact Or.inr hl

/-- A location is known, or it has been tried. -/
def Settled (w : Workspace) (tried : List Location) (l : Location) : Prop :=
  w.files.contains l = true ∨ l ∈ tried

theorem mem_missing_iff {w : Workspace} {tried : List Location} {l : Location} :
    l ∈ w.missing disk tried ↔ l ∈ w.wanted disk ∧ ¬w.Settled tried l := by
  simp [missing, Settled, List.mem_eraseDups]

/-! ## One round -/

theorem Loads.loadAll {w w' : Workspace} (h : Loads disk w w') {found : List Location}
    (hfound : ∀ l ∈ found, w.files.get? l = none) : Loads disk w (w'.loadAll disk found) := by
  induction found generalizing w' with
  | nil => exact h
  | cons l found ih =>
      exact ih (h.loadFile (hfound l List.mem_cons_self))
        fun k hk => hfound k (List.mem_cons_of_mem l hk)

theorem Loads.contains {w w' : Workspace} (h : Loads disk w w') {l : Location}
    (hl : w.files.contains l = true) : w'.files.contains l = true := by
  obtain ⟨f, hf⟩ := Catalog.contains_iff.mp hl
  exact Catalog.contains_iff.mpr ⟨f, (h.known l f hf).1⟩

theorem contains_loadFile (w : Workspace) (disk : Disk) (l k : Location) :
    (w.loadFile disk l).files.contains k =
      (w.files.contains k || (decide (l = k) && (readText? disk l).isSome)) := by
  cases ht : readText? disk l with
  | none => simp [loadFile, ht]
  | some text => simp [loadFile, ht, indexOutline, Catalog.contains_insert, Bool.or_comm]

theorem contains_loadAll_iff {w : Workspace} {found : List Location} {k : Location} :
    (w.loadAll disk found).files.contains k = true ↔
      w.files.contains k = true ∨ (k ∈ found ∧ (readText? disk k).isSome = true) := by
  induction found generalizing w with
  | nil => simp [loadAll]
  | cons l found ih =>
      have hstep : (w.loadAll disk (l :: found)) = (w.loadFile disk l).loadAll disk found := rfl
      rw [hstep, ih, contains_loadFile]
      by_cases hlk : l = k
      · subst hlk
        simp [or_assoc, or_iff_left_of_imp And.right]
      · simp [hlk, Ne.symm hlk]

/-- A file that has been tried is known, or it cannot be read. -/
def Tried (disk : Disk) (w : Workspace) (tried : List Location) : Prop :=
  ∀ l ∈ tried, w.files.contains l = true ∨ readText? disk l = none

section Round

variable {w : Workspace} {tried : List Location}

theorem Loads.round {w' : Workspace} (h : Loads disk w w') (tried : List Location) :
    Loads disk w (w'.loadAll disk (w'.missing disk tried)) := by
  apply h.loadAll
  intro l hl
  have hunsettled := (mem_missing_iff.mp hl).2
  apply Catalog.contains_eq_false_iff.mp
  rw [Bool.eq_false_iff]
  exact fun hknown => hunsettled (Or.inl (h.contains hknown))

theorem loads_round (disk : Disk) (w : Workspace) (tried : List Location) :
    Loads disk w (w.loadAll disk (w.missing disk tried)) :=
  (Loads.refl disk w).round tried

theorem tried_round (h : Tried disk w tried) :
    Tried disk (w.loadAll disk (w.missing disk tried)) (tried ++ w.missing disk tried) := by
  intro l hl
  cases ht : readText? disk l with
  | none => exact Or.inr rfl
  | some text =>
      left
      rw [contains_loadAll_iff, ht]
      rcases List.mem_append.mp hl with hl | hl
      · rcases h l hl with hknown | hunread
        · exact Or.inl hknown
        · rw [hunread] at ht
          cases ht
      · exact Or.inr ⟨hl, rfl⟩

theorem Settled.mono {w' : Workspace} {tried' : List Location} {l : Location}
    (h : w.Settled tried l) (hw : Loads disk w w') (htried : tried ⊆ tried') :
    w'.Settled tried' l := by
  rcases h with hknown | hl
  · exact Or.inl (hw.contains hknown)
  · exact Or.inr (htried hl)

/-- A round settles whatever was wanted before it. -/
theorem settled_round {l : Location} (h : l ∈ w.wanted disk) :
    (w.loadAll disk (w.missing disk tried)).Settled (tried ++ w.missing disk tried) l := by
  by_cases hl : w.Settled tried l
  · exact hl.mono (loads_round disk w tried) (List.subset_append_left _ _)
  · exact Or.inr (List.mem_append_right tried (mem_missing_iff.mpr ⟨h, hl⟩))

/-- Whatever is missing is wanted by a known file with a text from disk. -/
def FromDisk (disk : Disk) (w : Workspace) (tried : List Location) : Prop :=
  ∀ l ∈ w.missing disk tried, ∃ k text, readText? disk k = some text ∧
    w.files.get? k = some (w.fileOf disk (Outline.ofText text)) ∧
    l ∈ (w.fileOf disk (Outline.ofText text)).targets

theorem fromDisk_round (w : Workspace) (tried : List Location) :
    FromDisk disk (w.loadAll disk (w.missing disk tried)) (tried ++ w.missing disk tried) := by
  intro l hl
  have hloads := loads_round disk w tried
  obtain ⟨hwanted, hunsettled⟩ := mem_missing_iff.mp hl
  -- What is missing now was not wanted before, so a file that was not known before wants it.
  have hnew : l ∉ w.wanted disk := fun h => hunsettled (settled_round h)
  rcases mem_wanted_iff.mp hwanted with ⟨k, f, hk, hlf⟩ | hmain
  · rcases hloads.known_or_loaded hk with ⟨hold, -⟩ | ⟨-, text, hread, rfl, -⟩
    · exact absurd (mem_wanted_iff.mpr (Or.inl ⟨k, f, hold, hlf⟩)) hnew
    · rw [← hloads.toSameSetting.fileOf_eq] at hk hlf
      exact ⟨k, text, hread, hk, hlf⟩
  · rw [hloads.toSameSetting.main?_eq] at hmain
    exact absurd (mem_wanted_iff.mpr (Or.inr hmain)) hnew

end Round

/-! ## Texts that want what is missing -/

/-- A text, indexed as a file, wants something that is not settled. -/
def Unsettled (disk : Disk) (w : Workspace) (tried : List Location) (text : String) : Prop :=
  ∃ l ∈ (w.fileOf disk (Outline.ofText text)).targets, ¬w.Settled tried l

instance (w : Workspace) (tried : List Location) (l : Location) : Decidable (w.Settled tried l) :=
  inferInstanceAs (Decidable (_ ∨ _))

instance (disk : Disk) (w : Workspace) (tried : List Location) (text : String) :
    Decidable (Unsettled disk w tried text) :=
  inferInstanceAs (Decidable (∃ l ∈ _, _))

/-- The texts on disk that want something that is not settled. -/
def unsettledTexts (disk : Disk) (w : Workspace) (tried : List Location) : List String :=
  disk.texts.filter fun text => Unsettled disk w tried text

theorem Unsettled.anti {w w' : Workspace} {tried tried' : List Location} {text : String}
    (h : Unsettled disk w' tried' text) (hw : Loads disk w w') (htried : tried ⊆ tried') :
    Unsettled disk w tried text := by
  obtain ⟨l, hl, hunsettled⟩ := h
  rw [hw.toSameSetting.fileOf_eq] at hl
  exact ⟨l, hl, fun hsettled => hunsettled (hsettled.mono hw htried)⟩

/-- Something that is missing is wanted by a text on disk, which the next round settles. -/
theorem length_unsettledTexts_round {w : Workspace} {tried : List Location}
    (hdisk : FromDisk disk w tried) (h : w.missing disk tried ≠ []) :
    (unsettledTexts disk (w.loadAll disk (w.missing disk tried))
      (tried ++ w.missing disk tried)).length < (unsettledTexts disk w tried).length := by
  have hloads := loads_round disk w tried
  obtain ⟨l, hl⟩ := List.exists_mem_of_ne_nil _ h
  obtain ⟨k, text, hread, hk, htarget⟩ := hdisk l hl
  obtain ⟨path, -, hpath⟩ := Option.bind_eq_some_iff.mp hread
  have hbefore : text ∈ unsettledTexts disk w tried := by
    rw [unsettledTexts, List.mem_filter, decide_eq_true_eq]
    exact ⟨Disk.mem_texts_of_readText? hpath, l, htarget, (mem_missing_iff.mp hl).2⟩
  have hafter : text ∉ unsettledTexts disk (w.loadAll disk (w.missing disk tried))
      (tried ++ w.missing disk tried) := by
    rw [unsettledTexts, List.mem_filter, decide_eq_true_eq]
    rintro ⟨-, m, hm, hunsettled⟩
    rw [hloads.toSameSetting.fileOf_eq] at hm
    exact hunsettled (settled_round (mem_wanted_iff.mpr (Or.inl ⟨k, _, hk, hm⟩)))
  have hsub : (unsettledTexts disk (w.loadAll disk (w.missing disk tried))
      (tried ++ w.missing disk tried)).Sublist (unsettledTexts disk w tried) := by
    apply List.monotone_filter_right
    intro t ht
    rw [decide_eq_true_eq] at ht ⊢
    exact ht.anti hloads (List.subset_append_left _ _)
  apply Nat.lt_of_le_of_ne hsub.length_le
  intro hlength
  exact hafter (hsub.eq_of_length hlength ▸ hbefore)

/-! ## All rounds -/

theorem loads_loadRounds (fuel : Nat) {w w' : Workspace} (tried : List Location)
    (h : Loads disk w w') : Loads disk w (loadRounds disk fuel tried w') := by
  induction fuel generalizing tried w' with
  | zero => exact h
  | succ fuel ih =>
      rw [loadRounds]
      split
      · exact h
      · exact ih _ (h.round tried)

/-- Loading ends with nothing missing if the fuel is enough for the texts that want something. -/
theorem exists_missing_loadRounds_eq_nil (fuel : Nat) {w : Workspace} {tried : List Location}
    (hdisk : FromDisk disk w tried) (htried : Tried disk w tried)
    (hfuel : (unsettledTexts disk w tried).length ≤ fuel) :
    ∃ tried', (loadRounds disk fuel tried w).missing disk tried' = [] ∧
      Tried disk (loadRounds disk fuel tried w) tried' := by
  induction fuel generalizing tried w with
  | zero =>
      refine ⟨tried, ?_, htried⟩
      by_contra h
      have := length_unsettledTexts_round hdisk h
      omega
  | succ fuel ih =>
      rw [loadRounds]
      split
      · rename_i hmissing
        exact ⟨tried, hmissing, htried⟩
      · rename_i hmissing
        have hlt := length_unsettledTexts_round hdisk hmissing
        exact ih (fromDisk_round w tried) (tried_round htried) (by omega)

/-! ## Dependencies -/

theorem loads_loadDependencies (w : Workspace) (disk : Disk) :
    Loads disk w (w.loadDependencies disk) :=
  loads_loadRounds _ [] (Loads.refl disk w)

theorem sameSetting_reresolve (w : Workspace) (disk : Disk) : SameSetting w (w.reresolve disk) :=
  (sameSetting_rebuild w disk).trans (loads_loadDependencies _ disk).toSameSetting

/-- Indexing a text registers the file, and changes nothing else but files and tables. -/
theorem sameSetting_indexText (w : Workspace) (disk : Disk) (l : Location) (text : String) :
    SameSetting { w with index := w.index.register l } (w.indexText disk l text) := by
  have hindexed := sameSetting_indexOutline { w with index := w.index.register l } disk l
    (Outline.ofText text)
  rw [indexText]
  split
  · exact hindexed.trans (sameSetting_reresolve _ disk)
  · exact hindexed.trans (loads_loadDependencies _ disk).toSameSetting

theorem sameSetting_setConfig (w : Workspace) (disk : Disk) (config : Config) :
    SameSetting { w with index := { w.index with config := config } } (w.setConfig disk config) := by
  rw [setConfig]
  split
  · exact sameSetting_reresolve _ disk
  · exact (loads_loadDependencies _ disk).toSameSetting

/-- After loading, every wanted file is known or cannot be read. -/
theorem settled_loadDependencies (w : Workspace) (disk : Disk) {l : Location}
    (h : l ∈ (w.loadDependencies disk).wanted disk) :
    (w.loadDependencies disk).files.contains l = true ∨ readText? disk l = none := by
  have hend : ∃ tried, (w.loadDependencies disk).missing disk tried = [] ∧
      Tried disk (w.loadDependencies disk) tried := by
    have hnil : Tried disk w [] := by simp [Tried]
    rw [loadDependencies, loadRounds]
    split
    · rename_i hmissing
      exact ⟨[], hmissing, hnil⟩
    · apply exists_missing_loadRounds_eq_nil _ (fromDisk_round w []) (tried_round hnil)
      exact Nat.le_trans (List.length_filter_le _ _) disk.length_texts_le
  obtain ⟨tried, hmissing, htried⟩ := hend
  have hsettled : (w.loadDependencies disk).Settled tried l := by
    by_contra hl
    have hmem := mem_missing_iff.mpr ⟨h, hl⟩
    rw [hmissing] at hmem
    cases hmem
  rcases hsettled with hknown | hl
  · exact Or.inl hknown
  · exact htried l hl

end PawnScope.Workspace
