import PawnScope.Proofs.Include.Placeholder
import PawnScope.Proofs.Workspace.ChangingDisk
import PawnScope.Proofs.Workspace.Closure
import PawnScope.Proofs.Workspace.Current

/-! # Spellings of locations

Tables are kept by location, and a path can be written as a location in many ways. What scans,
include directories and the main path bring in is made from paths, so it is spelled in the standard
way; only an editor can name a document otherwise. So two tables for one path need an editor that
spells the location of a document in its own way. -/

namespace PawnScope

/-- A placeholder outside the directory of the placeholders. -/
def Location.IsStray (l : Location) : Prop :=
  ∃ reference, l = Reference.builtinLocation reference ∧ l.isBuiltin = false

namespace Workspace

variable {disk : Disk} {w : Workspace} {named : Location → Prop}

/-- Where the spelling of a location comes from: it is that of its path, an editor named it, or it
is what became of a reference. -/
def Spelled (named : Location → Prop) (l : Location) : Prop :=
  l.IsStandard ∨ named l ∨ l.IsStray

/-- The spellings of all locations that are or may become known. -/
structure SpelledIn (named : Location → Prop) (w : Workspace) : Prop where
  known : ∀ l f, w.files.get? l = some f → Spelled named l ∧ ∀ k ∈ f.targets, Spelled named k
  owners : ∀ name l, w.index.registry.resolve? name = some l → Spelled named l

theorem spelledIn_empty (named : Location → Prop) : SpelledIn named {} where
  known l f h := by cases h
  owners name l h := by cases h

/-! ## Includes -/

theorem SpelledIn.resolve (h : SpelledIn named w) (disk : Disk) (reference : String)
    (isBuiltin : Bool) (hfound : (w.index.resolve disk reference isBuiltin).isUnresolved = false) :
    Spelled named (w.index.resolve disk reference isBuiltin).target := by
  rw [Edge.isUnresolved] at hfound
  rw [Index.resolve, Reference.resolve] at hfound ⊢
  cases htarget : Reference.target? disk w.index.registry w.index.config.includeDirectories
      (Reference.normalize reference.toList) with
  | none =>
      rw [htarget] at hfound
      exact Or.inr (Or.inr ⟨_, rfl, hfound⟩)
  | some l =>
      rw [Reference.target?, Option.or_eq_some_iff] at htarget
      rcases htarget with howner | ⟨-, hdirectory⟩
      · exact h.owners _ l howner
      · obtain ⟨directory, -, hl⟩ := List.exists_of_findSome?_eq_some hdirectory
        obtain ⟨q, -, hq⟩ := Reference.exists_of_inDirectory? hl
        exact Or.inl (Location.isStandard_of_ofPath? hq)

theorem SpelledIn.fileOf (h : SpelledIn named w) (disk : Disk) (o : Outline) :
    ∀ k ∈ (w.fileOf disk o).targets, Spelled named k := by
  intro k hk
  obtain ⟨e, he, hfound, rfl⟩ := mem_targets_iff.mp hk
  obtain ⟨i, -, rfl⟩ := List.mem_map.mp he
  exact h.resolve disk i.reference i.isBuiltin hfound

theorem SpelledIn.wanted (h : SpelledIn named w) {l : Location} (hl : l ∈ w.wanted disk) :
    Spelled named l := by
  rcases mem_wanted_iff.mp hl with ⟨k, f, hf, hl⟩ | hmain
  · exact (h.known k f hf).2 l hl
  · obtain ⟨path, -, hpath⟩ := Index.main?_eq_some_iff.mp hmain
    exact Or.inl (Location.isStandard_of_ofPath? hpath)

/-! ## Indexing -/

theorem SpelledIn.indexOutline (h : SpelledIn named w) (disk : Disk) {l : Location}
    (hl : Spelled named l) (o : Outline) : SpelledIn named (w.indexOutline disk l o) where
  known k f hf := by
    rw [get?_indexOutline] at hf
    by_cases hlk : l = k
    · rw [if_pos hlk] at hf
      obtain rfl := Option.some.inj hf
      exact ⟨hlk ▸ hl, h.fileOf disk o⟩
    · rw [if_neg hlk] at hf
      exact h.known k f hf
  owners := h.owners

theorem SpelledIn.rebuild (h : SpelledIn named w) (disk : Disk) :
    SpelledIn named (w.rebuild disk) := by
  refine List.foldlRecOn w.files.entries _ h fun w' hw' e he => hw'.indexOutline disk ?_ _
  exact (h.known e.1 e.2 (Catalog.mem_entries_iff.mp he)).1

theorem SpelledIn.loadAll (h : SpelledIn named w) {found : List Location}
    (hfound : ∀ l ∈ found, Spelled named l) : SpelledIn named (w.loadAll disk found) := by
  refine List.foldlRecOn found _ h fun w' hw' l hl => ?_
  rw [loadFile]
  split
  · exact hw'.indexOutline disk (hfound l hl) _
  · exact hw'

theorem SpelledIn.loadRounds (h : SpelledIn named w) (fuel : Nat) (tried : List Location) :
    SpelledIn named (loadRounds disk fuel tried w) := by
  induction fuel generalizing tried w with
  | zero => exact h
  | succ fuel ih =>
      rw [Workspace.loadRounds]
      split
      · exact h
      · apply ih
        exact h.loadAll fun l hl => h.wanted (mem_missing_iff.mp hl).1

theorem SpelledIn.loadDependencies (h : SpelledIn named w) (disk : Disk) :
    SpelledIn named (w.loadDependencies disk) :=
  h.loadRounds _ []

theorem SpelledIn.reresolve (h : SpelledIn named w) (disk : Disk) :
    SpelledIn named (w.reresolve disk) :=
  (h.rebuild disk).loadDependencies disk

theorem SpelledIn.indexText (h : SpelledIn named w) (disk : Disk) {l : Location}
    (hl : Spelled named l) (text : String) : SpelledIn named (w.indexText disk l text) := by
  have hregister : SpelledIn named { w with index := w.index.register l } := by
    refine ⟨h.known, ?_⟩
    intro name k hk
    change (w.index.registry.register l).resolve? name = some k at hk
    rw [Registry.resolve?_register] at hk
    split at hk
    · obtain rfl := Option.some.inj hk
      exact hl
    · exact h.owners name k hk
  have hindexed := hregister.indexOutline disk hl (Outline.ofText text)
  rw [Workspace.indexText]
  split
  · exact hindexed.reresolve disk
  · exact hindexed.loadDependencies disk

/-! ## Events -/

theorem SpelledIn.withBuffers (h : SpelledIn named w) (buffers : Catalog Location Buffer) :
    SpelledIn named { w with buffers := buffers } :=
  ⟨h.known, h.owners⟩

theorem SpelledIn.setConfig (h : SpelledIn named w) (disk : Disk) (config : Config) :
    SpelledIn named (w.setConfig disk config) := by
  have hconfig : SpelledIn named { w with index := { w.index with config := config } } :=
    ⟨h.known, h.owners⟩
  rw [Workspace.setConfig]
  split
  · exact hconfig.reresolve disk
  · exact hconfig.loadDependencies disk

theorem SpelledIn.dropFile (h : SpelledIn named w) (l : Location) :
    SpelledIn named (w.dropFile l) where
  known k f hf := by
    change (w.files.erase l).get? k = some f at hf
    rw [Catalog.get?_erase] at hf
    split at hf
    · cases hf
    · exact h.known k f hf
  owners name k hk := by
    change (w.index.registry.unregister l).resolve? name = some k at hk
    rw [Registry.resolve?_unregister] at hk
    split at hk
    · cases hk
    · exact h.owners name k hk

theorem SpelledIn.takeIn (h : SpelledIn named w) {found : List (Location × Outline)}
    (hfound : ∀ e ∈ found, e.1.IsStandard) : SpelledIn named (w.takeIn found) where
  known l f hf := by
    rcases Catalog.get?_foldl_insert hf with hf | ⟨e, he, rfl, rfl⟩
    · exact h.known l f hf
    · exact ⟨Or.inl (hfound e (List.mem_filter.mp he).1), fun k hk => by cases hk⟩
  owners name l hl := by
    change (found.foldl (fun x e => Index.register x e.1) w.index).registry.resolve? name =
      some l at hl
    rw [foldl_register_eq] at hl
    rcases resolve?_foldl_register hl with hl | ⟨-, e, he, rfl⟩
    · exact h.owners name l hl
    · exact Or.inl (hfound e he)

/-- An event brings in no spelling but that of its document. -/
theorem SpelledIn.perform (h : SpelledIn named w) (disk : Disk) {e : Event}
    (he : ∃ scanned, e.IsFaithful scanned) (hnamed : ∀ l, e.document? = some l → named l) :
    SpelledIn named (w.perform disk e) := by
  have hdocument : ∀ l, e.document? = some l → Spelled named l :=
    fun l hl => Or.inr (Or.inl (hnamed l hl))
  cases e with
  | addFolder folder => exact ⟨h.known, h.owners⟩
  | settings settings =>
      rw [Workspace.perform, applySettings?]
      cases w.index.config.applySettings? settings with
      | none => exact h
      | some config => exact h.setConfig disk config
  | opened l text version => exact (h.withBuffers _).indexText disk (hdocument l rfl) text
  | changed l changes version =>
      rw [Workspace.perform, changeDocument]
      cases w.buffers.get? l with
      | none => exact h
      | some b => exact (h.withBuffers _).indexText disk (hdocument l rfl) _
  | closed l =>
      rw [Workspace.perform, closeDocument]
      cases readText? disk l with
      | none => exact ((h.withBuffers _).dropFile l).reresolve disk
      | some text => exact (h.withBuffers _).indexText disk (hdocument l rfl) text
  | scanned found =>
      obtain ⟨scanned, folders, hfound⟩ := he
      refine SpelledIn.reresolve (h.takeIn ?_) disk
      intro e he
      obtain ⟨folder, -, hscan⟩ := List.mem_flatMap.mp (hfound.mem_iff.mp he)
      obtain ⟨p, text, -, hp, -, -⟩ := exists_of_mem_scanFolder hscan
      exact Location.isStandard_of_ofPath? hp
  | indexed l text =>
      obtain ⟨scanned, hfalse⟩ := he
      exact hfalse.elim
  | reresolved => exact h.reresolve disk

/-- Some event is about the document at the location. -/
def Named (steps : List (Disk × Event)) (l : Location) : Prop :=
  ∃ step ∈ steps, step.2.document? = some l

theorem spelledIn_afterOn {steps : List (Disk × Event)}
    (hsteps : ∀ step ∈ steps, ∃ scanned, step.2.IsFaithful scanned) :
    SpelledIn (Named steps) (afterOn steps) := by
  refine List.foldlRecOn steps _ (spelledIn_empty _) fun w h step hstep => ?_
  exact h.perform step.1 (hsteps step hstep) fun l hl => ⟨step, hstep, hl⟩

/-! ## Tables of one file -/

/-- The location is not the standard one of its path: an editor named it, or it is a stray
placeholder. -/
def Misspelled (steps : List (Disk × Event)) (l : Location) : Prop :=
  ¬l.IsStandard ∧ (Named steps l ∨ l.IsStray)

theorem misspelled_of_alike {steps : List (Disk × Event)}
    (hsteps : ∀ step ∈ steps, ∃ scanned, step.2.IsFaithful scanned) {l l' : Location} {p q : Path}
    (hl : (afterOn steps).index.tables.contains l = true)
    (hl' : (afterOn steps).index.tables.contains l' = true) (hne : l ≠ l')
    (hp : l.filePath? = some p) (hq : l'.filePath? = some q) (h : p.Alike q) :
    Misspelled steps l ∨ Misspelled steps l' := by
  have hspelled : ∀ k, (afterOn steps).index.tables.contains k = true → ¬k.IsStandard →
      Misspelled steps k := by
    intro k hk hstandard
    rw [(consistent_afterOn steps).contains_tables] at hk
    obtain ⟨f, hf⟩ := Catalog.contains_iff.mp hk
    exact ⟨hstandard, ((spelledIn_afterOn hsteps).known k f hf).1.resolve_left hstandard⟩
  by_cases hstandard : l.IsStandard
  · right
    apply hspelled l' hl'
    intro hstandard'
    exact hne (hstandard.eq_of_alike hstandard' hp hq h)
  · exact Or.inl (hspelled l hl hstandard)

/-- Whatever happens on a disk that may change, two tables belong to one path only if one of their
locations is misspelled; and they belong to one file on disk, which the two paths reach by the same
names, only then or if one of the paths goes up on its way. -/
theorem misspelled_of_samePath {steps : List (Disk × Event)}
    (hsteps : ∀ step ∈ steps, ∃ scanned, step.2.IsFaithful scanned) {l l' : Location} {p q : Path}
    (hl : (afterOn steps).index.tables.contains l = true)
    (hl' : (afterOn steps).index.tables.contains l' = true) (hne : l ≠ l')
    (hp : l.filePath? = some p) (hq : l'.filePath? = some q) :
    (p.same q = true → Misspelled steps l ∨ Misspelled steps l') ∧
      (p.normalNames = q.normalNames → (Misspelled steps l ∨ Misspelled steps l') ∨
        Path.dotDot ∈ p.steps ∨ Path.dotDot ∈ q.steps) := by
  constructor
  · intro hsame
    exact misspelled_of_alike hsteps hl hl' hne hp hq (Path.alike_of_same hsame)
  · intro hnames
    by_cases hup : Path.dotDot ∈ p.steps ∨ Path.dotDot ∈ q.steps
    · exact Or.inr hup
    · rw [not_or] at hup
      rw [Path.normalNames_of_dotDot_notMem hup.1, Path.normalNames_of_dotDot_notMem hup.2] at hnames
      have habs : p.isAbsolute = q.isAbsolute := by
        rw [Location.isAbsolute_of_filePath? hp, Location.isAbsolute_of_filePath? hq]
      exact Or.inl (misspelled_of_alike hsteps hl hl' hne hp hq ⟨habs, hnames⟩)

/-- A folder is scanned, and its file is opened under a location that encodes a letter of its
name. -/
def respelledHistory : List (Disk × Event) :=
  [(fileOnDisk, .addFolder (.ofSegments [""])),
    (fileOnDisk, .scanned (scanFolder fileOnDisk (.ofSegments [""]))),
    (fileOnDisk, .opened (.ofSegments ["%61.sp"]) "int g_Disk;" (some 1))]

theorem misspelled_of_samePath_respelled :
    (∀ step ∈ respelledHistory, ∃ scanned, step.2.IsFaithful scanned) ∧
      (Misspelled respelledHistory (.ofSegments ["a.sp"]) ∨
        Misspelled respelledHistory (.ofSegments ["%61.sp"])) := by
  have hsteps : ∀ step ∈ respelledHistory, ∃ scanned, step.2.IsFaithful scanned := by
    intro step hstep
    refine ⟨fileOnDisk, ?_⟩
    simp only [respelledHistory, List.mem_cons, List.not_mem_nil, or_false] at hstep
    rcases hstep with rfl | rfl | rfl
    · trivial
    · exact ⟨[.ofSegments [""]], by simp⟩
    · trivial
  have hpath : (Location.ofSegments ["a.sp"]).filePath? = some ⟨Text.octets "/a.sp".toList⟩ ∧
      (Location.ofSegments ["%61.sp"]).filePath? = some ⟨Text.octets "/a.sp".toList⟩ := by
    decide +kernel
  have hscanned : (afterOn respelledHistory).index.tables.contains (.ofSegments ["a.sp"]) = true := by
    decide +kernel
  have hopened : (afterOn respelledHistory).index.tables.contains (.ofSegments ["%61.sp"]) = true := by
    decide +kernel
  have hboth := misspelled_of_samePath hsteps hscanned hopened (by decide) hpath.1 hpath.2
  exact ⟨hsteps, hboth.1 (by decide +kernel)⟩

/-- The file has two tables then. -/
theorem samePath_respelled :
    (afterOn respelledHistory).index.tables.contains (.ofSegments ["a.sp"]) = true ∧
      (afterOn respelledHistory).index.tables.contains (.ofSegments ["%61.sp"]) = true ∧
      Location.ofSegments ["a.sp"] ≠ .ofSegments ["%61.sp"] ∧
      (Location.ofSegments ["a.sp"]).filePath? = (Location.ofSegments ["%61.sp"]).filePath? ∧
      (Location.ofSegments ["a.sp"]).filePath? ≠ none := by
  decide +kernel

end Workspace

end PawnScope
