import PawnScope.Proofs.Include.Placeholder
import PawnScope.Proofs.Visibility.Reachability
import PawnScope.Proofs.Workspace.Current
import PawnScope.Proofs.Workspace.Freshness

/-! # The index and the texts

An index that has grown with the events of a history says the same as one that is made anew from
the current texts. A file sees what is found when the includes of its text are resolved, those of
the texts that they lead to, and so on. A walk over tables misses none of it: an include leads to a
known file, or to one that has no text. -/

namespace PawnScope.Workspace

open Relation Visibility

variable {disk : Disk}

/-- The current text of one file includes another. A file without a text includes nothing. -/
def Expands (disk : Disk) (w : Workspace) (a b : Location) : Prop :=
  ∃ text, w.currentText? disk a = some text ∧
    ∃ i ∈ w.index.config.effectiveIncludes (Outline.ofText text),
      (w.index.resolve disk i.reference i.isBuiltin).target = b

/-- Tables and visibility are what the current texts make of them. -/
structure FromTexts (disk : Disk) (w : Workspace) : Prop where
  /-- A table has the symbols and the edges of the current text. -/
  table : ∀ l t, w.index.table? l = some t → ∃ text, w.currentText? disk l = some text ∧
    t = SymbolTable.ofSymbols l (Outline.ofText text).symbols
      ((w.index.resolveAll disk
        (w.index.config.effectiveIncludes (Outline.ofText text))).map (·.2))
  /-- Without a main file, a file sees what its text expands to. -/
  visible : w.index.config.mainPath = none → ∀ l t, w.index.table? l = some t →
    ∃ seen, w.index.visible disk l = .ok seen ∧
      ∀ v, v ∈ seen ↔ ReflTransGen (Expands disk w) l v

/-! ## Edges -/

/-- An include of a known file leads to a known file or to one that has no text. -/
theorem Fresh.known_or_currentText?_eq_none {w : Workspace} (h : Fresh disk w)
    (hw : Consistent w) (hdisk : disk.NothingUnder Reference.builtinDirectory)
    (hsettled : ∀ l ∈ w.wanted disk, w.files.contains l = true ∨ readText? disk l = none)
    {l : Location} {f : SourceFile} (hf : w.files.get? l = some f) {p : Include × Edge}
    (hp : p ∈ f.edges) :
    w.files.contains p.2.target = true ∨ w.currentText? disk p.2.target = none := by
  cases hknown : w.files.contains p.2.target with
  | true => exact Or.inl rfl
  | false =>
      right
      rw [hw.toGrounded.currentText?_of_unknown hknown]
      cases hplaceholder : p.2.isUnresolved with
      | false =>
          have hwanted : p.2.target ∈ w.wanted disk :=
            mem_wanted_iff.mpr (Or.inl ⟨l, f, hf, mem_targets_iff.mpr ⟨p, hp, hplaceholder, rfl⟩⟩)
          refine (hsettled _ hwanted).resolve_left ?_
          rw [hknown]
          exact Bool.false_ne_true
      | true =>
          have hresolve : p.2 = Reference.resolve disk w.index.registry
              w.index.config.includeDirectories p.1.reference p.1.isBuiltin := by
            rw [h l f hf, Index.resolveAll, List.mem_map] at hp
            obtain ⟨i, -, rfl⟩ := hp
            rfl
          -- A registered file would be known.
          have hregistry : w.index.registry.resolve? (Reference.lookupName p.1.reference) =
              none := by
            cases howner : w.index.registry.resolve? (Reference.lookupName p.1.reference) with
            | none => rfl
            | some owner =>
                have htarget : p.2.target = owner := by
                  rw [Reference.lookupName] at howner
                  simp [hresolve, Reference.resolve, Reference.target?, howner]
                rw [htarget, (hw.registered _ _ howner).2] at hknown
                cases hknown
          rw [hresolve] at hplaceholder ⊢
          exact Reference.readText?_of_isUnresolved hdisk hregistry hplaceholder

/-- The table of a known file includes what its current text includes. -/
theorem Current.includes_iff_expands {w : Workspace} (h : Current disk w) (hw : Consistent w)
    (hfresh : Fresh disk w) {a : Location} {f : SourceFile} (hf : w.files.get? a = some f)
    (b : Location) : Includes w.index.tables a b ↔ Expands disk w a b := by
  obtain ⟨text, htext, houtline⟩ := h a f hf
  have htable : w.index.tables.get? a = some (f.table a) := hw.table? a f hf
  have htargets : targets (f.table a) = (w.index.config.effectiveIncludes
      (Outline.ofText text)).map fun i => (w.index.resolve disk i.reference i.isBuiltin).target := by
    rw [targets, SourceFile.table, SymbolTable.ofSymbols, hfresh a f hf, houtline,
      Index.resolveAll]
    simp [Function.comp_def]
  simp [Includes, Expands, htable, htext, htargets]

/-- What a file includes by its table is at the end of one of its edges. -/
theorem Consistent.exists_edge_of_includes {w : Workspace} (h : Consistent w) {a b : Location}
    (hab : Includes w.index.tables a b) :
    ∃ f, w.files.get? a = some f ∧ ∃ p ∈ f.edges, p.2.target = b := by
  obtain ⟨t, ht, hb⟩ := hab
  obtain ⟨f, hf, rfl⟩ := h.exists_of_table? ht
  refine ⟨f, hf, ?_⟩
  rw [targets, SourceFile.table, SymbolTable.ofSymbols, List.map_map] at hb
  exact List.mem_map.mp hb

/-! ## Expansion -/

/-- Where includes lead only to files that are known or have no text, expanding the includes of a
known file goes the same ways as following its edges. -/
theorem reflTransGen_includes_iff_expands {w : Workspace} (h : Current disk w)
    (hw : Consistent w) (hfresh : Fresh disk w)
    (hends : ∀ l f, w.files.get? l = some f → ∀ p ∈ f.edges,
      w.files.contains p.2.target = true ∨ w.currentText? disk p.2.target = none)
    {l : Location} (hl : w.files.contains l = true) (v : Location) :
    ReflTransGen (Includes w.index.tables) l v ↔ ReflTransGen (Expands disk w) l v := by
  constructor
  · intro hv
    induction hv with
    | refl => exact ReflTransGen.refl
    | tail _ hab ih =>
        obtain ⟨f, hf, -⟩ := hw.exists_edge_of_includes hab
        exact ih.tail ((h.includes_iff_expands hw hfresh hf _).mp hab)
  · intro hv
    -- A file from which the expansion goes on has a text, so it is known.
    have hboth : ReflTransGen (Includes w.index.tables) l v ∧
        (w.files.contains v = true ∨ w.currentText? disk v = none) := by
      induction hv with
      | refl => exact ⟨ReflTransGen.refl, Or.inl hl⟩
      | tail _ hstep ih =>
          obtain ⟨hla, hknown | hdead⟩ := ih
          · obtain ⟨f, hf⟩ := Catalog.contains_iff.mp hknown
            have hab := (h.includes_iff_expands hw hfresh hf _).mpr hstep
            obtain ⟨f, hf, p, hp, rfl⟩ := hw.exists_edge_of_includes hab
            exact ⟨hla.tail hab, hends _ f hf p hp⟩
          · obtain ⟨text, htext, -⟩ := hstep
            rw [hdead] at htext
            cases htext
    exact hboth.1

/-- After any history, once all edges are renewed, the index says what the current texts say, as
long as no file of the disk is where the placeholders are. -/
theorem fromTexts_reresolve {events : List Event} (hevents : ∀ e ∈ events, e.IsFaithful disk)
    (hdisk : disk.NothingUnder Reference.builtinDirectory) :
    FromTexts disk ((after disk events).reresolve disk) := by
  have hw := (consistent_after disk events).toGrounded.reresolve disk
  have hcurrent := (current_after hevents).reresolve (consistent_after disk events).toGrounded
  have hfresh := fresh_reresolve (after disk events) disk
  refine ⟨?_, ?_⟩
  · intro l t ht
    obtain ⟨f, hf, rfl⟩ := hw.exists_of_table? ht
    obtain ⟨text, htext, houtline⟩ := hcurrent l f hf
    exact ⟨text, htext, by rw [SourceFile.table, hfresh l f hf, houtline]⟩
  · intro hmain l t ht
    have hpath : ((after disk events).reresolve disk).index.config.resolveMainPath disk =
        .ok none := by
      rw [Config.resolveMainPath, hmain]
    obtain ⟨f, hf, -⟩ := hw.exists_of_table? ht
    have hexpand := reflTransGen_includes_iff_expands hcurrent hw hfresh
      (fun _ _ hf _ hp => hfresh.known_or_currentText?_eq_none hw hdisk
        (fun _ hwanted => settled_loadDependencies _ disk hwanted) hf hp)
      (Catalog.contains_iff.mpr ⟨f, hf⟩)
    obtain ⟨seen, hseen, -, hmem⟩ := Index.exists_visible_of_ok hpath l
    refine ⟨seen, hseen, fun v => ?_⟩
    rw [hmem v, ← hexpand v, reflTransGen_iff_eq_or_transGen]
    simp [Config.mainAt_iff hpath, Reaches]

/-- A folder with two files, of which the first includes the second. -/
def pairOnDisk : Disk where
  root := .dir [(Text.octets "w".toList, .dir
    [(Text.octets "a.sp".toList, .file (some "#include \"b\"")),
      (Text.octets "b.inc".toList, .file (some "int g_B;"))])]

/-- The outlines of the two files on disk. -/
def pairFound : List (Location × Outline) :=
  [(.ofSegments ["w", "a.sp"], Outline.ofText "#include \"b\""),
    (.ofSegments ["w", "b.inc"], Outline.ofText "int g_B;")]

/-- The folder is scanned, and the second file is opened with a text that includes a file that is
nowhere. -/
def pairHistory : List Event :=
  [.scanned pairFound, .opened (.ofSegments ["w", "b.inc"]) "#include \"c\"" none]

theorem fromTexts_reresolve_pair :
    (∀ e ∈ pairHistory, e.IsFaithful pairOnDisk) ∧
      pairOnDisk.NothingUnder Reference.builtinDirectory ∧
      ((after pairOnDisk pairHistory).reresolve pairOnDisk).index.config.mainPath = none ∧
      (((after pairOnDisk pairHistory).reresolve pairOnDisk).index.table?
        (.ofSegments ["w", "a.sp"])).isSome = true ∧
      FromTexts pairOnDisk ((after pairOnDisk pairHistory).reresolve pairOnDisk) := by
  have hevents : ∀ e ∈ pairHistory, e.IsFaithful pairOnDisk := by
    intro e he
    rcases List.mem_cons.mp he with rfl | he
    · refine ⟨[.ofSegments ["w"]], ?_⟩
      have hroot : (Location.ofSegments ["w"]).filePath? = some (.ofString "/w") := by
        decide +kernel
      have hfound : (pairOnDisk.filesBelow (.ofString "/w")).filterMap (scanFile? pairOnDisk) =
          pairFound := by
        decide +kernel
      rw [List.flatMap_singleton, scanFolder, hroot]
      simp only [hfound]
      exact (List.mergeSort_perm _ _).symm
    · rw [List.mem_singleton.mp he]
      trivial
  have hdisk : pairOnDisk.NothingUnder Reference.builtinDirectory := by
    intro entries hfind
    have hnone : (pairOnDisk.find? Reference.builtinDirectory).isNone = true := by decide +kernel
    rw [hfind] at hnone
    cases hnone
  exact ⟨hevents, hdisk, by decide +kernel, by decide +kernel, fromTexts_reresolve hevents hdisk⟩

end PawnScope.Workspace
