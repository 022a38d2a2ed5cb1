import PawnScope.Proofs.Include.Resolution
import PawnScope.Proofs.Workspace.History

/-! # Fresh edges

The edges of a known file are fresh if its includes still lead where they led when the file was
indexed. Most events keep edges fresh or renew all of them. There is one exception: when a known
file is indexed again it takes its base name, and other files that include this name keep the edges
that they had. A history has no stale edges at any time exactly if it never does so to a file whose
edges led elsewhere. -/

namespace PawnScope

/-! ## Registration -/

theorem Index.edgesOf_register_eq_iff (x : Index) (disk : Disk) (l : Location) (o : Outline) :
    (x.register l).edgesOf disk o = x.edgesOf disk o ↔
      ∀ p ∈ x.edgesOf disk o, l.baseName? = some (Reference.lookupName p.1.reference) →
        p.2.target = l := by
  have hconfig : (x.register l).config = x.config := rfl
  rw [edgesOf, edgesOf, resolveAll, resolveAll, hconfig, List.map_inj_left, List.forall_mem_map]
  apply forall₂_congr
  intro i _
  have hresolve := Reference.resolve_register disk x.registry x.config.includeDirectories
    i.reference i.isBuiltin l
  change (i, Reference.resolve disk (x.registry.register l) x.config.includeDirectories
    i.reference i.isBuiltin) = (i, _) ↔ _
  rw [hresolve]
  by_cases h : l.baseName? = some (Reference.lookupName i.reference)
  · have hedge : (⟨l, i.isBuiltin⟩ : Edge) = x.resolve disk i.reference i.isBuiltin ↔
        (x.resolve disk i.reference i.isBuiltin).target = l := by
      constructor
      · intro he
        rw [← he]
      · intro ht
        rw [← ht]
        rfl
    simpa [h] using hedge
  · simp [h]
    rfl

namespace Workspace

/-! ## Freshness -/

/-- Every known file has the edges that its includes have now. -/
def Fresh (disk : Disk) (w : Workspace) : Prop :=
  ∀ l f, w.files.get? l = some f →
    f.edges = w.index.resolveAll disk (w.index.config.effectiveIncludes f.outline)

instance (disk : Disk) (w : Workspace) : Decidable (Fresh disk w) :=
  decidable_of_iff (∀ e ∈ w.files.entries,
      e.2.edges = w.index.resolveAll disk (w.index.config.effectiveIncludes e.2.outline)) <| by
    simp only [Fresh, Prod.forall, Catalog.mem_entries_iff]

/-- Every table belongs to a known file and has the edges that the includes of this file have
now. -/
def NoStaleEdges (disk : Disk) (w : Workspace) : Prop :=
  ∀ l t, w.index.table? l = some t → ∃ f, w.files.get? l = some f ∧
    t.includes = f.edges.map (·.2) ∧
    f.edges = w.index.resolveAll disk (w.index.config.effectiveIncludes f.outline)

variable {disk : Disk}

theorem Consistent.noStaleEdges_iff {w : Workspace} (h : Consistent w) :
    NoStaleEdges disk w ↔ Fresh disk w := by
  constructor
  · intro hstale l f hf
    obtain ⟨f', hf', -, hedges⟩ := hstale l (f.table l) (h.table? l f hf)
    rw [hf] at hf'
    obtain rfl := Option.some.inj hf'
    exact hedges
  · intro hfresh l t ht
    obtain ⟨f, hf, rfl⟩ := h.exists_of_table? ht
    exact ⟨f, hf, rfl, hfresh l f hf⟩

theorem fresh_empty (disk : Disk) : Fresh disk {} := by
  intro l f h
  cases h

theorem fresh_rebuild (w : Workspace) (disk : Disk) : Fresh disk (w.rebuild disk) := by
  intro l f hf
  rw [get?_rebuild, Option.map_eq_some_iff] at hf
  obtain ⟨f, -, rfl⟩ := hf
  exact ((sameSetting_rebuild w disk).edgesOf_eq disk f.outline).symm

/-- Files that are loaded have fresh edges, and those of other files stay as they are. -/
theorem Loads.fresh_iff {w w' : Workspace} (h : Loads disk w w') :
    Fresh disk w' ↔ Fresh disk w := by
  have hedges := h.toSameSetting.edgesOf_eq disk
  constructor
  · intro hfresh l f hf
    exact (hfresh l f (h.known l f hf).1).trans (hedges f.outline)
  · intro hfresh l f hf
    apply Eq.trans _ (hedges f.outline).symm
    rcases h.known_or_loaded hf with ⟨hold, -⟩ | ⟨-, text, -, rfl, -⟩
    · exact hfresh l f hold
    · rfl

theorem fresh_reresolve (w : Workspace) (disk : Disk) : Fresh disk (w.reresolve disk) :=
  (loads_loadDependencies (w.rebuild disk) disk).fresh_iff.mpr (fresh_rebuild w disk)

/-! ## Indexing a text -/

/-- The edges of the other known files stay fresh when a file is registered. -/
def OthersFresh (disk : Disk) (w : Workspace) (l : Location) : Prop :=
  ∀ k f, k ≠ l → w.files.get? k = some f → f.edges = (w.index.register l).edgesOf disk f.outline

theorem fresh_register_indexOutline_iff (w : Workspace) (disk : Disk) (l : Location)
    (o : Outline) :
    Fresh disk ({ w with index := w.index.register l }.indexOutline disk l o) ↔
      OthersFresh disk w l := by
  constructor
  · intro h k f hk hf
    apply h k f
    rw [get?_indexOutline, if_neg (Ne.symm hk)]
    exact hf
  · intro h k f hf
    rw [get?_indexOutline] at hf
    by_cases hlk : l = k
    · rw [if_pos hlk] at hf
      obtain rfl := Option.some.inj hf
      rfl
    · rw [if_neg hlk] at hf
      exact h k f (Ne.symm hlk) hf

/-- A file that was not known makes all edges fresh; otherwise the edges of other files stay. -/
theorem fresh_indexText_iff (w : Workspace) (disk : Disk) (l : Location) (text : String) :
    Fresh disk (w.indexText disk l text) ↔
      w.files.contains l = false ∨ OthersFresh disk w l := by
  have hstep := fresh_register_indexOutline_iff w disk l (Outline.ofText text)
  rw [indexText]
  split
  · rename_i hnew
    simp only [Bool.and_eq_true, Bool.not_eq_true'] at hnew
    exact ⟨fun _ => Or.inl hnew.1, fun _ => fresh_reresolve _ disk⟩
  · rename_i hold
    rw [(loads_loadDependencies _ disk).fresh_iff, hstep]
    refine ⟨Or.inr, ?_⟩
    rintro (hnew | hothers)
    · -- The file is the only one, so there are no others.
      intro k f hk hf
      simp only [hnew, Bool.not_false, Bool.true_and, decide_eq_true_eq, Nat.not_lt] at hold
      refine absurd (Catalog.eq_of_contains_of_size_le_one hold ?_ ?_) hk
      · simp [indexOutline, Catalog.contains_insert, Catalog.contains_iff.mpr ⟨f, hf⟩]
      · simp [indexOutline, Catalog.contains_insert]
    · exact hothers

/-- Another known file includes the base name of a file, and its edge leads elsewhere. -/
def IncludedElsewhere (w : Workspace) (l : Location) : Prop :=
  ∃ k f, k ≠ l ∧ w.files.get? k = some f ∧ ∃ p ∈ f.edges,
    l.baseName? = some (Reference.lookupName p.1.reference) ∧ p.2.target ≠ l

theorem Fresh.othersFresh_iff {w : Workspace} (h : Fresh disk w) (l : Location) :
    OthersFresh disk w l ↔ ¬w.IncludedElsewhere l := by
  have hfile : ∀ k f, w.files.get? k = some f →
      (f.edges = (w.index.register l).edgesOf disk f.outline ↔
        ∀ p ∈ f.edges, l.baseName? = some (Reference.lookupName p.1.reference) →
          p.2.target = l) := by
    intro k f hf
    have hedges : f.edges = w.index.edgesOf disk f.outline := h k f hf
    rw [hedges, eq_comm]
    exact Index.edgesOf_register_eq_iff w.index disk l f.outline
  constructor
  · rintro hothers ⟨k, f, hk, hf, p, hp, hname, htarget⟩
    exact htarget ((hfile k f hf).mp (hothers k f hk hf) p hp hname)
  · intro hnone k f hk hf
    apply (hfile k f hf).mpr
    intro p hp hname
    by_contra htarget
    exact hnone ⟨k, f, hk, hf, p, hp, hname, htarget⟩

/-! ## Events -/

/-- The location at which an event indexes a text, if it does. -/
def indexedBy (w : Workspace) (disk : Disk) : Event → Option Location
  | .opened l _ _ => some l
  | .changed l _ _ => if w.buffers.contains l then some l else none
  | .closed l => if (readText? disk l).isSome then some l else none
  | .indexed l _ => some l
  | _ => none

/-- An event indexes a known file again, and another known file includes its base name and is led
elsewhere. -/
def TakesOver (w : Workspace) (disk : Disk) (e : Event) : Prop :=
  ∃ l, w.indexedBy disk e = some l ∧ w.files.contains l = true ∧ w.IncludedElsewhere l

theorem Fresh.indexText_iff {w : Workspace} (h : Fresh disk w) (l : Location) (text : String) :
    Fresh disk (w.indexText disk l text) ↔
      ¬(w.files.contains l = true ∧ w.IncludedElsewhere l) := by
  rw [fresh_indexText_iff, h.othersFresh_iff, not_and_or, Bool.not_eq_true]

/-- Edges stay fresh under a configuration by which includes lead to the same files. -/
theorem Fresh.withConfig {w : Workspace} (h : Fresh disk w) {config : Config}
    (hsame : w.index.config.includesDiffer config = false) :
    Fresh disk { w with index := { w.index with config := config } } := by
  have hpaths : Config.samePaths w.index.config.includeDirectories
      config.includeDirectories = true := by
    simp [Config.includesDiffer] at hsame
    exact hsame.1
  intro l f hf
  rw [h l f hf]
  apply Eq.symm
  simp only [effectiveIncludes_eq_of_includesDiffer hsame]
  apply List.map_congr_left
  intro i _
  exact congrArg (Prod.mk i)
    (Reference.resolve_eq_of_samePaths disk w.index.registry hpaths _ _).symm

theorem Fresh.setConfig {w : Workspace} (h : Fresh disk w) (config : Config) :
    Fresh disk (w.setConfig disk config) := by
  rw [Workspace.setConfig]
  split
  · exact fresh_reresolve _ disk
  · rename_i hdiffer
    rw [(loads_loadDependencies _ disk).fresh_iff]
    exact h.withConfig (Bool.eq_false_iff.mpr hdiffer)

/-- One event keeps all edges fresh unless it takes a name over. -/
theorem Fresh.perform_iff {w : Workspace} (h : Fresh disk w) (e : Event) :
    Fresh disk (w.perform disk e) ↔ ¬w.TakesOver disk e := by
  have hnone : w.indexedBy disk e = none → ¬w.TakesOver disk e := by
    rintro hnone ⟨l, hl, -⟩
    rw [hnone] at hl
    cases hl
  have hsome : ∀ l, w.indexedBy disk e = some l →
      (w.TakesOver disk e ↔ w.files.contains l = true ∧ w.IncludedElsewhere l) := by
    intro l hl
    simp [TakesOver, hl]
  cases e with
  | addFolder folder => exact iff_of_true h (hnone rfl)
  | settings settings =>
      refine iff_of_true ?_ (hnone rfl)
      rw [Workspace.perform, applySettings?]
      cases w.index.config.applySettings? settings with
      | none => exact h
      | some config => exact h.setConfig config
  | opened l text version =>
      rw [hsome l rfl]
      exact Fresh.indexText_iff (w := { w with buffers := w.buffers.insert l { text, version } })
        h l text
  | changed l changes version =>
      rw [Workspace.perform, changeDocument]
      cases hb : w.buffers.get? l with
      | none =>
          refine iff_of_true h (hnone ?_)
          simp [indexedBy, Catalog.contains, hb]
      | some b =>
          rw [hsome l (by simp [indexedBy, Catalog.contains, hb])]
          exact Fresh.indexText_iff (w := { w with buffers := w.buffers.insert l _ }) h l _
  | closed l =>
      rw [Workspace.perform, closeDocument]
      cases ht : readText? disk l with
      | none => exact iff_of_true (fresh_reresolve _ disk) (hnone (by simp [indexedBy, ht]))
      | some text =>
          rw [hsome l (by simp [indexedBy, ht])]
          exact Fresh.indexText_iff (w := { w with buffers := w.buffers.erase l }) h l text
  | scanned found => exact iff_of_true (fresh_reresolve _ disk) (hnone rfl)
  | indexed l text =>
      rw [hsome l rfl]
      exact h.indexText_iff l text
  | reresolved => exact iff_of_true (fresh_reresolve w disk) (hnone rfl)

/-- No edges are stale at any time of a history exactly if no event of it takes a name over. -/
theorem noStaleEdges_throughout_iff (disk : Disk) (events : List Event) :
    (∀ past, past <+: events → NoStaleEdges disk (after disk past)) ↔
      ∀ past e, past ++ [e] <+: events → ¬(after disk past).TakesOver disk e := by
  simp only [(consistent_after disk _).noStaleEdges_iff]
  constructor
  · intro h past e hpast
    have hbefore : Fresh disk (after disk past) :=
      h past ((List.prefix_append past [e]).trans hpast)
    rw [← hbefore.perform_iff, ← after_concat]
    exact h (past ++ [e]) hpast
  · intro h past hpast
    induction past using List.reverseRecOn with
    | nil => exact fresh_empty disk
    | append_singleton past e ih =>
        have hbefore := ih ((List.prefix_append past [e]).trans hpast)
        rw [after_concat, hbefore.perform_iff]
        exact h past e hpast

/-- A disk with a header below an include directory. -/
def headerOnDisk : Disk where
  root := .dir [(Text.octets "inc".toList, .dir [(Text.octets "x".toList, .dir
    [(Text.octets "util.inc".toList, .file (some ""))])])]

/-- One file includes the header by its path, so that it is known. Another looks for it by its base
name alone and finds nothing, and still does after the header is opened and has this name. -/
theorem staleEdges_after_opened :
    ¬NoStaleEdges headerOnDisk (after headerOnDisk
      [.settings (.obj [("sourcepawn", .obj [("includeDirectories", .arr [.str "/inc"])])]),
        .opened (.ofSegments ["a.sp"]) "#include \"x/util\"" none,
        .opened (.ofSegments ["b.sp"]) "#include \"util\"" none,
        .opened (.ofSegments ["inc", "x", "util.inc"]) "" none]) := by
  rw [(consistent_after _ _).noStaleEdges_iff]
  decide +kernel

end Workspace

end PawnScope
