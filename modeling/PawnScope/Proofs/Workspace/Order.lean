import PawnScope.Proofs.Include.Resolution
import PawnScope.Proofs.Workspace.History
import Mathlib.Data.List.Pairwise

/-! # Order does not matter

Known files are visited in some order when all of them are indexed again, the missing files of a
round are read in some order, and a scan lists what it finds in some order. None of these orders
shows in what can be looked up afterwards, since files are resolved under one registry and one
configuration from the first to the last, and no two of them have one location. -/

namespace PawnScope.Workspace

variable {disk : Disk}

/-! ## The same content -/

/-- Every look-up gives the same in both workspaces. Their entries may stand in different orders. -/
structure SameContent (w w' : Workspace) : Prop where
  buffers : ∀ l, w'.buffers.get? l = w.buffers.get? l
  folders : w'.folders = w.folders
  registry : ∀ name, w'.index.registry.resolve? name = w.index.registry.resolve? name
  config : w'.index.config = w.index.config
  files : ∀ l, w'.files.get? l = w.files.get? l
  tables : ∀ l, w'.index.table? l = w.index.table? l

namespace SameContent

variable {w w' : Workspace}

theorem refl (w : Workspace) : SameContent w w :=
  ⟨fun _ => rfl, rfl, fun _ => rfl, rfl, fun _ => rfl, fun _ => rfl⟩

theorem contains_eq (h : SameContent w w') (l : Location) :
    w'.files.contains l = w.files.contains l := by
  rw [Catalog.contains, Catalog.contains, h.files]

theorem fileOf_eq (h : SameContent w w') (disk : Disk) (o : Outline) :
    w'.fileOf disk o = w.fileOf disk o := by
  have hresolve : w'.index.resolve disk = w.index.resolve disk := by
    funext reference isBuiltin
    rw [Index.resolve, Index.resolve, h.config]
    exact Reference.resolve_eq_of_resolve? disk h.registry _ reference isBuiltin
  rw [fileOf, fileOf, Index.edgesOf, Index.edgesOf, Index.resolveAll, Index.resolveAll, hresolve,
    h.config]

theorem mem_missing_iff (h : SameContent w w') {tried tried' : List Location}
    (htried : ∀ l, l ∈ tried' ↔ l ∈ tried) (l : Location) :
    l ∈ w'.missing disk tried' ↔ l ∈ w.missing disk tried := by
  have hmain : w'.index.main? disk = w.index.main? disk := by
    rw [Index.main?, Index.main?, Index.mainLocation, Index.mainLocation, h.config]
  simp only [Workspace.mem_missing_iff, mem_wanted_iff, Settled, h.files, hmain, h.contains_eq,
    htried]

theorem missing_eq_nil_iff (h : SameContent w w') {tried tried' : List Location}
    (htried : ∀ l, l ∈ tried' ↔ l ∈ tried) :
    w'.missing disk tried' = [] ↔ w.missing disk tried = [] := by
  simp only [List.eq_nil_iff_forall_not_mem, h.mem_missing_iff htried]

/-- Files and tables may be written in both workspaces, as long as the same can be looked up. -/
theorem write {v v' : Workspace} (h : SameContent w w') (hv : SameSetting w v)
    (hv' : SameSetting w' v')
    (heq : ∀ l, v'.files.get? l = v.files.get? l ∧ v'.index.table? l = v.index.table? l) :
    SameContent v v' where
  buffers l := by rw [hv.buffers, hv'.buffers, h.buffers]
  folders := by rw [hv.folders, hv'.folders, h.folders]
  registry name := by rw [hv.registry, hv'.registry, h.registry]
  config := by rw [hv.config, hv'.config, h.config]
  files l := (heq l).1
  tables l := (heq l).2

/-! ## Visiting the known files -/

/-- All known files may be indexed again in any order. -/
theorem reindex (h : SameContent w w') {visited : List (Location × SourceFile)}
    (hvisited : visited.Perm w'.files.entries) :
    SameContent (w.rebuild disk) (w'.reindex disk visited) := by
  apply h.write (sameSetting_rebuild w disk) (sameSetting_reindex w' disk visited)
  have hkeys : (visited.map Prod.fst).Perm w'.files.keys := hvisited.map Prod.fst
  intro l
  cases hf : w.files.get? l with
  | none =>
      have hf' : w'.files.get? l = none := (h.files l).trans hf
      have hl : l ∉ visited.map Prod.fst := by
        rw [hkeys.mem_iff]
        exact Catalog.get?_eq_none_iff.mp hf'
      obtain ⟨hfile, htable⟩ := reindex_of_notMem w' disk visited hl
      rw [hfile, htable, get?_rebuild, table?_rebuild_of_unknown hf, hf, hf', h.tables]
      exact ⟨rfl, rfl⟩
  | some f =>
      have hl : (l, f) ∈ visited := by
        rw [hvisited.mem_iff, Catalog.mem_entries_iff, h.files, hf]
      obtain ⟨hfile, htable⟩ :=
        reindex_of_mem w' disk visited (hkeys.nodup_iff.mpr w'.files.nodup) hl
      rw [hfile, htable, get?_rebuild, table?_rebuild_of_known hf, hf, h.fileOf_eq]
      exact ⟨rfl, rfl⟩

/-! ## Reading missing files -/

/-- What loading leads to is determined by which files are known in the end. -/
theorem loads {v v' : Workspace} (h : SameContent w w') (hv : Loads disk w v)
    (hv' : Loads disk w' v') (hknown : ∀ l, v'.files.contains l = v.files.contains l) :
    SameContent v v' := by
  apply h.write hv.toSameSetting hv'.toSameSetting
  intro l
  cases hf : w.files.get? l with
  | some f =>
      obtain ⟨hfile, htable⟩ := hv.known l f hf
      obtain ⟨hfile', htable'⟩ := hv'.known l f ((h.files l).trans hf)
      rw [hfile, hfile', htable, htable', h.tables]
      exact ⟨rfl, rfl⟩
  | none =>
      cases hfile : v.files.get? l with
      | none =>
          have hfile' : v'.files.get? l = none := by
            rw [← Catalog.contains_eq_false_iff, hknown, Catalog.contains_eq_false_iff, hfile]
          rw [hfile', hv.unknown l hfile, hv'.unknown l hfile', h.tables]
          exact ⟨rfl, rfl⟩
      | some f =>
          have hcontains : v'.files.contains l = true := by
            rw [hknown, Catalog.contains_iff]
            exact ⟨f, hfile⟩
          obtain ⟨f', hfile'⟩ := Catalog.contains_iff.mp hcontains
          obtain ⟨text, htext, rfl, htable⟩ := hv.loaded l f hf hfile
          obtain ⟨text', htext', rfl, htable'⟩ :=
            hv'.loaded l f' ((h.files l).trans hf) hfile'
          obtain rfl : text' = text := Option.some.inj (htext'.symm.trans htext)
          rw [hfile', htable, htable', h.fileOf_eq]
          exact ⟨rfl, rfl⟩

/-- The files tried after a round, whatever its order. -/
theorem mem_tried_iff (h : SameContent w w') {tried tried' found : List Location}
    (htried : ∀ l, l ∈ tried' ↔ l ∈ tried) (hfound : found.Perm (w'.missing disk tried'))
    (l : Location) : l ∈ tried' ++ found ↔ l ∈ tried ++ w.missing disk tried := by
  rw [List.mem_append, List.mem_append, htried, hfound.mem_iff, h.mem_missing_iff htried]

/-- The missing files of a round may be read in any order. -/
theorem round (h : SameContent w w') {tried tried' found : List Location}
    (htried : ∀ l, l ∈ tried' ↔ l ∈ tried) (hfound : found.Perm (w'.missing disk tried')) :
    SameContent (w.loadAll disk (w.missing disk tried)) (w'.loadAll disk found) := by
  have hmem : ∀ l, l ∈ found ↔ l ∈ w.missing disk tried := by
    intro l
    rw [hfound.mem_iff, h.mem_missing_iff htried]
  have hnew : ∀ l ∈ found, w'.files.get? l = none := by
    intro l hl
    have hunsettled := (Workspace.mem_missing_iff.mp (hfound.mem_iff.mp hl)).2
    rw [← Catalog.contains_eq_false_iff, Bool.eq_false_iff]
    exact fun hknown => hunsettled (Or.inl hknown)
  apply h.loads (loads_round disk w tried) ((Loads.refl disk w').loadAll hnew)
  intro l
  rw [Bool.eq_iff_iff, contains_loadAll_iff, contains_loadAll_iff, h.contains_eq, hmem]

end SameContent

/-! ## Rounds -/

theorem loadRounds_of_missing_eq_nil {w : Workspace} {tried : List Location}
    (h : w.missing disk tried = []) (fuel : Nat) : loadRounds disk fuel tried w = w := by
  cases fuel with
  | zero => rfl
  | succ fuel => rw [loadRounds, h]

theorem loadRounds_succ (fuel : Nat) (tried : List Location) (w : Workspace) :
    loadRounds disk (fuel + 1) tried w =
      loadRounds disk fuel (tried ++ w.missing disk tried)
        (w.loadAll disk (w.missing disk tried)) := by
  cases h : w.missing disk tried with
  | nil =>
      rw [loadRounds_of_missing_eq_nil h, List.append_nil]
      exact (loadRounds_of_missing_eq_nil h fuel).symm
  | cons l found => rw [loadRounds, h]

theorem SameContent.loadRounds {w w' : Workspace} (h : SameContent w w')
    {tried tried' : List Location} (htried : ∀ l, l ∈ tried' ↔ l ∈ tried) (fuel : Nat) :
    SameContent (loadRounds disk fuel tried w) (loadRounds disk fuel tried' w') := by
  induction fuel generalizing w w' tried tried' with
  | zero => exact h
  | succ fuel ih =>
      rw [loadRounds_succ, loadRounds_succ]
      exact ih (h.round htried (List.Perm.refl _)) (h.mem_tried_iff htried (List.Perm.refl _))

/-- Whatever the order in which the missing files of each round are read, loading ends, and with a
workspace that meets the goal. -/
inductive LoadingEnds (disk : Disk) (goal : Workspace → Prop) : List Location → Workspace → Prop
  | ended {tried : List Location} {w : Workspace} (hmissing : w.missing disk tried = [])
      (hgoal : goal w) : LoadingEnds disk goal tried w
  | round {tried : List Location} {w : Workspace} (hmissing : w.missing disk tried ≠ [])
      (hround : ∀ found, found.Perm (w.missing disk tried) →
        LoadingEnds disk goal (tried ++ found) (w.loadAll disk found)) :
      LoadingEnds disk goal tried w

namespace SameContent

variable {w w' : Workspace} {tried tried' : List Location}

/-- One round in any order, and what is left after it. -/
theorem loadingEnds_succ {fuel : Nat} (h : SameContent w w')
    (htried : ∀ l, l ∈ tried' ↔ l ∈ tried)
    (hnext : w.missing disk tried ≠ [] → ∀ {v' : Workspace} {tried'' : List Location},
      SameContent (w.loadAll disk (w.missing disk tried)) v' →
      (∀ l, l ∈ tried'' ↔ l ∈ tried ++ w.missing disk tried) →
      LoadingEnds disk (SameContent (Workspace.loadRounds disk fuel (tried ++ w.missing disk tried)
        (w.loadAll disk (w.missing disk tried)))) tried'' v') :
    LoadingEnds disk (SameContent (Workspace.loadRounds disk (fuel + 1) tried w)) tried' w' := by
  by_cases hmissing : w.missing disk tried = []
  · apply LoadingEnds.ended ((h.missing_eq_nil_iff htried).mpr hmissing)
    rwa [loadRounds_of_missing_eq_nil hmissing]
  · rw [loadRounds_succ]
    apply LoadingEnds.round (mt (h.missing_eq_nil_iff htried).mp hmissing)
    intro found hfound
    exact hnext hmissing (h.round htried hfound) (h.mem_tried_iff htried hfound)

/-- The texts that want something missing get fewer in each round, whatever its order. -/
theorem loadingEnds_loadRounds (h : SameContent w w') (htried : ∀ l, l ∈ tried' ↔ l ∈ tried)
    (hdisk : FromDisk disk w tried) {fuel : Nat}
    (hfuel : (unsettledTexts disk w tried).length ≤ fuel) :
    LoadingEnds disk (SameContent (Workspace.loadRounds disk fuel tried w)) tried' w' := by
  induction fuel generalizing w w' tried tried' with
  | zero =>
      have hmissing : w.missing disk tried = [] := by
        by_contra hne
        have := length_unsettledTexts_round hdisk hne
        omega
      exact LoadingEnds.ended ((h.missing_eq_nil_iff htried).mpr hmissing) h
  | succ fuel ih =>
      apply h.loadingEnds_succ htried
      intro hmissing v' tried'' hv htried''
      have hlt := length_unsettledTexts_round hdisk hmissing
      exact ih hv htried'' (fromDisk_round w tried) (by omega)

theorem loadingEnds (h : SameContent w w') (disk : Disk) :
    LoadingEnds disk (SameContent (w.loadDependencies disk)) [] w' := by
  apply h.loadingEnds_succ (fun _ => Iff.rfl)
  intro _ v' tried hv htried
  -- What the first round reads may be wanted by open documents; the rounds after it go by the disk.
  apply hv.loadingEnds_loadRounds htried (fromDisk_round w [])
  exact Nat.le_trans (List.length_filter_le _ _) disk.length_texts_le

theorem loadDependencies (h : SameContent w w') (disk : Disk) :
    SameContent (w.loadDependencies disk) (w'.loadDependencies disk) :=
  h.loadRounds (fun _ => Iff.rfl) _

theorem reresolve (h : SameContent w w') (disk : Disk) :
    SameContent (w.reresolve disk) (w'.reresolve disk) :=
  (h.reindex (List.Perm.refl _)).loadDependencies disk

end SameContent

/-- Loading what is missing ends with the same content whatever the order in which the files of each
round are read. So does resolving everything again, and also whatever the order in which the known
files are visited before. -/
theorem sameContent_in_any_order (w : Workspace) (disk : Disk) :
    LoadingEnds disk (SameContent (w.loadDependencies disk)) [] w ∧
      ∀ visited, visited.Perm w.files.entries →
        LoadingEnds disk (SameContent (w.reresolve disk)) [] (w.reindex disk visited) := by
  constructor
  · exact (SameContent.refl w).loadingEnds disk
  · intro visited hvisited
    exact ((SameContent.refl w).reindex hvisited).loadingEnds disk

/-! ## Scans -/

/-- Values under different keys may be written in any order. -/
theorem foldl_write_perm {β κ α : Type} [DecidableEq κ] {key : β → Option κ} {value : β → α}
    {es es' : List β} (h : es'.Perm es) (hkeys : (es.filterMap key).Nodup) (g : κ → Option α) :
    es'.foldl (fun g e k => if key e = some k then some (value e) else g k) g =
      es.foldl (fun g e k => if key e = some k then some (value e) else g k) g := by
  -- Two entries with one key are the same entry.
  have hsame : ∀ d ∈ es, ∀ e ∈ es, ∀ k, key d = some k → key e = some k → d = e := by
    intro d hd e he k hdk hek
    rw [List.Nodup, List.pairwise_filterMap] at hkeys
    have hsymm : Std.Symm fun a a' : β => ∀ b, key a = some b → ∀ b', key a' = some b' → b ≠ b' :=
      ⟨fun _ _ h b hb b' hb' => (h b' hb' b hb).symm⟩
    by_contra hne
    exact hkeys.forall hd he hne k hdk k hek rfl
  refine h.foldl_eq' ?_ g
  intro d hd e he g
  funext k
  by_cases hdk : key d = some k
  · by_cases hek : key e = some k
    · rw [hsame d (h.mem_iff.mp hd) e (h.mem_iff.mp he) k hdk hek]
    · simp [hdk, hek]
  · by_cases hek : key e = some k
    · simp [hdk, hek]
    · simp [hdk, hek]

theorem resolve?_foldl_register_eq (found : List (Location × Outline)) (r : Registry) :
    (found.foldl (fun r e => r.register e.1) r).resolve? =
      found.foldl (fun g e name => if e.1.baseName? = some name then some e.1 else g name)
        r.resolve? := by
  apply Eq.symm
  apply List.foldl_hom Registry.resolve?
  intro r e
  funext name
  exact (Registry.resolve?_register r e.1 name).symm

theorem get?_foldl_insert_eq (found : List (Location × Outline))
    (files : Catalog Location SourceFile) :
    (found.foldl (fun m e => m.insert e.1 ⟨e.2, []⟩) files).get? =
      found.foldl (fun g e l => if some e.1 = some l then some ⟨e.2, []⟩ else g l) files.get? := by
  apply Eq.symm
  apply List.foldl_hom Catalog.get?
  intro m e
  funext l
  simp only [Catalog.get?_insert, Option.some_inj]

variable {w : Workspace} {found found' : List (Location × Outline)}

/-- Files with different locations and different base names may be taken in in any order. -/
theorem sameContent_takeIn (hfound : found'.Perm found) (hlocations : (found.map Prod.fst).Nodup)
    (hnames : (found.filterMap (·.1.baseName?)).Nodup) :
    SameContent (w.takeIn found) (w.takeIn found') := by
  have hclosed : ((found.filter fun e => !w.buffers.contains e.1).filterMap
      fun e => some e.1).Nodup := by
    rw [List.filterMap_eq_map']
    exact (List.filter_sublist.map Prod.fst).nodup hlocations
  refine ⟨fun _ => rfl, rfl, ?_, ?_, ?_, ?_⟩
  · intro name
    rw [takeIn, takeIn, foldl_register_eq, foldl_register_eq]
    simp only [resolve?_foldl_register_eq]
    rw [foldl_write_perm hfound hnames]
  · rw [takeIn, takeIn, foldl_register_eq, foldl_register_eq]
  · intro l
    rw [takeIn, takeIn, get?_foldl_insert_eq, get?_foldl_insert_eq,
      foldl_write_perm (hfound.filter _) hclosed]
  · intro l
    rw [takeIn, takeIn, foldl_register_eq, foldl_register_eq]
    rfl

/-- A scan that finds files with different locations and different base names leads to the same
content whatever the order in which it lists them, whether some of them are open or not. -/
theorem applyScan_perm (w : Workspace) (disk : Disk) (hfound : found'.Perm found)
    (hlocations : (found.map Prod.fst).Nodup) (hnames : (found.filterMap (·.1.baseName?)).Nodup) :
    SameContent (w.applyScan disk found) (w.applyScan disk found') :=
  (sameContent_takeIn hfound hlocations hnames).reresolve disk

/-- A disk with two headers that include each other and a third that both include. -/
def cycleOnDisk : Disk where
  root := .dir [(Text.octets "a.inc".toList, .file (some "#include \"b\"\n#include \"c\"")),
    (Text.octets "b.inc".toList, .file (some "#include \"a\"\n#include \"c\"")),
    (Text.octets "c.inc".toList, .file (some "int g_Disk;"))]

/-- The outlines of the three headers on disk. -/
def cycleFound : List (Location × Outline) :=
  [(.ofSegments ["a.inc"], Outline.ofText "#include \"b\"\n#include \"c\""),
    (.ofSegments ["b.inc"], Outline.ofText "#include \"a\"\n#include \"c\""),
    (.ofSegments ["c.inc"], Outline.ofText "int g_Disk;")]

/-- The third header is open when the headers are scanned in both orders. -/
theorem applyScan_perm_cycle :
    cycleFound.reverse.Perm cycleFound ∧ (cycleFound.map Prod.fst).Nodup ∧
      (cycleFound.filterMap (·.1.baseName?)).Nodup ∧
      SameContent
        ((after cycleOnDisk [.opened (.ofSegments ["c.inc"]) "int g_Open;" none]).applyScan
          cycleOnDisk cycleFound)
        ((after cycleOnDisk [.opened (.ofSegments ["c.inc"]) "int g_Open;" none]).applyScan
          cycleOnDisk cycleFound.reverse) := by
  have hfound := List.reverse_perm cycleFound
  have hlocations : (cycleFound.map Prod.fst).Nodup := by decide +kernel
  have hnames : (cycleFound.filterMap (·.1.baseName?)).Nodup := by decide +kernel
  exact ⟨hfound, hlocations, hnames, applyScan_perm _ cycleOnDisk hfound hlocations hnames⟩

end PawnScope.Workspace
