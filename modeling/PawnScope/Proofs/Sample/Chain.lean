import PawnScope.Proofs.Sample.Files
import PawnScope.Proofs.Visibility.Chain
import PawnScope.Proofs.Workspace.FirstScan

/-! # What the plugin of a sample sees

The headers of a sample form a chain: the plugin includes the first header, and each header includes
a header of the standard library and then the next one, up to the end of the chain. The names that
the includes spell without an extension are those of the files, so that the walk from the plugin
goes down the chain, header by header. -/

namespace PawnScope

namespace Sample

open Text Location Reference

/-! ## Names in includes -/

theorem isName_reference (i : Nat) : IsName (reference i).toList := by
  intro c hc
  apply (isSourceName_headerName i).isName c
  rw [headerName_eq, String.toList_append]
  exact List.mem_append_left _ hc

/-- The reference of a header is looked up by the name of its file. -/
theorem normalize_reference (i : Nat) :
    Reference.normalize (Sample.reference i).toList = (headerName i).toList := by
  have hlist : (Sample.reference i).toList = "file_".toList ++ Nat.toDigits 10 i := by
    rw [reference, String.toList_append, Nat.toList_repr]
  have htrim : trimEnd (Sample.reference i).toList = (Sample.reference i).toList := by
    have hlast : ∀ c ∈ (Sample.reference i).toList.reverse.head?, isSpace c = false :=
      fun c hc => isSpace_of_mem_reference c (List.mem_reverse.mp (List.mem_of_head? hc))
    rw [trimEnd_eq, trimStart_of_head hlast, List.reverse_reverse]
  have hext : Reference.hasExtension (Sample.reference i).toList = false := by
    rw [Bool.eq_false_iff]
    intro hext
    obtain ⟨c, hlast, hc⟩ := exists_getLast?_of_hasExtension hext
    rw [hlist, List.getLast?_append_of_ne_nil _ Nat.toDigits_ne_nil] at hlast
    have hdigit := isDigit_of_mem_toDigits (List.mem_of_getLast? hlast)
    rcases hc with rfl | rfl
    · cases hdigit
    · cases hdigit
  rw [normalize_of_isName (isName_reference i), inferExtension, htrim, hext]
  rw [headerName_eq, String.toList_append]
  rfl

/-- The name by which the header of the standard library is looked up. -/
def builtinName (i : Nat) : String := builtinHeader i ++ ".inc"

theorem normalize_builtinHeader (i : Nat) :
    Reference.normalize (builtinHeader i).toList = (builtinName i).toList := by
  have hname : ∀ h ∈ builtinHeaders, IsName h.toList := by decide
  have hinfer : ∀ h ∈ builtinHeaders, inferExtension h.toList = (h ++ ".inc").toList := by decide
  rw [normalize_of_isName (hname _ (builtinHeader_mem i)), hinfer _ (builtinHeader_mem i)]
  rfl

theorem isSourceName_builtinName (i : Nat) : IsSourceName (builtinName i) := by
  have hall : ∀ h ∈ builtinHeaders, IsName (h ++ ".inc").toList ∧
      IsAscii (h ++ ".inc").toList ∧ h ≠ "" := by decide
  obtain ⟨hname, hascii, hne⟩ := hall _ (builtinHeader_mem i)
  refine ⟨hname, hascii, (builtinHeader i).toList, "inc", by simpa using hne, Or.inl rfl, ?_⟩
  rw [builtinName, String.toList_append]
  rfl

theorem headerName_ne_builtinName (i j : Nat) : headerName i ≠ builtinName j := by
  have hfirst : ∀ h ∈ builtinHeaders, (h ++ ".inc").toList.head? ≠ some 'f' := by decide
  intro h
  apply hfirst _ (builtinHeader_mem j)
  rw [← builtinName, ← h, headerName_eq, reference, String.append_assoc, String.toList_append]
  rfl

theorem pluginName_ne_builtinName (j : Nat) : pluginName ≠ builtinName j := by
  have hall : ∀ h ∈ builtinHeaders, pluginName ≠ h ++ ".inc" := by decide
  exact hall _ (builtinHeader_mem j)

/-- No file of a sample is called like a header of the standard library that it includes. -/
theorem ne_builtinName_of_mem_files {s : Sample} {f : String × String} (hf : f ∈ s.files)
    (i : Nat) : f.1 ≠ builtinName i := by
  rcases mem_files_iff.mp hf with ⟨k, -, rfl⟩ | rfl
  · exact headerName_ne_builtinName k i
  · exact pluginName_ne_builtinName i

/-- The placeholder of the header of the standard library that header `i` includes. -/
def placeholder (i : Nat) : Location := builtinLocation (builtinName i).toList

theorem isBuiltin_placeholder (i : Nat) : (placeholder i).isBuiltin = true := by
  have hname := isSourceName_builtinName i
  rw [placeholder, builtinLocation_of_isName hname.isName hname.hasExtension]
  rfl

/-- The location of header `i` in a directory. -/
def headerLocation (directory : Path) (i : Nat) : Location := fileLocation directory (headerName i)

/-- A file that is not called like a header of the standard library is not where the placeholder of
this header is. -/
theorem fileLocation_ne_placeholder {directory : Path} (hp : directory.isAbsolute = true)
    {name : String} (hname : IsSourceName name) {i : Nat} (hne : name ≠ builtinName i) :
    fileLocation directory name ≠ placeholder i := by
  have hvisible : ∀ h ∈ builtinHeaders,
      Location.visible (h ++ ".inc").toList = (h ++ ".inc").toList := by decide
  have hbuiltin := isSourceName_builtinName i
  intro heq
  have hbase := baseName?_fileLocation hname hp
  obtain ⟨q, hq, hfile⟩ := fileName?_builtinLocation hbuiltin.isName hbuiltin.hasExtension
  rw [builtinName, hvisible _ (builtinHeader_mem i), ← builtinName] at hfile
  rw [heq] at hbase
  apply hne
  rw [eq_of_baseName? hq hfile hbase, baseName_of_isName hbuiltin.isName, String.ofList_toList]

theorem isProper_headerLocation {directory : Path} (hp : directory.isAbsolute = true) :
    Visibility.IsProper (headerLocation directory) placeholder where
  injective := (fileLocation_injective directory).comp headerName_injective
  disjoint i j :=
    fileLocation_ne_placeholder hp (isSourceName_headerName i) (headerName_ne_builtinName i j)

theorem pluginLocation_notMem_chain {directory : Path} (hp : directory.isAbsolute = true) (n : Nat) :
    fileLocation directory pluginName ∉
      Visibility.chain (headerLocation directory) placeholder n := by
  rw [Visibility.mem_chain_iff]
  rintro ⟨i, -, heq | heq⟩
  · exact headerName_ne_pluginName i (fileLocation_injective directory heq).symm
  · exact fileLocation_ne_placeholder hp isSourceName_pluginName (pluginName_ne_builtinName i) heq

/-- Files are outside the directory of the placeholders if their directory is. -/
theorem isBuiltin_fileLocation {directory : Path} {folder : Location}
    (hfolder : ofPath? directory = some folder) (hlocal : folder.isBuiltin = false) {name : String}
    (hname : IsSourceName name) : (fileLocation directory name).isBuiltin = false := by
  cases hsteps : directory.steps with
  | nil =>
      have hfirst : segment (octets name.toList) ≠ builtinNamespace := by
        intro heq
        have hnames := names_map_segment [octets name.toList]
        rw [List.map_singleton, heq] at hnames
        have hoctets : octets builtinNamespace.toList = octets name.toList :=
          List.singleton_inj.mp hnames
        have hext := hname.hasExtension
        rw [← octets_injective hoctets] at hext
        exact absurd hext (by decide)
      simp [fileLocation, hsteps, isBuiltin, ofSegments, segments?, hfirst]
  | cons step steps =>
      obtain ⟨-, rfl⟩ := eq_of_ofPath? hfolder (by simp [hsteps])
      simpa [fileLocation, hsteps, isBuiltin, ofSegments, segments?] using hlocal

/-- Of what the plugin sees, itself included, only the leaves of the chain are placeholders. -/
theorem filter_seen {directory : Path} {folder : Location}
    (hfolder : ofPath? directory = some folder) (hlocal : folder.isBuiltin = false) (n : Nat) :
    (Visibility.chain (headerLocation directory) placeholder n ++
        [fileLocation directory pluginName]).filter (!·.isBuiltin) =
      (List.range n).map (headerLocation directory) ++ [fileLocation directory pluginName] := by
  have hlink : ∀ i, (!(headerLocation directory i).isBuiltin) = true := by
    intro i
    rw [headerLocation, isBuiltin_fileLocation hfolder hlocal (isSourceName_headerName i)]
    rfl
  have hleaf : ∀ i, (!(placeholder i).isBuiltin) = false := by
    intro i
    rw [isBuiltin_placeholder]
    rfl
  have hplugin : [fileLocation directory pluginName].filter (!·.isBuiltin) =
      [fileLocation directory pluginName] := by
    rw [List.filter_singleton, isBuiltin_fileLocation hfolder hlocal isSourceName_pluginName]
    rfl
  have hproper := isProper_headerLocation (isAbsolute_of_ofPath? hfolder)
  rw [List.filter_append, hproper.filter_chain hlink hleaf, hplugin]

/-! ## Where files lead -/

variable {s : Sample} {directory : Path} {d : Disk} {w : Workspace}
  {es : List (Location × Outline)} (hp : directory.isAbsolute = true)
  (hes : es.Perm (s.found directory))

section Registry

include hes

theorem mem_of_mem_files {f : String × String} (hf : f ∈ s.files) :
    (fileLocation directory f.1, Outline.ofText f.2) ∈ es :=
  hes.mem_iff.mpr (List.mem_map_of_mem hf)

theorem exists_of_mem {e : Location × Outline} (he : e ∈ es) :
    ∃ f ∈ s.files, e = (fileLocation directory f.1, Outline.ofText f.2) := by
  obtain ⟨f, hf, rfl⟩ := List.mem_map.mp (hes.mem_iff.mp he)
  exact ⟨f, hf, rfl⟩

theorem nodup_locations : (es.map Prod.fst).Nodup := by
  have hfound : (s.found directory).map Prod.fst =
      (s.files.map (·.1)).map (fileLocation directory) := by
    simp [found]
  rw [(hes.map Prod.fst).nodup_iff, hfound]
  exact s.nodup_names.map (fileLocation_injective directory)

include hp

theorem nodup_baseNames : (es.filterMap (·.1.baseName?)).Nodup := by
  have hfound : (s.found directory).filterMap (·.1.baseName?) = s.files.map (·.1) := by
    rw [found, List.filterMap_map, ← List.filterMap_eq_map']
    apply List.filterMap_congr
    intro f hf
    exact baseName?_fileLocation (isSourceName_of_mem_files hf) hp
  rw [(hes.filterMap _).nodup_iff, hfound]
  exact s.nodup_names

theorem resolve?_file {f : String × String} (hf : f ∈ s.files) :
    (w.takeIn es).index.registry.resolve? f.1 = some (fileLocation directory f.1) :=
  Workspace.IsBlank.resolve?_takeIn (nodup_baseNames hp hes) (mem_of_mem_files hes hf)
    (baseName?_fileLocation (isSourceName_of_mem_files hf) hp)

theorem resolve?_builtinName (hw : w.IsBlank) (i : Nat) :
    (w.takeIn es).index.registry.resolve? (builtinName i) = none := by
  apply hw.resolve?_takeIn_eq_none
  intro e he
  obtain ⟨f, hf, rfl⟩ := exists_of_mem hes he
  rw [baseName?_fileLocation (isSourceName_of_mem_files hf) hp, Ne, Option.some_inj]
  exact ne_builtinName_of_mem_files hf i

theorem resolve_reference {i : Nat} (hi : i < s.fileCount) :
    (w.takeIn es).index.resolve d (reference i) false = ⟨headerLocation directory i, false⟩ := by
  have hbase := baseName_of_isName (isSourceName_headerName i).isName
  have howner := resolve?_file (w := w) hp hes (header_mem_files hi)
  rw [Index.resolve, resolve, normalize_reference, target?, hbase, String.ofList_toList, howner]
  rfl

theorem resolve_builtinHeader (hw : w.IsPlain) (i : Nat) :
    (w.takeIn es).index.resolve d (builtinHeader i) true = ⟨placeholder i, true⟩ := by
  have hbase := baseName_of_isName (isSourceName_builtinName i).isName
  rw [Index.resolve, resolve, normalize_builtinHeader, target?, hbase, String.ofList_toList,
    resolve?_builtinName hp hes hw.toIsBlank, Workspace.config_takeIn, hw.config.includeDirectories]
  rfl

end Registry

section Edges

variable (hcount : 0 < s.fileCount) (hw : w.IsPlain)

include hp hes hw

/-- A header leads to its placeholder, and then to the next header of the chain. -/
theorem edgesOf_header (i : Nat) :
    ((w.takeIn es).index.edgesOf d (Outline.ofText (textOfLines (s.headerLines i)))).map (·.2) =
      ⟨placeholder i, true⟩ ::
        if i < s.chainEnd then [⟨headerLocation directory (i + 1), false⟩] else [] := by
  rw [hw.edgesOf_takeIn, List.map_map, Outline.ofText, includes_header, List.map_cons,
    Function.comp_apply, resolve_builtinHeader hp hes hw]
  split
  · rename_i hi
    rw [List.map_singleton, Function.comp_apply,
      resolve_reference hp hes (lt_chainEnd_iff.mp hi).2]
  · rfl

include hcount

theorem edgesOf_plugin :
    ((w.takeIn es).index.edgesOf d (Outline.ofText (textOfLines s.pluginLines))).map (·.2) =
      [⟨headerLocation directory 0, false⟩] := by
  rw [hw.edgesOf_takeIn, List.map_map, Outline.ofText, includes_plugin hcount, List.map_singleton,
    Function.comp_apply, resolve_reference hp hes hcount]

/-- Each include of a file leads to a placeholder or, if it is quoted, to a header of the sample. -/
theorem edge_cases {f : String × String} (hf : f ∈ s.files) {e : Include × Edge}
    (he : e ∈ (w.takeIn es).index.edgesOf d (Outline.ofText f.2)) :
    (e.1.isBuiltin = true ∧ ∃ k, e.2 = ⟨placeholder k, true⟩) ∨
      ∃ k < s.fileCount, e.2 = ⟨headerLocation directory k, false⟩ := by
  rw [hw.edgesOf_takeIn] at he
  obtain ⟨i, hi, rfl⟩ := List.mem_map.mp he
  rcases include_cases hcount hf hi with ⟨k, hreference, hbuiltin⟩ | ⟨k, hk, hreference, hbuiltin⟩
  · left
    rw [hreference, hbuiltin]
    exact ⟨rfl, k, resolve_builtinHeader hp hes hw k⟩
  · right
    rw [hreference, hbuiltin]
    exact ⟨k, hk, resolve_reference hp hes hk⟩

theorem closedUnder_found : w.ClosedUnder d es := by
  intro e he i hi hresolved
  obtain ⟨f, hf, rfl⟩ := exists_of_mem hes he
  rcases edge_cases hp hes hcount hw hf hi with ⟨-, k, hedge⟩ | ⟨k, hk, hedge⟩
  · rw [hedge, Edge.isUnresolved, isBuiltin_placeholder] at hresolved
    cases hresolved
  · rw [hedge]
    exact List.mem_map_of_mem (mem_of_mem_files hes (header_mem_files hk))

theorem leads_placeholder (i : Nat) :
    Visibility.leads (w.applyScan d es).index.tables (placeholder i) = [] := by
  apply hw.leads_applyScan_eq_nil (nodup_locations hes) hw.config.mainPath
    (closedUnder_found hp hes hcount hw)
  intro hmem
  obtain ⟨e, he, hplaceholder⟩ := List.mem_map.mp hmem
  obtain ⟨f, hf, rfl⟩ := exists_of_mem hes he
  exact fileLocation_ne_placeholder hp (isSourceName_of_mem_files hf)
    (ne_builtinName_of_mem_files hf i) hplaceholder

theorem leads_file {f : String × String} (hf : f ∈ s.files) :
    Visibility.leads (w.applyScan d es).index.tables (fileLocation directory f.1) =
      (((w.takeIn es).index.edgesOf d (Outline.ofText f.2)).map (·.2)).map (·.target) :=
  hw.leads_applyScan (nodup_locations hes) hw.config.mainPath (closedUnder_found hp hes hcount hw)
    (mem_of_mem_files hes hf)

theorem leads_header {i : Nat} (hi : i < s.fileCount) :
    Visibility.leads (w.applyScan d es).index.tables (headerLocation directory i) =
      placeholder i :: if i < s.chainEnd then [headerLocation directory (i + 1)] else [] := by
  rw [headerLocation, leads_file hp hes hcount hw (header_mem_files hi), edgesOf_header hp hes hw]
  split
  · rfl
  · rfl

theorem leads_plugin :
    Visibility.leads (w.applyScan d es).index.tables (fileLocation directory pluginName) =
      [headerLocation directory 0] := by
  rw [leads_file hp hes hcount hw s.plugin_mem_files, edgesOf_plugin hp hes hcount hw]
  rfl

/-! ## What is visible -/

theorem visible_applyScan :
    (w.applyScan d es).index.visible d (fileLocation directory pluginName) =
      .ok (Visibility.chain (headerLocation directory) placeholder (s.chainEnd + 1) ++
        [fileLocation directory pluginName]) := by
  have hmain : (w.applyScan d es).index.mainLocation d = .ok none := by
    apply Workspace.mainLocation_of_mainPath_eq_none
    rw [Workspace.applyScan, (Workspace.sameSetting_reresolve _ d).config,
      Workspace.config_takeIn, hw.config.mainPath]
  have hwalk : Visibility.walkFrom (w.applyScan d es).index.tables
      (fileLocation directory pluginName) [] =
      Visibility.chain (headerLocation directory) placeholder (s.chainEnd + 1) := by
    rw [Visibility.walkFrom_eq_walk, leads_plugin hp hes hcount hw]
    apply (isProper_headerLocation hp).walk_chain _ (leads_placeholder hp hes hcount hw)
      (Nat.zero_le _)
    intro i hi
    apply leads_header hp hes hcount hw
    rw [chainEnd] at hi
    omega
  rw [Index.visible, hmain, hwalk, Visibility.mark, if_neg (pluginLocation_notMem_chain hp _)]
  rfl

/-- The quoted includes of a file lead to headers of the sample. -/
theorem target_of_quoted {f : String × String} (hf : f ∈ s.files) :
    ∃ file, (w.applyScan d es).files.get? (fileLocation directory f.1) = some file ∧
      ∀ e ∈ file.edges, e.1.isBuiltin = false →
        ∃ k < s.fileCount, e.2.target = headerLocation directory k := by
  have hclosed : w.ClosedUnder d es := closedUnder_found hp hes hcount hw
  have hfile := hw.get?_applyScan (nodup_locations hes) hw.config.mainPath hclosed
    (mem_of_mem_files hes hf)
  refine ⟨_, hfile, ?_⟩
  intro e he hquoted
  rcases edge_cases hp hes hcount hw hf he with ⟨hbuiltin, -⟩ | ⟨k, hk, hedge⟩
  · rw [hbuiltin] at hquoted
    cases hquoted
  · exact ⟨k, hk, by rw [hedge]⟩

/-- So none of them is missing, if the directory is not among the placeholders. -/
theorem unresolved_applyScan {folder : Location} (hfolder : ofPath? directory = some folder)
    (hlocal : folder.isBuiltin = false) {f : String × String} (hf : f ∈ s.files) :
    (w.applyScan d es).unresolved (fileLocation directory f.1) = [] := by
  obtain ⟨file, hfile, htarget⟩ := target_of_quoted (d := d) hp hes hcount hw hf
  rw [Workspace.unresolved, hfile]
  dsimp only
  rw [List.map_eq_nil_iff, List.filter_eq_nil_iff]
  intro e he hmissing
  rw [Bool.and_eq_true, Bool.and_eq_true, Bool.not_eq_true'] at hmissing
  obtain ⟨k, -, hk⟩ := htarget e he hmissing.1.1
  rw [Edge.isUnresolved, hk, headerLocation,
    isBuiltin_fileLocation hfolder hlocal (isSourceName_headerName k)] at hmissing
  cases hmissing.2

end Edges

/-! ## The first scan -/

/-- In an empty directory that is the only folder of a workspace, the files of a sample have their
locations, however the directory is spelled. The first scan lets the plugin see the headers of the
chain in order, each before the header of the standard library that it includes, and every quoted
include leads to a header of the sample. Unless the directory is itself among the placeholders, the
plugin sees nothing else but placeholders, and no quoted include is missing. -/
theorem visible_scanned {s : Sample} (hcount : 0 < s.fileCount) {disk : Disk} {directory : Path}
    (hempty : disk.find? directory = some (.dir [])) {folder : Location}
    (hfolder : ofPath? directory = some folder) {c : Config} (hc : c.IsPlain) :
    let d := s.write disk directory
    let w := Workspace.scanned d folder c
    let last := min s.includeChainDepth (s.fileCount - 1)
    let seen := Visibility.chain (headerLocation directory) placeholder (last + 1) ++
      [fileLocation directory pluginName]
    (∀ f ∈ s.files,
      ofPath? (directory.join (Path.ofString f.1)) = some (fileLocation directory f.1)) ∧
    w.index.visible d (fileLocation directory pluginName) = .ok seen ∧
    (∀ f ∈ s.files, ∃ file, w.files.get? (fileLocation directory f.1) = some file ∧
      ∀ e ∈ file.edges, e.1.isBuiltin = false →
        ∃ i < s.fileCount, e.2.target = headerLocation directory i) ∧
    (folder.isBuiltin = false →
      seen.filter (!·.isBuiltin) =
        (List.range (last + 1)).map (headerLocation directory) ++
          [fileLocation directory pluginName] ∧
      ∀ f ∈ s.files, w.unresolved (fileLocation directory f.1) = []) := by
  intro d w last seen
  have hp := isAbsolute_of_ofPath? hfolder
  have hplain : (Workspace.opened d folder c).IsPlain := Workspace.isPlain_opened folder hc
  have hscan : ((Workspace.opened d folder c).scanFolders d).Perm (s.found directory) := by
    rw [Workspace.scanFolders_opened folder hc]
    exact scanFolder_perm hempty hfolder
  exact ⟨fun f hf => ofPath?_join (isSourceName_of_mem_files hf) hp,
    visible_applyScan hp hscan hcount hplain,
    fun f hf => target_of_quoted hp hscan hcount hplain hf,
    fun hlocal => ⟨filter_seen hfolder hlocal _,
      fun f hf => unresolved_applyScan hp hscan hcount hplain hfolder hlocal hf⟩⟩

/-- A directory whose path goes up: the plugin sees both headers. -/
theorem visible_scanned_two_headers :
    let s : Sample := ⟨2, 1, 5, 1, 1⟩
    let disk : Disk := ⟨.dir [(octets "a".toList, .dir []), (octets "b".toList, .dir [])], []⟩
    let directory := Path.ofString "/a/../b/"
    let d := s.write disk directory
    let folder := ofSegments ["a", "..", "b"]
    let file := fun name => ofSegments ["a", "..", "b", name]
    let w := Workspace.scanned d folder { implicitSourcemod := false }
    disk.find? directory = some (.dir []) ∧ ofPath? directory = some folder ∧
    (∃ seen, w.index.visible d (file "plugin.sp") = .ok seen ∧
      seen.filter (!·.isBuiltin) = [file "file_0.inc", file "file_1.inc", file "plugin.sp"]) ∧
    w.unresolved (file "file_0.inc") = [] := by
  intro s disk directory d folder file w
  have hempty : disk.find? directory = some (.dir []) := rfl
  have hfolder : ofPath? directory = some folder := by decide
  have hplain : Config.IsPlain { implicitSourcemod := false } := ⟨rfl, rfl, rfl⟩
  obtain ⟨-, hvisible, -, hlocal⟩ := visible_scanned (s := s) (by decide) hempty hfolder hplain
  obtain ⟨hseen, hunresolved⟩ := hlocal (by decide)
  have hplugin : fileLocation directory pluginName = file "plugin.sp" := by decide
  have hheader : fileLocation directory (headerName 0) = file "file_0.inc" := by decide
  have hnone := hunresolved _ (header_mem_files (i := 0) (by decide))
  rw [← hplugin, ← hheader]
  refine ⟨hempty, hfolder, ⟨_, hvisible, ?_⟩, hnone⟩
  rw [hseen]
  decide

end Sample

end PawnScope
