import PawnScope.Proofs.Disk.Writing
import PawnScope.Proofs.Include.OwnName
import PawnScope.Proofs.Sample.Texts

/-! # The files of a sample workspace

A sample is written into an empty directory. Its files have names of their own, all of them names of
source files. So a scan of the directory finds each of them, with the outline of its text, and
nothing else. -/

namespace PawnScope

open Text Location

/-! ## Names of source files -/

/-- A name in ASCII that is that of a header or a plugin. -/
structure IsSourceName (name : String) : Prop where
  isName : Reference.IsName name.toList
  isAscii : IsAscii name.toList
  extension : ∃ stem ext, stem ≠ [] ∧ (ext = "inc" ∨ ext = "sp") ∧
    name.toList = stem ++ '.' :: ext.toList

namespace IsSourceName

variable {name : String} {p : Path}

theorem hasExtension (h : IsSourceName name) : Reference.hasExtension name.toList = true := by
  obtain ⟨stem, ext, -, hext, hname⟩ := h.extension
  rw [Reference.hasExtension_iff, hname]
  rcases hext with rfl | rfl
  · exact Or.inr ⟨stem, rfl⟩
  · exact Or.inl ⟨stem, rfl⟩

theorem isEntryName (h : IsSourceName name) : Disk.IsEntryName (octets name.toList) := by
  obtain ⟨c, hlast, hc⟩ := Reference.exists_getLast?_of_hasExtension h.hasExtension
  obtain ⟨hstep, hup⟩ := Reference.isStep_octets hlast hc
  exact ⟨hstep, hup, Reference.slash_notMem_octets h.isName⟩

theorem steps_join (h : IsSourceName name) (p : Path) :
    (p.join (Path.ofString name)).steps = p.steps ++ [octets name.toList] := by
  rw [Path.ofString, Path.steps_join h.isEntryName.isAbsolute_eq, h.isEntryName.steps_eq]

theorem fileName?_of_steps (h : IsSourceName name)
    (hp : p.steps.getLast? = some (octets name.toList)) :
    p.fileName? = some (octets name.toList) :=
  Path.fileName?_of_getLast?_steps hp h.isEntryName.ne_dotDot

theorem isSource (h : IsSourceName name) (hp : p.steps.getLast? = some (octets name.toList)) :
    p.isSource = true := by
  obtain ⟨stem, ext, hstem, hext, hname⟩ := h.extension
  have hoctets : octets name.toList = octets stem ++ 46 :: octets ext.toList := by
    rw [hname, octets_append]
    rfl
  have hne : octets stem ≠ [] := by
    intro hnil
    exact hstem (octets_injective hnil)
  have hdot : 46 ∉ octets ext.toList := by
    rcases hext with rfl | rfl
    · decide
    · decide
  have hextension : p.extension? = some (octets ext.toList) :=
    (Path.extension?_eq_some_iff (h.fileName?_of_steps hp)).mpr ⟨hdot, _, hne, hoctets⟩
  rw [Path.isSource, hextension]
  rcases hext with rfl | rfl
  · decide
  · decide

end IsSourceName

namespace Sample

/-- The location of a file in a directory. -/
def fileLocation (directory : Path) (name : String) : Location :=
  ofSegments ((directory.steps ++ [octets name.toList]).map segment)

theorem segment_injective : Function.Injective segment := by
  intro m n h
  have hnames : names ([m].map segment) = names ([n].map segment) := by
    rw [List.map_singleton, List.map_singleton, h]
  rw [names_map_segment, names_map_segment] at hnames
  exact List.singleton_inj.mp hnames

theorem fileLocation_injective (directory : Path) :
    Function.Injective (fileLocation directory) := by
  intro a b h
  have hsegments : (directory.steps ++ [octets a.toList]).map segment =
      (directory.steps ++ [octets b.toList]).map segment := by
    simpa [fileLocation, ofSegments] using h
  have hsteps := segment_injective.list_map hsegments
  have hoctets : octets a.toList = octets b.toList := by simpa using hsteps
  exact String.toList_inj.mp (octets_injective hoctets)

variable {name : String} {p q directory : Path}

/-- Whatever way the directory is spelled, a file in it has one location. -/
theorem ofPath?_join (hname : IsSourceName name) (hp : p.isAbsolute = true) :
    ofPath? (p.join (Path.ofString name)) = some (fileLocation p name) := by
  have habs := Path.isAbsolute_join_of_isAbsolute hp (Path.ofString name)
  rw [ofPath?_eq, if_pos habs, hname.steps_join, if_neg (by simp)]
  rfl

theorem baseName?_fileLocation (hname : IsSourceName name) (hp : p.isAbsolute = true) :
    (fileLocation p name).baseName? = some name := by
  obtain ⟨q, hq, hqalike⟩ := exists_filePath?_alike (ofPath?_join hname hp)
  have hfile : q.fileName? = some (octets name.toList) := by
    apply hname.fileName?_of_steps
    rw [← hqalike.2, hname.steps_join, List.getLast?_concat]
  rw [Location.baseName?, hq, Option.bind_eq_bind, Option.bind_some, hfile]
  simp [ofOctets?_octets hname.isAscii, Reference.baseName_of_isName hname.isName]

/-! ## Names of sample files -/

theorem headerName_eq (i : Nat) : headerName i = reference i ++ ".inc" := rfl

theorem headerName_injective : Function.Injective headerName := by
  intro i j h
  have hlist := congrArg String.toList h
  simp only [headerName_eq, reference, String.toList_append, Nat.toList_repr,
    List.append_cancel_right_eq, List.append_cancel_left_eq] at hlist
  exact toDigits_injective hlist

theorem isSeparator_of_isDigit {c : Char} (h : c.isDigit = true) :
    Reference.isSeparator c = false := by
  rw [Reference.isSeparator, Bool.or_eq_false_iff, beq_eq_false_iff_ne, beq_eq_false_iff_ne]
  constructor
  · rintro rfl
    cases h
  · rintro rfl
    cases h

theorem isSourceName_headerName (i : Nat) : IsSourceName (headerName i) := by
  have hlist : (headerName i).toList = "file_".toList ++ Nat.toDigits 10 i ++ ".inc".toList := by
    rw [headerName_eq, reference, String.toList_append, String.toList_append, Nat.toList_repr]
  have hstem : Reference.IsName "file_".toList ∧ IsAscii "file_".toList := by decide
  have hend : Reference.IsName ".inc".toList ∧ IsAscii ".inc".toList := by decide
  have hdigits : Reference.IsName (Nat.toDigits 10 i) ∧ IsAscii (Nat.toDigits 10 i) := by
    constructor
    · exact fun c hc => isSeparator_of_isDigit (isDigit_of_mem_toDigits hc)
    · intro c hc
      have hbounds := bounds_of_isDigit (isDigit_of_mem_toDigits hc)
      omega
  refine ⟨?_, ?_, "file_".toList ++ Nat.toDigits 10 i, "inc", by simp, Or.inl rfl, ?_⟩
  · rw [hlist, Reference.IsName, List.forall_mem_append, List.forall_mem_append]
    exact ⟨⟨hstem.1, hdigits.1⟩, hend.1⟩
  · rw [hlist, IsAscii, List.forall_mem_append, List.forall_mem_append]
    exact ⟨⟨hstem.2, hdigits.2⟩, hend.2⟩
  · rw [hlist]
    rfl

theorem isSourceName_pluginName : IsSourceName pluginName := by
  refine ⟨by decide, by decide, "plugin".toList, "sp", by decide, Or.inr rfl, by decide⟩

theorem headerName_ne_pluginName (i : Nat) : headerName i ≠ pluginName := by
  intro h
  have hlast := congrArg (fun name => name.toList.getLast?) h
  simp [headerName_eq, pluginName] at hlast

theorem isSourceName_of_mem_files {s : Sample} {f : String × String} (h : f ∈ s.files) :
    IsSourceName f.1 := by
  rcases mem_files_iff.mp h with ⟨i, -, rfl⟩ | rfl
  · exact isSourceName_headerName i
  · exact isSourceName_pluginName

theorem nodup_names (s : Sample) : (s.files.map (·.1)).Nodup := by
  have hnames : s.files.map (·.1) = (List.range s.fileCount).map headerName ++ [pluginName] := by
    simp [files, Function.comp_def]
  rw [hnames, List.nodup_append]
  refine ⟨List.nodup_range.map headerName_injective, List.nodup_singleton _, ?_⟩
  simpa using fun i _ => headerName_ne_pluginName i

/-! ## Writing and scanning -/

/-- The files of a sample as they are written. -/
def written (s : Sample) : List (FileName × String) :=
  s.files.map fun f => (octets f.1.toList, f.2)

theorem write_eq (s : Sample) (disk : Disk) (directory : Path) :
    s.write disk directory = disk.writeFiles directory (s.written.map Disk.entry) := by
  rw [write, Disk.writeFiles, written, List.map_map, List.foldl_map]
  rfl

theorem nodup_written (s : Sample) : (s.written.map (·.1)).Nodup := by
  have hmap : s.written.map (·.1) = (s.files.map (·.1)).map fun name => octets name.toList := by
    simp [written]
  rw [hmap]
  exact s.nodup_names.map fun a b h => String.toList_inj.mp (octets_injective h)

theorem isEntryName_of_mem_written {s : Sample} {f : FileName × String} (h : f ∈ s.written) :
    Disk.IsEntryName f.1 := by
  obtain ⟨g, hg, rfl⟩ := List.mem_map.mp h
  exact (isSourceName_of_mem_files hg).isEntryName

variable {s : Sample} {disk : Disk}

/-- The directory holds the files of the sample and nothing else. -/
theorem find?_write (hp : directory.isAbsolute = true)
    (hempty : disk.find? directory = some (.dir [])) :
    (s.write disk directory).find? directory = some (.dir (s.written.map Disk.entry)) := by
  rw [write_eq]
  apply Disk.find?_writeFiles hp hempty
  · rw [List.forall_mem_map]
    exact fun f hf => isEntryName_of_mem_written hf
  · rw [List.map_map]
    exact s.nodup_written

/-- The files of a sample with their locations in a directory and their outlines. -/
def found (s : Sample) (directory : Path) : List (Location × Outline) :=
  s.files.map fun f => (fileLocation directory f.1, Outline.ofText f.2)

theorem scanFile?_eq {d : Disk} (hq : q.isAbsolute = true)
    (hfind : d.find? q = some (.dir (s.written.map Disk.entry))) {f : String × String}
    (hf : f ∈ s.files) :
    Workspace.scanFile? d (q.join (Path.ofString f.1)) =
      some (fileLocation q f.1, Outline.ofText f.2) := by
  have hname := isSourceName_of_mem_files hf
  have hwritten : (octets f.1.toList, f.2) ∈ s.written := List.mem_map_of_mem hf
  have hread : d.readText? (q.join (Path.ofString f.1)) = some f.2 :=
    Disk.readText?_of_files hq hfind s.nodup_written hwritten hname.isEntryName
  have hsource : (q.join (Path.ofString f.1)).isSource = true := by
    apply hname.isSource
    rw [hname.steps_join, List.getLast?_concat]
  simp [Workspace.scanFile?, hread, ofPath?_join hname hq, hsource]

/-- A scan of the directory finds the files of the sample, in some order. -/
theorem scanFolder_perm (hempty : disk.find? directory = some (.dir [])) {folder : Location}
    (hfolder : ofPath? directory = some folder) :
    (Workspace.scanFolder (s.write disk directory) folder).Perm (s.found directory) := by
  obtain ⟨q, hq, halike⟩ := exists_filePath?_alike hfolder
  have hp := isAbsolute_of_ofPath? hfolder
  have hqabs : q.isAbsolute = true := halike.1 ▸ hp
  have hfind := Disk.find?_dir_of_alike halike hp (find?_write (s := s) hp hempty)
  have hlocation : ∀ name, fileLocation q name = fileLocation directory name := by
    intro name
    rw [fileLocation, fileLocation, halike.2]
  have hscan : ((s.write disk directory).filesBelow q).filterMap
      (Workspace.scanFile? (s.write disk directory)) = s.found directory := by
    rw [Disk.filesBelow_of_files hfind, written, List.map_map, List.filterMap_map, found,
      ← List.filterMap_eq_map']
    apply List.filterMap_congr
    intro f hf
    rw [← hlocation]
    exact scanFile?_eq hqabs hfind hf
  rw [Workspace.scanFolder, hq]
  dsimp only
  rw [hscan]
  exact List.mergeSort_perm _ _

end Sample

end PawnScope
