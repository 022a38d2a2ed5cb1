import PawnScope.Proofs.Include.Placeholder
import PawnScope.Proofs.Include.Registration
import PawnScope.Proofs.Text.Octets
import PawnScope.Workspace.Scan

/-! # Files that are included by their own names

A file is registered under its base name, and an include is looked up by the base name of its
reference. But a reference gets the extension of a header unless it has one of the two extensions in
lower case, while a scan takes extensions in either case for those of source files. So the base name
of a source file leads to the file exactly if its extension is in lower case. -/

namespace PawnScope.Reference

open Text Location

/-! ## References of one segment -/

theorem isName_inferExtension {s : List Char} (h : IsName s) : IsName (inferExtension s) := by
  have htrim : IsName (trimEnd s) := by
    intro c hc
    rw [trimEnd, List.mem_reverse] at hc
    exact h c (List.mem_reverse.mp ((List.dropWhile_suffix _).subset hc))
  have hinc : IsName ".inc".toList := by decide
  rw [inferExtension]
  split
  · exact htrim
  · intro c hc
    rcases List.mem_append.mp hc with hc | hc
    · exact htrim c hc
    · exact hinc c hc

theorem stripInclude_of_isName {s : List Char} (h : IsName s) : stripInclude s = s := by
  apply stripInclude_eq_self
  rw [afterInclude?_eq_none_iff, innerSegments_of_isName h]
  exact List.not_mem_nil

/-- A name is looked up with its extension and otherwise as it is. -/
theorem normalize_of_isName {s : List Char} (h : IsName s) : normalize s = inferExtension s :=
  stripInclude_of_isName (isName_inferExtension h)

/-! ## The files to which names lead -/

theorem slash_notMem_octets {s : List Char} (h : IsName s) : Path.slash ∉ octets s := by
  intro hmem
  have hslash := h _ (ofNat_mem_of_mem_octets (b := Path.slash) (by decide) hmem)
  exact absurd hslash (by decide)

/-- A text with the end of an extension is the name of a file. -/
theorem isStep_octets {s : List Char} {c : Char} (h : s.getLast? = some c)
    (hc : c = 'c' ∨ c = 'p') :
    Path.isStep (octets s) = true ∧ octets s ≠ Path.dotDot := by
  obtain ⟨n, hn⟩ := List.getLast?_eq_some_iff.mp (getLast?_octets h hc)
  rw [hn]
  apply Path.isStep_concat n
  rcases hc with rfl | rfl
  · decide
  · decide

/-- The base name of a file whose name is known as text. -/
theorem eq_of_baseName? {l : Location} {p : Path} {s : List Char} {name : String}
    (hp : l.filePath? = some p) (hfile : p.fileName? = some (octets s))
    (hname : l.baseName? = some name) : name = String.ofList (baseName s) := by
  simp only [Location.baseName?, hp, hfile, Option.bind_eq_bind, Option.bind_some,
    Option.bind_eq_some_iff] at hname
  obtain ⟨text, htext, hbase⟩ := hname
  rw [octets_injective (octets_of_ofOctets? htext)] at hbase
  exact (Option.some.inj hbase).symm

theorem fileName?_of_inDirectory? {disk : Disk} {s : List Char} {directory : Path} {l : Location}
    (hs : IsName s) (hext : hasExtension s = true) (h : inDirectory? disk s directory = some l) :
    ∃ p, l.filePath? = some p ∧ p.fileName? = some (octets s) := by
  obtain ⟨c, hlast, hc⟩ := exists_getLast?_of_hasExtension hext
  obtain ⟨hstep, hup⟩ := isStep_octets hlast hc
  have hslash := slash_notMem_octets hs
  have hrelative : (⟨octets s⟩ : Path).isAbsolute = false := by
    rw [Path.isAbsolute, beq_eq_false_iff_ne]
    exact fun hhead => hslash (List.mem_of_head? hhead)
  have hsteps : (⟨octets s⟩ : Path).steps = [octets s] := by
    have hpieces : (⟨octets s⟩ : Path).pieces = [octets s] := by
      apply List.splitOnP_eq_singleton
      intro b hb
      rw [beq_eq_false_iff_ne]
      rintro rfl
      exact hslash hb
    simp [Path.steps, hpieces, hstep]
  obtain ⟨q, hq, hql⟩ := exists_of_inDirectory? h
  have hend : q.steps.getLast? = some (octets s) := by
    rw [Path.steps_of_normalize? hq]
    apply Path.getLast?_normalNames _ hup
    simp [Path.steps_join hrelative, hsteps]
  obtain ⟨n, hn⟩ := List.getLast?_eq_some_iff.mp (getLast?_octets hlast hc)
  have hmark : UInt8.ofNat c.toNat ≠ 58 ∧ UInt8.ofNat c.toNat ≠ 124 := by
    rcases hc with rfl | rfl
    · decide
    · decide
  obtain ⟨p, hp, -, -, hpieces⟩ := exists_filePath?_of_ofPath? hql (hn ▸ hend) hmark.1 hmark.2
  refine ⟨p, hp, Path.fileName?_of_getLast?_steps ?_ hup⟩
  have hnil : Path.isStep [] = false := by decide
  have hfilter : q.steps.filter Path.isStep = q.steps := by simp [Path.steps]
  rw [Path.steps, hpieces, List.filter_cons_of_neg (by simp [hnil]), hfilter]
  exact hend

/-- The placeholder of a name stands right in the directory of the placeholders. -/
theorem builtinLocation_of_isName {s : List Char} (hs : IsName s) (hext : hasExtension s = true) :
    builtinLocation s = ofSegments
      [builtinNamespace, String.ofList (percentEncode segmentReserved (visible s))] := by
  obtain ⟨c, hlast, hc⟩ := exists_getLast?_of_hasExtension hext
  have hsegments : (s.splitOnP isSeparator).filter (!·.isEmpty) = [s] := by
    have hsplit : s.splitOnP isSeparator = [s] := by
      apply List.splitOnP_eq_singleton
      intro c hc
      simp [hs c hc]
    have hne : s ≠ [] := by
      rintro rfl
      cases hlast
    simp [hsplit, hne]
  have hdone : (if [builtinNamespace.toList] = [[]] then [] else [builtinNamespace.toList]) =
      [builtinNamespace.toList] := by decide
  rw [builtinLocation, hsegments]
  rcases appendSegment_of_getLast? [builtinNamespace.toList] hlast hc with ⟨hroot, -⟩ | hadd
  · rw [hdone] at hroot
    cases hroot
  · rw [hdone] at hadd
    rw [List.foldl_cons, List.foldl_nil, hadd]
    rfl

theorem fileName?_builtinLocation {s : List Char} (hs : IsName s) (hext : hasExtension s = true) :
    ∃ p, (builtinLocation s).filePath? = some p ∧ p.fileName? = some (octets (visible s)) := by
  obtain ⟨c, hlast, hc⟩ := exists_getLast?_of_hasExtension hext
  obtain ⟨hstep, hup⟩ := isStep_octets (getLast?_visible hlast hc) hc
  have hvisible : IsName (visible s) := fun c hc => hs c (List.mem_filter.mp hc).1
  have hnames : names
      [builtinNamespace, String.ofList (percentEncode segmentReserved (visible s))] =
      [octets builtinNamespace.toList, octets (visible s)] := by
    have hdecode : percentDecode builtinNamespace.toList = octets builtinNamespace.toList := by
      decide
    simp [names, hdecode, percentDecode_percentEncode]
  have hdirectory : Path.isStep (octets builtinNamespace.toList) = true ∧
      Path.slash ∉ octets builtinNamespace.toList := by decide
  rw [builtinLocation_of_isName hs hext]
  obtain ⟨p, hp, -, hsteps⟩ := exists_filePath?_ofSegments (List.cons_ne_nil _ _)
    (by rw [hnames]; simp [hdirectory.2, slash_notMem_octets hvisible])
  refine ⟨p, hp, Path.fileName?_of_getLast?_steps ?_ hup⟩
  simp [hsteps, hnames, hdirectory.1, hstep]

theorem hasExtension_visible {s : List Char} (h : hasExtension s = true) :
    hasExtension (visible s) = true := by
  have hkept : ∀ front tail : List Char, visible tail = tail →
      tail <:+ visible (front ++ tail) := by
    intro front tail htail
    rw [visible, List.filter_append, ← visible, ← visible, htail]
    exact List.suffix_append _ _
  rw [hasExtension_iff] at h ⊢
  rcases h with ⟨front, rfl⟩ | ⟨front, rfl⟩
  · exact Or.inl (hkept front _ (by decide))
  · exact Or.inr (hkept front _ (by decide))

/-- A name with an extension leads to a file whose base name has the extension, if it has a base
name at all: a registered file, a file in an include directory, or a placeholder. -/
theorem hasExtension_of_target {disk : Disk} {calls : List Registry.Call} {directories : List Path}
    {s : List Char} {name : String} (hs : IsName s) (hext : hasExtension s = true)
    (h : ((target? disk ((Registry.mk {}).applyAll calls) directories s).getD
      (builtinLocation s)).baseName? = some name) : hasExtension name.toList = true := by
  have hnamed : ∀ {l : Location} {p : Path} {t : List Char}, hasExtension t = true →
      l.filePath? = some p → p.fileName? = some (octets t) → l.baseName? = some name →
      hasExtension name.toList = true := by
    intro l p t ht hp hfile hl
    rw [eq_of_baseName? hp hfile hl, String.toList_ofList, hasExtension_baseName]
    exact ht
  rw [target?, baseName_of_isName hs] at h
  cases howner : ((Registry.mk {}).applyAll calls).resolve? (String.ofList s) with
  | some owner =>
      have hbase := (Registry.resolve?_applyAll_iff.mp howner).baseName?
      rw [howner, Option.some_or, Option.getD_some, hbase, Option.some.injEq] at h
      rw [← h, String.toList_ofList]
      exact hext
  | none =>
      rw [howner, Option.none_or] at h
      cases hfound : directories.findSome? (inDirectory? disk s) with
      | some l =>
          rw [hfound, Option.getD_some] at h
          obtain ⟨directory, -, hl⟩ := List.exists_of_findSome?_eq_some hfound
          obtain ⟨p, hp, hfile⟩ := fileName?_of_inDirectory? hs hext hl
          exact hnamed hext hp hfile h
      | none =>
          rw [hfound, Option.getD_none] at h
          obtain ⟨p, hp, hfile⟩ := fileName?_builtinLocation hs hext
          exact hnamed (hasExtension_visible hext) hp hfile h

/-- A registered file is found by its own base name exactly if this has an extension. -/
theorem resolve_baseName_iff {disk : Disk} {calls : List Registry.Call} {directories : List Path}
    {l : Location} {name : String} (hname : l.baseName? = some name) (isBuiltin : Bool) :
    (resolve disk (((Registry.mk {}).applyAll calls).register l) directories name
      isBuiltin).target = l ↔ hasExtension name.toList = true := by
  have hs : IsName name.toList := by
    simp only [Location.baseName?, Option.bind_eq_bind, Option.bind_eq_some_iff] at hname
    obtain ⟨p, -, n, -, text, -, hbase⟩ := hname
    rw [← Option.some.inj hbase, String.toList_ofList]
    exact isName_baseName text
  have hlookup : lookupName name = String.ofList (inferExtension name.toList) := by
    rw [lookupName, normalize_of_isName hs, baseName_of_isName (isName_inferExtension hs)]
  rw [resolve_register, hname, hlookup]
  constructor
  · intro h
    by_contra hext
    have hne : some name ≠ some (String.ofList (inferExtension name.toList)) := by
      intro heq
      rw [Option.some.injEq, ← String.toList_inj, String.toList_ofList] at heq
      exact hext (inferExtension_eq_self_iff.mp heq.symm)
    rw [if_neg hne, resolve, normalize_of_isName hs] at h
    obtain rfl := h
    exact hext (hasExtension_of_target (isName_inferExtension hs)
      (hasExtension_inferExtension name.toList) hname)
  · intro hext
    rw [inferExtension_eq_self_iff.mpr hext, String.ofList_toList, if_pos rfl]

/-! ## Source files -/

/-- The extension of a path, read off the text of its file name. -/
theorem suffix_iff_extension? {p : Path} {text ext : List Char}
    (hfile : p.fileName? = some (octets text)) (hsome : p.extension? ≠ none)
    (hascii : ∀ c ∈ ext, c.toNat < 128) (hdot : '.' ∉ ext) :
    '.' :: ext <:+ text ↔ p.extension? = some (octets ext) := by
  have hoctets : octets ('.' :: ext) = 46 :: octets ext := rfl
  have hfree : 46 ∉ octets ext := fun hmem =>
    hdot (ofNat_mem_of_mem_octets (b := 46) (by decide) hmem)
  rw [Path.extension?_eq_some_iff hfile]
  constructor
  · rintro ⟨front, rfl⟩
    refine ⟨hfree, octets front, ?_, by rw [octets_append, hoctets]⟩
    intro hnil
    -- A name that starts with its only dot has no extension.
    obtain ⟨e, he⟩ := Option.ne_none_iff_exists'.mp hsome
    obtain ⟨-, start, hstart, hname⟩ := (Path.extension?_eq_some_iff hfile).mp he
    obtain ⟨b, start, rfl⟩ := List.exists_cons_of_ne_nil hstart
    rw [octets_append, hnil, hoctets, List.nil_append, List.cons_append, List.cons.injEq] at hname
    exact hfree (hname.2 ▸ List.mem_append_right _ List.mem_cons_self)
  · rintro ⟨-, front, -, hname⟩
    have htail : ∀ c ∈ '.' :: ext, c.toNat < 128 := by
      rw [List.forall_mem_cons]
      exact ⟨by decide, hascii⟩
    exact suffix_of_octets_suffix htail ⟨front, by rw [hname, hoctets]⟩

/-- The base name of a source file has an extension that references keep exactly if the extension of
the file is in lower case. -/
theorem hasExtension_iff_of_isSource {l : Location} {p : Path} {name : String}
    (hp : l.filePath? = some p) (hsource : p.isSource = true) (hname : l.baseName? = some name) :
    hasExtension name.toList = true ↔
      p.extension? = some (octets "sp".toList) ∨ p.extension? = some (octets "inc".toList) := by
  have hsome : p.extension? ≠ none := by
    intro hnone
    rw [Path.isSource, hnone] at hsource
    cases hsource
  simp only [Location.baseName?, hp, Option.bind_eq_bind, Option.bind_some,
    Option.bind_eq_some_iff] at hname
  obtain ⟨n, hn, text, htext, hbase⟩ := hname
  obtain rfl := octets_of_ofOctets? htext
  rw [← Option.some.inj hbase, String.toList_ofList, hasExtension_baseName, hasExtension_iff,
    ← suffix_iff_extension? hn hsome (by simp) (by decide),
    ← suffix_iff_extension? hn hsome (by simp) (by decide)]
  rfl

/-- Whatever was registered before and wherever includes are looked up: a source file that has just
been registered is the target of its own base name, in either form of the directive, exactly if its
extension is in lower case. -/
theorem resolve_ownName_iff (disk : Disk) (calls : List Registry.Call) (directories : List Path)
    {u : Location} {p : Path} {name : String} (hp : u.filePath? = some p)
    (hsource : p.isSource = true) (hname : u.baseName? = some name) (isBuiltin : Bool) :
    (resolve disk (((Registry.mk {}).applyAll calls).register u) directories name
        isBuiltin).target = u ↔
      p.extension? = some (octets "sp".toList) ∨ p.extension? = some (octets "inc".toList) := by
  rw [resolve_baseName_iff hname, hasExtension_iff_of_isSource hp hsource hname]

/-- A header takes its name over from another that was registered before, and goes before a third
in the include directory. -/
theorem resolve_ownName_colors :
    let u := ofSegments ["scripting", "include", "colors.inc"]
    let disk : Disk := ⟨.dir [(octets "colors.inc".toList, .file (some ""))], []⟩
    let calls := [Registry.Call.register (ofSegments ["lib", "colors.inc"])]
    (u.filePath?.any Path.isSource = true ∧ u.baseName? = some "colors.inc") ∧
      (resolve disk (((Registry.mk {}).applyAll calls).register u) [⟨[47]⟩] "colors.inc"
        true).target = u := by
  have hpath : (ofSegments ["scripting", "include", "colors.inc"]).filePath? =
      some ⟨octets "/scripting/include/colors.inc".toList⟩ := by decide +kernel
  have hsource : Path.isSource ⟨octets "/scripting/include/colors.inc".toList⟩ = true := by
    decide +kernel
  have hname : (ofSegments ["scripting", "include", "colors.inc"]).baseName? =
      some "colors.inc" := by decide +kernel
  refine ⟨⟨by rw [hpath]; exact hsource, hname⟩, ?_⟩
  exact (resolve_ownName_iff _ _ _ hpath hsource hname true).mpr (Or.inr (by decide +kernel))

/-- A scan takes `upper.INC` for a header, but an include of `upper.INC` looks for
`upper.INC.inc`. -/
theorem resolve_ownName_upper :
    let u := ofSegments ["include", "upper.INC"]
    (u.filePath?.any Path.isSource = true ∧ u.baseName? = some "upper.INC") ∧
      ∀ isBuiltin, (resolve ⟨.dir [], []⟩ ((Registry.mk {}).register u) [] "upper.INC"
        isBuiltin).target ≠ u := by
  decide +kernel

end PawnScope.Reference
