import PawnScope.Proofs.Disk.Lookup
import PawnScope.Proofs.Include.NormalForm
import PawnScope.Proofs.Include.Resolution
import PawnScope.Proofs.Location.FilePath

/-! # Placeholders lead nowhere

A reference that leads into the directory of the placeholders, and not to a registered file, leads
to nothing that can be read, as long as no file of the disk is under this directory. A placeholder
may leave the directory again through dots that come to light only when tabs and line breaks are
dropped; but a segment of it never goes up. -/

namespace PawnScope.Reference

open Text Location

/-! ## How references end -/

theorem getLast?_octets {s : List Char} {c : Char} (h : s.getLast? = some c)
    (hc : c = 'c' ∨ c = 'p') : (octets s).getLast? = some (UInt8.ofNat c.toNat) := by
  obtain ⟨front, rfl⟩ := List.getLast?_eq_some_iff.mp h
  have hlt : c.toNat < 128 := by
    rcases hc with rfl | rfl
    · decide
    · decide
  have hlast : octets [c] = [UInt8.ofNat c.toNat] := by
    simp [octets, utf8EncodeChar_of_lt hlt]
  rw [octets_append, hlast, List.getLast?_concat]

theorem getLast?_visible {s : List Char} {c : Char} (h : s.getLast? = some c)
    (hc : c = 'c' ∨ c = 'p') : (visible s).getLast? = some c := by
  obtain ⟨front, rfl⟩ := List.getLast?_eq_some_iff.mp h
  have hkept : isIgnored c = false := by
    rcases hc with rfl | rfl
    · decide
    · decide
  simp [visible, hkept]

/-! ## Segments of placeholders -/

/-- The segment stands for a name that has no slash and does not go up. -/
def Proper (segment : List Char) : Prop :=
  Path.slash ∉ percentDecode segment ∧ percentDecode segment ≠ Path.dotDot

/-- The first segment is a drive. -/
def Driven (segments : List (List Char)) : Prop :=
  ∃ drive rest, segments = drive :: rest ∧ isDrive drive = true

theorem percentDecode_percentEncode (s : List Char) :
    percentDecode (percentEncode segmentReserved s) = octets s :=
  percentDecode_percentOctets percent_mem_segmentReserved (octets s)

theorem proper_nil : Proper [] := by
  constructor
  · exact List.not_mem_nil
  · decide

theorem proper_percentEncode {s : List Char} (hslash : '/' ∉ s)
    (hdots : percentEncode segmentReserved s ∉ doubleDots) :
    Proper (percentEncode segmentReserved s) := by
  rw [Proper, percentDecode_percentEncode]
  constructor
  · intro hmem
    exact hslash (ofNat_mem_of_mem_octets (b := Path.slash) (by decide) hmem)
  · intro hup
    apply hdots
    rw [percentEncode, hup]
    decide

theorem flatten_segmentRuns (s : List Char) :
    (segmentRuns segmentReserved s).flatten = percentEncode segmentReserved (visible s) := by
  have hparts : ∀ parts : List (List Char),
      ((parts.filter (!·.isEmpty)).map (percentEncode segmentReserved)).flatten =
        percentEncode segmentReserved parts.flatten := by
    intro parts
    induction parts with
    | nil => rfl
    | cons part parts ih =>
        cases part with
        | nil => simpa using ih
        | cons c part =>
            rw [List.flatten_cons, percentEncode_append, ← ih]
            rfl
  rw [segmentRuns, hparts, flatten_splitOnP, visible]

theorem isDrive_of_cutDrive? {runs : List (List Char)} {drive rest : List Char}
    (h : cutDrive? runs = some (drive, rest)) : isDrive drive = true := by
  unfold cutDrive? at h
  split at h
  · split at h
    · rename_i halpha
      obtain ⟨rfl, -⟩ := Prod.mk.inj (Option.some.inj h)
      simp [isDrive, halpha]
    · cases h
  · split at h
    · rename_i halpha
      obtain ⟨rfl, -⟩ := Prod.mk.inj (Option.some.inj h)
      simp [isDrive, halpha]
    · cases h
  · cases h

/-- A drive is kept with a colon. -/
theorem isDrive_take {segment : List Char} (h : isDrive segment = true) :
    isDrive (segment.take 1 ++ [':']) = true := by
  unfold isDrive at h
  split at h
  · rw [Bool.and_eq_true] at h
    simp [isDrive, h.1]
  · cases h

/-- What one more segment can do: it makes a drive at the root, goes up, stays, or is added. -/
theorem addSegment_cases (done runs : List (List Char)) :
    (done = [] ∧ Driven (addSegment .file done runs true).1) ∨
      (runs.flatten ∈ doubleDots ∧ (addSegment .file done runs true).1 =
        (if done.getLast?.any isAnchor then done else done.dropLast) ++ [[]]) ∨
      (runs.flatten ∈ singleDots ∧ (addSegment .file done runs true).1 = done ++ [[]]) ∨
      (runs.flatten ∉ doubleDots ∧ (addSegment .file done runs true).1 = done ++ [runs.flatten]) := by
  unfold addSegment
  simp only [true_and, if_true]
  split
  · rename_i drive rest hcut
    split at hcut
    · rename_i hdone
      exact Or.inl ⟨hdone, drive, [rest], rfl, isDrive_of_cutDrive? hcut⟩
    · cases hcut
  · split
    · rename_i hdouble
      exact Or.inr (Or.inl ⟨by simpa using hdouble, rfl⟩)
    · rename_i hdouble
      split
      · rename_i hsingle
        exact Or.inr (Or.inr (Or.inl ⟨by simpa using hsingle, rfl⟩))
      · split
        · rename_i hdrive
          exact Or.inl ⟨hdrive.1, runs.flatten.take 1 ++ [':'], [], by simp [hdrive.1],
            isDrive_take hdrive.2⟩
        · exact Or.inr (Or.inr (Or.inr ⟨by simpa using hdouble, rfl⟩))

theorem Driven.append {segments : List (List Char)} (h : Driven segments)
    (more : List (List Char)) : Driven (segments ++ more) := by
  obtain ⟨drive, rest, rfl, hdrive⟩ := h
  exact ⟨drive, rest ++ more, rfl, hdrive⟩

theorem isAnchor_of_isDrive {segment : List Char} (h : isDrive segment = true) :
    isAnchor segment = true := by
  unfold isDrive at h
  split at h
  · rename_i letter mark
    rw [Bool.and_eq_true] at h
    have hletter : letter ≠ '\\' := by
      rintro rfl
      exact absurd h.1 (by decide)
    have hmark : mark ≠ '\\' := by
      rintro rfl
      exact absurd h.2 (by decide)
    simpa [isAnchor, isDrive, hletter, hmark] using h
  · cases h

/-- A drive at the root is an anchor, so nothing goes up from it. -/
theorem Driven.goUp {segments : List (List Char)} (h : Driven segments) :
    Driven (if segments.getLast?.any isAnchor then segments else segments.dropLast) := by
  obtain ⟨drive, rest, rfl, hdrive⟩ := h
  split
  · exact ⟨drive, rest, rfl, hdrive⟩
  · rename_i hlast
    cases rest with
    | nil => exact absurd (by simpa using isAnchor_of_isDrive hdrive) hlast
    | cons s rest => exact ⟨drive, (s :: rest).dropLast, rfl, hdrive⟩

theorem dropLeadingEmpty_suffix (segments : List (List Char)) :
    dropLeadingEmpty segments <:+ segments := by
  fun_induction dropLeadingEmpty segments with
  | case1 segment rest ih => exact ih.trans (List.suffix_cons [] (segment :: rest))
  | case2 segments hne => exact List.suffix_refl segments

theorem getLast?_dropLeadingEmpty (segments : List (List Char)) :
    (dropLeadingEmpty segments).getLast? = segments.getLast? := by
  fun_induction dropLeadingEmpty segments with
  | case1 segment rest ih => rw [ih, List.getLast?_cons_cons]
  | case2 segments hne => rfl

theorem dropLeadingEmpty_cons {segment : List Char} (h : segment ≠ []) (rest : List (List Char)) :
    dropLeadingEmpty (segment :: rest) = segment :: rest := by
  cases segment with
  | nil => exact absurd rfl h
  | cons c segment =>
      rw [dropLeadingEmpty]
      simp

theorem ne_nil_of_isDrive {segment : List Char} (h : isDrive segment = true) : segment ≠ [] := by
  rintro rfl
  cases h

theorem Driven.dropLeadingEmpty {segments : List (List Char)} (h : Driven segments) :
    Driven (dropLeadingEmpty segments) := by
  obtain ⟨drive, rest, rfl, hdrive⟩ := h
  exact ⟨drive, rest, dropLeadingEmpty_cons (ne_nil_of_isDrive hdrive) rest, hdrive⟩

/-! ## One segment after another -/

/-- No segment goes up, or the first is a drive. -/
def Rooted (segments : List (List Char)) : Prop :=
  (∀ s ∈ segments, Proper s) ∨ Driven segments

theorem Rooted.concat {segments : List (List Char)} (h : Rooted segments) {segment : List Char}
    (hsegment : Proper segment) : Rooted (segments ++ [segment]) := by
  rcases h with hall | hdriven
  · left
    intro s hs
    rcases List.mem_append.mp hs with hs | hs
    · exact hall s hs
    · rwa [List.mem_singleton.mp hs]
  · exact Or.inr (hdriven.append [segment])

theorem Rooted.goUp {segments : List (List Char)} (h : Rooted segments) :
    Rooted (if segments.getLast?.any isAnchor then segments else segments.dropLast) := by
  rcases h with hall | hdriven
  · left
    split
    · exact hall
    · exact fun s hs => hall s ((List.dropLast_prefix segments).subset hs)
  · exact Or.inr hdriven.goUp

theorem Rooted.addSegment {done : List (List Char)} (h : Rooted done) {segment : List Char}
    (hslash : '/' ∉ segment) :
    Rooted (addSegment .file done (segmentRuns segmentReserved segment) true).1 := by
  rcases addSegment_cases done (segmentRuns segmentReserved segment) with
    ⟨-, hdriven⟩ | ⟨-, hadd⟩ | ⟨-, hadd⟩ | ⟨hdots, hadd⟩
  · exact Or.inr hdriven
  · rw [hadd]
    exact h.goUp.concat proper_nil
  · rw [hadd]
    exact h.concat proper_nil
  · rw [flatten_segmentRuns] at hdots
    rw [hadd, flatten_segmentRuns]
    apply h.concat (proper_percentEncode _ hdots)
    exact fun hmem => hslash (List.mem_filter.mp hmem).1

theorem Rooted.appendSegment {segments : List (List Char)} (h : Rooted segments)
    {segment : List Char} (hslash : '/' ∉ segment) : Rooted (appendSegment segments segment) := by
  unfold Reference.appendSegment
  split
  · exact h
  · have hdone : Rooted (if segments = [[]] then [] else segments) := by
      split
      · exact Or.inl (by simp)
      · exact h
    rcases hdone.addSegment hslash with hall | hdriven
    · left
      intro s hs
      exact hall s ((dropLeadingEmpty_suffix _).subset hs)
    · exact Or.inr hdriven.dropLeadingEmpty

/-- A segment with the end of an extension is added without what is ignored in it, unless it makes a
drive at the root. -/
theorem appendSegment_of_getLast? (segments : List (List Char)) {segment : List Char} {c : Char}
    (h : segment.getLast? = some c) (hc : c = 'c' ∨ c = 'p') :
    ((if segments = [[]] then [] else segments) = [] ∧ Driven (appendSegment segments segment)) ∨
      appendSegment segments segment = dropLeadingEmpty ((if segments = [[]] then [] else segments) ++
        [percentEncode segmentReserved (visible segment)]) := by
  have hlast : (percentEncode segmentReserved (visible segment)).getLast? = some c := by
    obtain ⟨front, hfront⟩ := List.getLast?_eq_some_iff.mp (getLast?_visible h hc)
    have hsame : percentEncode segmentReserved [c] = [c] := by
      rcases hc with rfl | rfl
      · decide
      · decide
    rw [hfront, percentEncode_append, hsame, List.getLast?_concat]
  have hplain : ∀ s ∈ [['.'], ['.', '.']] ++ doubleDots ++ singleDots, s.getLast? ≠ some c := by
    rcases hc with rfl | rfl
    · decide
    · decide
  have hdot : ¬(segment = ['.'] ∨ segment = ['.', '.']) := by
    rintro (rfl | rfl)
    · exact hplain _ (by decide) h
    · exact hplain _ (by decide) h
  rw [appendSegment, if_neg hdot]
  rcases addSegment_cases (if segments = [[]] then [] else segments)
      (segmentRuns segmentReserved segment) with
    ⟨hroot, hdriven⟩ | ⟨hdots, -⟩ | ⟨hdots, -⟩ | ⟨-, hadd⟩
  · exact Or.inl ⟨hroot, hdriven.dropLeadingEmpty⟩
  · rw [flatten_segmentRuns] at hdots
    exact absurd hlast (hplain _ (by simp [hdots]))
  · rw [flatten_segmentRuns] at hdots
    exact absurd hlast (hplain _ (by simp [hdots]))
  · right
    rw [flatten_segmentRuns] at hadd
    exact congrArg dropLeadingEmpty hadd

/-- A segment with the end of an extension is the last segment once it is there, unless it is cut
behind a drive. -/
theorem getLast?_appendSegment (segments : List (List Char)) {segment : List Char} {c : Char}
    (h : segment.getLast? = some c) (hc : c = 'c' ∨ c = 'p') :
    Driven (appendSegment segments segment) ∨
      ∃ last, (appendSegment segments segment).getLast? = some last ∧
        (percentDecode last).getLast? = some (UInt8.ofNat c.toNat) := by
  rcases appendSegment_of_getLast? segments h hc with ⟨-, hdriven⟩ | hadd
  · exact Or.inl hdriven
  · right
    refine ⟨percentEncode segmentReserved (visible segment), ?_, ?_⟩
    · rw [hadd, getLast?_dropLeadingEmpty, List.getLast?_concat]
    · rw [percentDecode_percentEncode]
      exact getLast?_octets (getLast?_visible h hc) hc

/-- A placeholder has a drive at its root, or none of its segments goes up and the last has the end
of an extension. -/
theorem builtinLocation_spec {s : List Char} {c : Char} (h : s.getLast? = some c)
    (hc : c = 'c' ∨ c = 'p') :
    ∃ segments, builtinLocation s = ofSegments (segments.map String.ofList) ∧
      (Driven segments ∨ (∀ s ∈ segments, Proper s) ∧ ∃ last, segments.getLast? = some last ∧
        (percentDecode last).getLast? = some (UInt8.ofNat c.toNat)) := by
  refine ⟨_, rfl, ?_⟩
  have hsplit : ∃ front last, (s.splitOnP isSeparator).filter (!·.isEmpty) =
      front ++ [last ++ [c]] := by
    obtain ⟨t, rfl⟩ := List.getLast?_eq_some_iff.mp h
    have hletter : isSeparator c = false := by
      rcases hc with rfl | rfl
      · decide
      · decide
    obtain ⟨front, last, hparts⟩ := exists_splitOnP_concat t hletter
    exact ⟨front.filter (!·.isEmpty), last, by simp [hparts]⟩
  have hslash : ∀ part ∈ (s.splitOnP isSeparator).filter (!·.isEmpty), '/' ∉ part := by
    intro part hpart hmem
    have hno := (mem_of_mem_splitOnP (List.mem_filter.mp hpart).1 hmem).2
    simp [isSeparator] at hno
  have hrooted : ∀ (parts segments : List (List Char)), (∀ part ∈ parts, '/' ∉ part) →
      Rooted segments → Rooted (parts.foldl appendSegment segments) := by
    intro parts
    induction parts with
    | nil => exact fun segments _ h => h
    | cons part parts ih =>
        intro segments hparts h
        exact ih _ (fun p hp => hparts p (List.mem_cons_of_mem part hp))
          (h.appendSegment (hparts part List.mem_cons_self))
  have hstart : Rooted [builtinNamespace.toList] := by
    left
    intro s hs
    rw [List.mem_singleton.mp hs]
    constructor
    · decide
    · decide
  have hall := hrooted _ _ hslash hstart
  obtain ⟨front, last, hparts⟩ := hsplit
  rw [hparts, List.foldl_append] at hall ⊢
  rcases hall with hproper | hdriven
  · rcases getLast?_appendSegment (front.foldl appendSegment [builtinNamespace.toList])
        (List.getLast?_concat (l := last)) hc with hdriven | hlast
    · exact Or.inl hdriven
    · exact Or.inr ⟨hproper, hlast⟩
  · exact Or.inl hdriven

/-! ## Unresolved references -/

/-- The directory of the placeholders as a path. -/
def builtinDirectory : Path := .ofString ("/" ++ builtinNamespace)

/-- The segments go down, to a name with the end of an extension. -/
def GoesDown (segments : List String) : Prop :=
  (∀ n ∈ names segments, Path.slash ∉ n ∧ n ≠ Path.dotDot) ∧
    ∃ n b, (names segments).getLast? = some (n ++ [b]) ∧ (b = 99 ∨ b = 112)

theorem GoesDown.of_getLast? {segments : List String}
    (hnames : ∀ n ∈ names segments, Path.slash ∉ n ∧ n ≠ Path.dotDot) {n : FileName} {c : Char}
    (hlast : (names segments).getLast? = some n) (hn : n.getLast? = some (UInt8.ofNat c.toNat))
    (hc : c = 'c' ∨ c = 'p') : GoesDown segments := by
  obtain ⟨front, rfl⟩ := List.getLast?_eq_some_iff.mp hn
  refine ⟨hnames, front, _, hlast, ?_⟩
  rcases hc with rfl | rfl
  · exact Or.inl rfl
  · exact Or.inr rfl

theorem GoesDown.readText?_eq_none {disk : Disk} (hdisk : disk.NothingUnder builtinDirectory)
    {segments : List String} (h : GoesDown segments)
    (hbuiltin : (ofSegments segments).isBuiltin = true) :
    (ofSegments segments).filePath?.bind disk.readText? = none := by
  obtain ⟨hnames, n, b, hlast, hb⟩ := h
  have hhead : ∃ rest, segments = builtinNamespace :: rest := by
    cases segments with
    | nil => cases hlast
    | cons s rest =>
        have hs : s = builtinNamespace := by
          simpa [isBuiltin, ofSegments, segments?] using hbuiltin
        exact ⟨rest, by rw [hs]⟩
  obtain ⟨rest, rfl⟩ := hhead
  have hcons : names (builtinNamespace :: rest) = octets builtinNamespace.toList :: names rest := by
    have hdecode : percentDecode builtinNamespace.toList = octets builtinNamespace.toList := by
      decide
    rw [names, List.map_cons, hdecode]
    rfl
  rw [hcons] at hlast hnames
  -- The directory itself does not end like an extension, so a name follows it.
  have hmem : n ++ [b] ∈ names rest := by
    cases hrest : names rest with
    | nil =>
        rw [hrest, List.getLast?_singleton, Option.some.injEq] at hlast
        have hend : (octets builtinNamespace.toList).getLast? = some b := by
          rw [hlast, List.getLast?_concat]
        have hn : (octets builtinNamespace.toList).getLast? = some 110 := by decide
        obtain rfl := Option.some.inj (hn.symm.trans hend)
        rcases hb with hb | hb
        · cases hb
        · cases hb
    | cons m more =>
        rw [hrest, List.getLast?_cons_cons] at hlast
        exact List.mem_of_getLast? hlast
  have hstep : Path.isStep (n ++ [b]) = true := by
    apply (Path.isStep_concat n _).1
    rcases hb with rfl | rfl
    · decide
    · decide
  obtain ⟨p, hp, habs, hsteps⟩ := exists_filePath?_ofSegments (List.cons_ne_nil _ rest)
    (hcons ▸ fun m hm => (hnames m hm).1)
  have hfirst : Path.isStep (octets builtinNamespace.toList) = true := by decide
  rw [hcons, List.filter_cons, hfirst, if_pos rfl] at hsteps
  rw [hp, Option.bind_some]
  refine Disk.NothingUnder.readText?_eq_none (n := octets builtinNamespace.toList) hdisk
    (by decide) hfirst (by decide) habs hsteps ?_ ?_
  · exact List.ne_nil_of_mem (List.mem_filter.mpr ⟨hmem, hstep⟩)
  · intro hup
    exact (hnames _ (List.mem_cons_of_mem _ (List.mem_filter.mp hup).1)).2 rfl

theorem getLast?_join (p : Path) {q : Path} {b : UInt8} (h : q.octets.getLast? = some b) :
    (p.join q).octets.getLast? = some b := by
  unfold Path.join
  split
  · exact h
  · split
    · simp [h]
    · simp [List.getLast?_append, List.getLast?_cons, h]

/-- A file in an include directory has the location of a normalized path. -/
theorem exists_of_inDirectory? {disk : Disk} {s : List Char} {directory : Path} {l : Location}
    (h : inDirectory? disk s directory = some l) :
    ∃ q, (directory.join ⟨octets s⟩).normalize? = some q ∧ ofPath? q = some l := by
  unfold inDirectory? at h
  simp only at h
  split at h
  · exact Option.bind_eq_some_iff.mp h
  · cases h

theorem goesDown_of_inDirectory? {disk : Disk} {s : List Char} {c : Char} {directory : Path}
    {l : Location} (h : s.getLast? = some c) (hc : c = 'c' ∨ c = 'p')
    (hl : inDirectory? disk s directory = some l) :
    ∃ segments, l = ofSegments segments ∧ GoesDown segments := by
  obtain ⟨q, hq, hql⟩ := exists_of_inDirectory? hl
  have hend := getLast?_join directory (q := ⟨octets s⟩) (getLast?_octets h hc)
  have hletter : UInt8.ofNat c.toNat ≠ Path.slash ∧ UInt8.ofNat c.toNat ≠ 46 := by
    rcases hc with rfl | rfl
    · decide
    · decide
  obtain ⟨n, hn⟩ := Path.exists_getLast?_steps hend hletter.1 hletter.2
  have hup := (Path.isStep_concat n hletter.2).2
  have hsteps := Path.steps_of_normalize? hq
  have hlast : q.steps.getLast? = some (n ++ [UInt8.ofNat c.toNat]) := by
    rw [hsteps]
    exact Path.getLast?_normalNames hn hup
  obtain ⟨-, rfl⟩ := eq_of_ofPath? hql fun hnil => by simp [hnil] at hlast
  refine ⟨_, rfl, GoesDown.of_getLast? ?_ (by rw [names_map_segment]; exact hlast)
    List.getLast?_concat hc⟩
  intro m hm
  rw [names_map_segment, hsteps] at hm
  obtain ⟨hm, hne⟩ := Path.mem_normalNames hm
  exact ⟨Path.slash_notMem_of_mem_pieces (List.mem_filter.mp hm).1, hne⟩

theorem goesDown_of_builtinLocation {s : List Char} {c : Char} (h : s.getLast? = some c)
    (hc : c = 'c' ∨ c = 'p') (hbuiltin : (builtinLocation s).isBuiltin = true) :
    ∃ segments, builtinLocation s = ofSegments segments ∧ GoesDown segments := by
  obtain ⟨segments, hl, hdriven | ⟨hproper, last, hlast, hend⟩⟩ := builtinLocation_spec h hc
  · -- A drive is too short to be the directory of the placeholders.
    exfalso
    obtain ⟨drive, rest, rfl, hdrive⟩ := hdriven
    have hname : String.ofList drive = builtinNamespace := by
      rw [hl] at hbuiltin
      simpa [isBuiltin, ofSegments, segments?] using hbuiltin
    have hlist : drive = builtinNamespace.toList := by
      rw [← hname, String.toList_ofList]
    rw [hlist] at hdrive
    exact absurd hdrive (by decide)
  · have hnames : names (segments.map String.ofList) = segments.map percentDecode := by
      simp [names]
    refine ⟨_, hl, GoesDown.of_getLast? ?_ ?_ hend hc⟩
    · intro m hm
      rw [hnames] at hm
      obtain ⟨s, hs, rfl⟩ := List.mem_map.mp hm
      exact hproper s hs
    · rw [hnames, List.getLast?_map, hlast]
      rfl

/-- Where no file is under the directory of the placeholders, an unresolved reference whose base
name is not registered leads to nothing that can be read. -/
theorem readText?_of_isUnresolved {disk : Disk} (hdisk : disk.NothingUnder builtinDirectory)
    {registry : Registry} {directories : List Path} {reference : String} {isBuiltin : Bool}
    (hregistry : registry.resolve? (lookupName reference) = none)
    (h : (resolve disk registry directories reference isBuiltin).isUnresolved = true) :
    (resolve disk registry directories reference isBuiltin).target.filePath?.bind
      disk.readText? = none := by
  obtain ⟨c, hlast, hc⟩ := exists_getLast?_normalize reference.toList
  have htarget : (resolve disk registry directories reference isBuiltin).target =
      (directories.findSome? (inDirectory? disk (normalize reference.toList))).getD
        (builtinLocation (normalize reference.toList)) := by
    rw [lookupName] at hregistry
    simp [resolve, target?, hregistry]
  rw [Edge.isUnresolved, htarget] at h
  rw [htarget]
  cases hfound : directories.findSome? (inDirectory? disk (normalize reference.toList)) with
  | none =>
      rw [hfound, Option.getD_none] at h
      obtain ⟨segments, hl, hdown⟩ := goesDown_of_builtinLocation hlast hc h
      rw [Option.getD_none, hl]
      rw [hl] at h
      exact hdown.readText?_eq_none hdisk h
  | some l =>
      rw [hfound, Option.getD_some] at h
      obtain ⟨directory, -, hl⟩ := List.exists_of_findSome?_eq_some hfound
      obtain ⟨segments, rfl, hdown⟩ := goesDown_of_inDirectory? hlast hc hl
      exact hdown.readText?_eq_none hdisk h

end PawnScope.Reference
