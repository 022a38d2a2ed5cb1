import PawnScope.Location
import PawnScope.Proofs.Path.Steps
import PawnScope.Proofs.Text.Percent

/-! # Locations and paths of files

The path of a file's location takes a step for each segment. The location of an absolute path has
a segment for each step, from which the step can be read back. -/

namespace PawnScope.Location

/-! ## Segments as names -/

/-- The names for which segments stand. -/
def names (segments : List String) : List FileName :=
  segments.map fun s => Text.percentDecode s.toList

/-- The path with the given names, each after a slash. -/
def slashed (ns : List FileName) : Path := ⟨ns.flatMap (Path.slash :: ·)⟩

theorem filePath?_ofSegments {segments : List String} (h : segments ≠ []) :
    (ofSegments segments).filePath? = some ⟨endDrive (slashed (names segments)).octets⟩ := by
  obtain ⟨s, rest, rfl⟩ := List.exists_cons_of_ne_nil h
  simp [filePath?, segments?, ofSegments, slashed, names, List.flatMap_map]

theorem octets_slashed {ns : List FileName} (h : ns ≠ []) :
    (slashed ns).octets = Path.slash :: [Path.slash].intercalate ns := by
  induction ns with
  | nil => exact absurd rfl h
  | cons n ns ih =>
      cases ns with
      | nil => simp [slashed]
      | cons m ns =>
          have htail := ih (List.cons_ne_nil m ns)
          simp only [slashed, List.flatMap_cons] at htail ⊢
          rw [htail]
          simp [List.intercalate]

theorem pieces_slashed {ns : List FileName} (h : ns ≠ []) (hslash : ∀ n ∈ ns, Path.slash ∉ n) :
    (slashed ns).pieces = [] :: ns := by
  rw [Path.pieces, octets_slashed h, List.splitOn_cons_eq_if_modifyHead,
    List.splitOn_intercalate Path.slash hslash h]
  simp

theorem isAbsolute_slashed {ns : List FileName} (h : ns ≠ []) :
    (slashed ns).isAbsolute = true := by
  simp [Path.isAbsolute, octets_slashed h]

/-! ## Drives -/

theorem endDrive_eq_or (octets : List UInt8) :
    endDrive octets = octets ∨ endDrive octets = octets ++ [Path.slash] := by
  unfold endDrive
  split
  · split
    · exact Or.inr rfl
    · exact Or.inl rfl
  · exact Or.inl rfl

/-- Only a colon or a bar makes the end of a path a drive. -/
theorem endDrive_of_getLast? {octets : List UInt8} {b : UInt8} (hb : octets.getLast? = some b)
    (hcolon : b ≠ 58) (hbar : b ≠ 124) : endDrive octets = octets := by
  obtain ⟨front, rfl⟩ := List.getLast?_eq_some_iff.mp hb
  unfold endDrive
  split
  · rename_i mark letter more rest hreverse
    rw [List.reverse_concat, List.cons.injEq] at hreverse
    obtain ⟨rfl, -⟩ := hreverse
    simp [hcolon, hbar]
  · rfl

theorem isAbsolute_endDrive {p : Path} (h : p.isAbsolute = true) :
    (⟨endDrive p.octets⟩ : Path).isAbsolute = true := by
  rcases endDrive_eq_or p.octets with he | he
  · rw [he]
    exact h
  · rw [he]
    simp only [Path.isAbsolute, beq_iff_eq] at h ⊢
    rw [List.head?_append, h]
    rfl

theorem steps_endDrive (p : Path) : (⟨endDrive p.octets⟩ : Path).steps = p.steps := by
  rcases endDrive_eq_or p.octets with he | he
  · rw [he]
  · have hnil : Path.isStep [] = false := by decide
    simp [he, Path.steps, Path.pieces, List.splitOn_append_cons_self, hnil]

/-- The path of a file's location takes the steps of its segments. -/
theorem exists_filePath?_ofSegments {segments : List String} (h : segments ≠ [])
    (hslash : ∀ n ∈ names segments, Path.slash ∉ n) :
    ∃ p, (ofSegments segments).filePath? = some p ∧ p.isAbsolute = true ∧
      p.steps = (names segments).filter Path.isStep := by
  have hne : names segments ≠ [] := by simpa [names] using h
  refine ⟨_, filePath?_ofSegments h, isAbsolute_endDrive (isAbsolute_slashed hne), ?_⟩
  have hnil : Path.isStep [] = false := by decide
  rw [steps_endDrive, Path.steps, pieces_slashed hne hslash, List.filter_cons, hnil]
  rfl

/-! ## Locations of paths -/

/-- The segment that stands for a name. -/
def segment (n : FileName) : String := String.ofList (Text.percentOctets segmentReserved n)

theorem percent_mem_segmentReserved : '%' ∈ segmentReserved := by decide

theorem names_map_segment (ns : List FileName) : names (ns.map segment) = ns := by
  induction ns with
  | nil => rfl
  | cons n ns ih =>
      have hn : Text.percentDecode (segment n).toList = n := by
        rw [segment, String.toList_ofList]
        exact Text.percentDecode_percentOctets percent_mem_segmentReserved n
      rw [List.map_cons, names, List.map_cons, hn]
      exact congrArg (List.cons n) ih

theorem segmentOf_ofStep (s : FileName) : segmentOf (Path.Component.ofStep s) = some (segment s) := by
  by_cases h : s = Path.dotDot
  · subst h
    decide
  · simp [Path.Component.ofStep, h, segmentOf, segment]

theorem filterMap_segmentOf {p : Path} (h : p.isAbsolute = true) :
    p.components.filterMap segmentOf = p.steps.map segment := by
  have hstart : p.start.filterMap segmentOf = [] := by
    rw [Path.start, if_pos h]
    rfl
  have hsteps : ∀ steps : List FileName,
      (steps.map Path.Component.ofStep).filterMap segmentOf = steps.map segment := by
    intro steps
    induction steps with
    | nil => rfl
    | cons s steps ih =>
        rw [List.map_cons, List.filterMap_cons_some (segmentOf_ofStep s), ih, List.map_cons]
  rw [Path.components_eq, List.filterMap_append, hstart, hsteps, List.nil_append]

/-- The location of a path depends on nothing but its steps. -/
theorem ofPath?_eq (p : Path) :
    ofPath? p = if p.isAbsolute then
      some (ofSegments (if p.steps = [] then [""] else p.steps.map segment)) else none := by
  by_cases h : p.isAbsolute = true
  · rw [ofPath?, if_pos h, if_pos h, filterMap_segmentOf h]
    cases p.steps with
    | nil => rfl
    | cons s steps => rfl
  · rw [ofPath?, if_neg h, if_neg h]

/-- The location of a path that takes a step has a segment for each of its steps. -/
theorem eq_of_ofPath? {p : Path} {l : Location} (h : ofPath? p = some l) (hsteps : p.steps ≠ []) :
    p.isAbsolute = true ∧ l = ofSegments (p.steps.map segment) := by
  rw [ofPath?_eq, if_neg hsteps] at h
  split at h
  · rename_i habs
    exact ⟨habs, (Option.some.inj h).symm⟩
  · cases h

/-- A path whose last step does not end like a drive can be read back from its location, up to
pieces that go nowhere. -/
theorem exists_filePath?_of_ofPath? {p : Path} {l : Location} {n : FileName} {b : UInt8}
    (h : ofPath? p = some l) (hlast : p.steps.getLast? = some (n ++ [b])) (hcolon : b ≠ 58)
    (hbar : b ≠ 124) :
    ∃ q, l.filePath? = some q ∧ p.isAbsolute = true ∧ q.isAbsolute = true ∧
      q.pieces = [] :: p.steps := by
  obtain ⟨front, hfront⟩ := List.getLast?_eq_some_iff.mp hlast
  have hsteps : p.steps ≠ [] := by simp [hfront]
  obtain ⟨habs, rfl⟩ := eq_of_ofPath? h hsteps
  have hoctets : (slashed p.steps).octets.getLast? = some b := by
    simp [hfront, slashed, List.getLast?_append, List.getLast?_cons]
  refine ⟨slashed p.steps, ?_, habs, isAbsolute_slashed hsteps, ?_⟩
  · rw [filePath?_ofSegments (by simpa using hsteps), names_map_segment,
      endDrive_of_getLast? hoctets hcolon hbar]
  · apply pieces_slashed hsteps
    intro m hm
    rw [Path.steps, List.mem_filter] at hm
    exact Path.slash_notMem_of_mem_pieces hm.1

theorem isAbsolute_of_ofPath? {p : Path} {l : Location} (h : ofPath? p = some l) :
    p.isAbsolute = true := by
  by_contra hrelative
  rw [ofPath?_eq, if_neg hrelative] at h
  cases h

/-- The path of a location takes the same steps as the path from which the location was made. -/
theorem exists_filePath?_alike {p : Path} {l : Location} (h : ofPath? p = some l) :
    ∃ q, l.filePath? = some q ∧ p.Alike q := by
  have habs := isAbsolute_of_ofPath? h
  by_cases hsteps : p.steps = []
  · rw [ofPath?_eq, if_pos habs, if_pos hsteps] at h
    obtain rfl := Option.some.inj h
    exact ⟨⟨[Path.slash]⟩, by decide, habs, by rw [hsteps]; decide⟩
  · obtain ⟨-, rfl⟩ := eq_of_ofPath? h hsteps
    have hslash : ∀ n ∈ names (p.steps.map segment), Path.slash ∉ n := by
      intro n hn
      rw [names_map_segment, Path.steps, List.mem_filter] at hn
      exact Path.slash_notMem_of_mem_pieces hn.1
    obtain ⟨q, hq, hqabs, hqsteps⟩ :=
      exists_filePath?_ofSegments (by simpa using hsteps) hslash
    refine ⟨q, hq, by rw [habs, hqabs], ?_⟩
    rw [hqsteps, names_map_segment, Path.steps, List.filter_filter]
    simp

/-! ## Standard locations -/

/-- The location is spelled as that of its own path. -/
def IsStandard (l : Location) : Prop := l.filePath?.bind ofPath? = some l

instance (l : Location) : Decidable l.IsStandard := inferInstanceAs (Decidable (_ = _))

theorem isAbsolute_of_filePath? {l : Location} {p : Path} (h : l.filePath? = some p) :
    p.isAbsolute = true := by
  simp only [filePath?, Option.bind_eq_bind, Option.bind_eq_some_iff] at h
  obtain ⟨segments, hsegments, h⟩ := h
  split at h
  · obtain rfl := Option.some.inj h
    cases segments with
    | nil =>
        unfold segments? at hsegments
        split at hsegments
        · cases hsegments
        · simp_all
        · cases hsegments
    | cons s segments =>
        apply isAbsolute_endDrive
          (p := ⟨(s :: segments).flatMap fun s => Path.slash :: Text.percentDecode s.toList⟩)
        rfl
  · cases h

/-- What is made from a path is standard. -/
theorem isStandard_of_ofPath? {p : Path} {l : Location} (h : ofPath? p = some l) :
    l.IsStandard := by
  obtain ⟨q, hq, habs, hsteps⟩ := exists_filePath?_alike h
  rw [IsStandard, hq, Option.bind_some, ofPath?_eq, ← habs, ← hsteps, ← ofPath?_eq, h]

/-- A path has one standard location. -/
theorem IsStandard.eq_of_alike {l l' : Location} {p q : Path} (hl : l.IsStandard)
    (hl' : l'.IsStandard) (hp : l.filePath? = some p) (hq : l'.filePath? = some q)
    (h : p.Alike q) : l = l' := by
  rw [IsStandard, hp, Option.bind_some, ofPath?_eq, h.1, h.2, ← ofPath?_eq] at hl
  rw [IsStandard, hq, Option.bind_some, hl] at hl'
  exact Option.some.inj hl'

end PawnScope.Location
