import PawnScope.Proofs.Include.Placeholder
import PawnScope.Proofs.Text.Identifiers
import PawnScope.Proofs.Text.Octets

/-! # Placeholders that stray

The placeholder of a reference comes about part by part, from the directory of the placeholders on.
Parts that are written as dots are passed over, so that no such part goes up. But tabs and line
breaks are dropped only when a part is added, and a part that is two dots then does go up. It leaves
the directory if it comes first; a path that has gone below a name never comes up to it again, since
going up leaves an empty segment behind. Outside, a path may come back to the directory only by its
name. -/

namespace PawnScope.Reference

open Text Location

/-! ## Encoded segments -/

theorem percentEncode_injective {s t : List Char}
    (h : percentEncode segmentReserved s = percentEncode segmentReserved t) : s = t := by
  apply octets_injective
  rw [← percentDecode_percentEncode, h, percentDecode_percentEncode]

/-- A segment is one of the spellings of a text exactly if it is made from this text. -/
theorem percentEncode_mem_iff {spellings : List (List Char)} {t : List Char}
    (hdecode : ∀ d ∈ spellings, percentDecode d = octets t)
    (hmem : percentEncode segmentReserved t ∈ spellings) (s : List Char) :
    percentEncode segmentReserved s ∈ spellings ↔ s = t := by
  constructor
  · intro h
    apply octets_injective
    rw [← percentDecode_percentEncode, hdecode _ h]
  · rintro rfl
    exact hmem

theorem percentEncode_mem_doubleDots_iff (s : List Char) :
    percentEncode segmentReserved s ∈ doubleDots ↔ s = ['.', '.'] :=
  percentEncode_mem_iff (by decide) (by decide) s

theorem percentEncode_mem_singleDots_iff (s : List Char) :
    percentEncode segmentReserved s ∈ singleDots ↔ s = ['.'] :=
  percentEncode_mem_iff (by decide) (by decide) s

theorem percentEncode_of_isDrive {s : List Char} (h : isDrive s = true) :
    percentEncode segmentReserved s = s := by
  have hletters : ∀ n : Fin 128, (Char.ofNat n).isAlpha = true →
      percentEncode segmentReserved [Char.ofNat n] = [Char.ofNat n] := by decide +kernel
  unfold isDrive at h
  split at h
  · rename_i letter mark
    rw [Bool.and_eq_true, Bool.or_eq_true, beq_iff_eq, beq_iff_eq] at h
    have hletter : percentEncode segmentReserved [letter] = [letter] := by
      have hn := hletters ⟨letter.toNat, toNat_lt_of_isAlpha h.1⟩
      rw [Char.ofNat_toNat] at hn
      exact hn h.1
    have hmark : percentEncode segmentReserved [mark] = [mark] := by
      rcases h.2 with rfl | rfl
      · decide
      · decide
    rw [← List.singleton_append, percentEncode_append, hletter, hmark]
  · cases h

theorem isDrive_percentEncode (s : List Char) :
    isDrive (percentEncode segmentReserved s) = isDrive s := by
  rw [Bool.eq_iff_iff]
  constructor
  · intro h
    have hs := percentEncode_injective (percentEncode_of_isDrive h)
    rwa [hs] at h
  · intro h
    rwa [percentEncode_of_isDrive h]

/-- A backslash is encoded, so that none ends a drive. -/
theorem isAnchor_percentEncode (s : List Char) :
    isAnchor (percentEncode segmentReserved s) = isDrive s := by
  have hoctets : ∀ n : Fin 256, '\\' ∉ percentByte segmentReserved (UInt8.ofNat n) := by
    decide +kernel
  have hall : (percentEncode segmentReserved s).takeWhile (· != '\\') =
      percentEncode segmentReserved s := by
    rw [List.takeWhile_eq_self_iff]
    intro c hc
    obtain ⟨b, -, hb⟩ := List.mem_flatMap.mp hc
    rw [bne_iff_ne]
    rintro rfl
    apply hoctets ⟨b.toNat, b.toNat_lt⟩
    rwa [UInt8.ofNat_toNat]
  rw [isAnchor, hall, isDrive_percentEncode]

/-! ## Where the parts of a reference lead -/

/-- Where the path of a placeholder stands after some parts of a reference. -/
inductive Place where
  /-- At the directory of the placeholders. -/
  | home
  /-- Below this directory. -/
  | within
  /-- At the root. -/
  | root
  /-- At another name right below the root. -/
  | aside
  /-- Further down elsewhere, or at a drive, from which nothing goes up. -/
  | beyond
  deriving DecidableEq, Repr

/-- The place is in the directory of the placeholders. -/
def Place.isBuiltin : Place → Bool
  | .home | .within => true
  | .root | .aside | .beyond => false

/-- A drive, or a part of which a drive is cut off. -/
def startsDrive (part : List Char) : Bool :=
  isDrive (visible part) || (cutDrive? (segmentRuns segmentReserved part)).isSome

/-- The place after one more part. Dots count by what is to be seen of a part, but for parts that
are written as dots. -/
def Place.next (place : Place) (part : List Char) : Place :=
  if part = ['.'] ∨ part = ['.', '.'] then place
  else
    match place with
    | .home => if visible part = ['.', '.'] then .root else .within
    | .within => .within
    | .root =>
        if startsDrive part then .beyond
        else if visible part ∈ [[], ['.'], ['.', '.']] then .root
        else if visible part = builtinNamespace.toList then .home
        else .aside
    | .aside => if visible part = ['.', '.'] then .root else .beyond
    | .beyond => .beyond

/-- The place to which a reference leads from the directory of the placeholders. -/
def landing (s : List Char) : Place :=
  ((s.splitOnP isSeparator).filter (!·.isEmpty)).foldl Place.next .home

/-- A first segment that is not the directory of the placeholders. -/
def IsForeign (first : List Char) : Prop := first ≠ [] ∧ first ≠ builtinNamespace.toList

/-- The segments of a path that stands at a place. -/
def Place.Holds : Place → List (List Char) → Prop
  | .home, segments => segments = [builtinNamespace.toList]
  | .within, segments => ∃ second rest, segments = builtinNamespace.toList :: second :: rest
  | .root, segments => segments = [[]]
  | .aside, segments => ∃ first, segments = [first] ∧ IsForeign first ∧ isAnchor first = false
  | .beyond, segments => ∃ first rest, segments = first :: rest ∧ IsForeign first ∧
      (rest = [] → isAnchor first = true)

/-! ## One part -/

variable {first part : List Char}

theorem appendSegment_cons (hpart : ¬(part = ['.'] ∨ part = ['.', '.'])) (hfirst : first ≠ [])
    (rest : List (List Char)) : appendSegment (first :: rest) part = dropLeadingEmpty
      (addSegment .file (first :: rest) (segmentRuns segmentReserved part) true).1 := by
  have hroot : first :: rest ≠ [[]] := fun h => hfirst (List.cons.inj h).1
  rw [appendSegment, if_neg hpart]
  simp only [if_neg hroot]

theorem appendSegment_singleton_of_up (hpart : ¬(part = ['.'] ∨ part = ['.', '.']))
    (hfirst : first ≠ []) (hanchor : isAnchor first = false) (hup : visible part = ['.', '.']) :
    appendSegment [first] part = [[]] := by
  have hdots : (segmentRuns segmentReserved part).flatten ∈ doubleDots := by
    rw [flatten_segmentRuns, percentEncode_mem_doubleDots_iff]
    exact hup
  rw [appendSegment_cons hpart hfirst]
  simp [addSegment, hdots, hanchor, dropLeadingEmpty]

/-- Only a part that goes up takes the first segment away, if this stands alone and is no anchor. -/
theorem exists_appendSegment_cons (hpart : ¬(part = ['.'] ∨ part = ['.', '.']))
    (hfirst : first ≠ []) (rest : List (List Char))
    (hstay : visible part = ['.', '.'] → rest = [] → isAnchor first = true) :
    ∃ second more, appendSegment (first :: rest) part = first :: second :: more := by
  have hconcat : ∀ more segment,
      ∃ second more', dropLeadingEmpty (first :: more ++ [segment]) = first :: second :: more' := by
    intro more segment
    rw [List.cons_append, dropLeadingEmpty_cons hfirst]
    obtain ⟨second, more', hmore⟩ := List.exists_cons_of_ne_nil (l := more ++ [segment]) (by simp)
    exact ⟨second, more', by rw [hmore]⟩
  rw [appendSegment_cons hpart hfirst]
  rcases addSegment_cases (first :: rest) (segmentRuns segmentReserved part) with
    ⟨hnil, -⟩ | ⟨hdots, hadd⟩ | ⟨-, hadd⟩ | ⟨-, hadd⟩
  · cases hnil
  · rw [flatten_segmentRuns, percentEncode_mem_doubleDots_iff] at hdots
    rw [hadd]
    cases rest with
    | nil =>
        have hanchor : isAnchor first = true := hstay hdots rfl
        simpa [hanchor] using hconcat [] []
    | cons second rest =>
        split
        · exact hconcat (second :: rest) []
        · exact hconcat (second :: rest).dropLast []
  · rw [hadd]
    exact hconcat rest []
  · rw [hadd]
    exact hconcat rest _

/-- What a part makes at the root if no drive is cut off it. -/
theorem addSegment_nil (hcut : cutDrive? (segmentRuns segmentReserved part) = none) :
    (addSegment .file [] (segmentRuns segmentReserved part) true).1 =
      if visible part = ['.'] ∨ visible part = ['.', '.'] then [[]]
      else if isDrive (visible part) then [(visible part).take 1 ++ [':']]
      else [percentEncode segmentReserved (visible part)] := by
  by_cases hup : visible part = ['.', '.']
  · simp [addSegment, hcut, flatten_segmentRuns, percentEncode_mem_doubleDots_iff, hup]
  · by_cases hstay : visible part = ['.']
    · simp [addSegment, hcut, flatten_segmentRuns, percentEncode_mem_doubleDots_iff,
        percentEncode_mem_singleDots_iff, hstay]
    · simp only [addSegment, hcut, flatten_segmentRuns, List.contains_iff_mem,
        percentEncode_mem_doubleDots_iff, percentEncode_mem_singleDots_iff, isDrive_percentEncode,
        hup, hstay, or_self, if_false, ite_self, true_and, List.nil_append]
      split
      · rename_i hdrive
        rw [percentEncode_of_isDrive hdrive]
      · rfl

/-- At the root a part starts the path anew. -/
theorem appendSegment_root (hpart : ¬(part = ['.'] ∨ part = ['.', '.'])) :
    if startsDrive part then Driven (appendSegment [[]] part)
    else if visible part ∈ [[], ['.'], ['.', '.']] then appendSegment [[]] part = [[]]
    else appendSegment [[]] part = [percentEncode segmentReserved (visible part)] := by
  have happend : appendSegment [[]] part = dropLeadingEmpty
      (addSegment .file [] (segmentRuns segmentReserved part) true).1 := by
    rw [appendSegment, if_neg hpart]
    rfl
  rw [happend]
  cases hcut : cutDrive? (segmentRuns segmentReserved part) with
  | some cut =>
      have hstart : startsDrive part = true := by simp [startsDrive, hcut]
      rw [if_pos hstart]
      refine Driven.dropLeadingEmpty ⟨cut.1, [cut.2], ?_, isDrive_of_cutDrive? hcut⟩
      simp [addSegment, hcut]
  | none =>
      have hstart : startsDrive part = isDrive (visible part) := by simp [startsDrive, hcut]
      rw [hstart, addSegment_nil hcut]
      cases hdrive : isDrive (visible part) with
      | true =>
          have hdots : ¬(visible part = ['.'] ∨ visible part = ['.', '.']) := by
            rintro (h | h)
            · rw [h] at hdrive
              cases hdrive
            · rw [h] at hdrive
              cases hdrive
          rw [if_pos rfl, if_neg hdots, if_pos rfl]
          exact Driven.dropLeadingEmpty ⟨_, [], rfl, isDrive_take hdrive⟩
      | false =>
          by_cases hnil : visible part = []
          · have hempty : percentEncode segmentReserved [] = [] := rfl
            simp [hnil, hempty, dropLeadingEmpty]
          · by_cases hdots : visible part = ['.'] ∨ visible part = ['.', '.']
            · simp [hnil, hdots, dropLeadingEmpty]
            · simp [hnil, hdots, dropLeadingEmpty]

/-! ## All parts -/

theorem Driven.beyond {segments : List (List Char)} (h : Driven segments) :
    Place.beyond.Holds segments := by
  obtain ⟨drive, rest, rfl, hdrive⟩ := h
  refine ⟨drive, rest, rfl, ⟨ne_nil_of_isDrive hdrive, ?_⟩, fun _ => isAnchor_of_isDrive hdrive⟩
  rintro rfl
  exact absurd hdrive (by decide)

theorem holds_percentEncode {s : List Char} (hnil : s ≠ []) (hdrive : isDrive s = false) :
    (if s = builtinNamespace.toList then Place.home else Place.aside).Holds
      [percentEncode segmentReserved s] := by
  have hself : percentEncode segmentReserved builtinNamespace.toList = builtinNamespace.toList := by
    decide
  have hempty : percentEncode segmentReserved [] = [] := rfl
  split
  · rename_i hname
    rw [hname, hself]
    rfl
  · rename_i hname
    refine ⟨_, rfl, ⟨?_, ?_⟩, (isAnchor_percentEncode s).trans hdrive⟩
    · rw [← hempty]
      exact fun h => hnil (percentEncode_injective h)
    · rw [← hself]
      exact fun h => hname (percentEncode_injective h)

theorem Place.holds_next_root (hpart : ¬(part = ['.'] ∨ part = ['.', '.'])) :
    (Place.root.next part).Holds (appendSegment [[]] part) := by
  have hstart := appendSegment_root hpart
  simp only [Place.next, if_neg hpart]
  by_cases hdrive : startsDrive part = true
  · rw [if_pos hdrive] at hstart ⊢
    exact hstart.beyond
  · rw [if_neg hdrive] at hstart ⊢
    by_cases hdots : visible part ∈ [[], ['.'], ['.', '.']]
    · rw [if_pos hdots] at hstart ⊢
      exact hstart
    · rw [if_neg hdots] at hstart ⊢
      rw [hstart]
      apply holds_percentEncode
      · exact fun hnil => hdots (by simp [hnil])
      · rw [Bool.eq_false_iff]
        exact fun h => hdrive (by simp [startsDrive, h])

theorem Place.Holds.next {place : Place} {segments : List (List Char)} (h : place.Holds segments)
    (part : List Char) : (place.next part).Holds (appendSegment segments part) := by
  by_cases hpart : part = ['.'] ∨ part = ['.', '.']
  · rw [Place.next.eq_def, if_pos hpart, appendSegment, if_pos hpart]
    exact h
  · have hname : builtinNamespace.toList ≠ [] := by decide
    cases place with
    | home =>
        obtain rfl := h
        by_cases hup : visible part = ['.', '.']
        · simp only [Place.next, if_neg hpart, if_pos hup]
          exact appendSegment_singleton_of_up hpart hname (by decide) hup
        · simp only [Place.next, if_neg hpart, if_neg hup]
          exact exists_appendSegment_cons hpart hname _ fun h => absurd h hup
    | within =>
        obtain ⟨second, rest, rfl⟩ := h
        simp only [Place.next, if_neg hpart]
        exact exists_appendSegment_cons hpart hname _ fun _ h => by cases h
    | root =>
        obtain rfl := h
        exact Place.holds_next_root hpart
    | aside =>
        obtain ⟨first, rfl, hforeign, hanchor⟩ := h
        by_cases hup : visible part = ['.', '.']
        · simp only [Place.next, if_neg hpart, if_pos hup]
          exact appendSegment_singleton_of_up hpart hforeign.1 hanchor hup
        · simp only [Place.next, if_neg hpart, if_neg hup]
          obtain ⟨second, more, hmore⟩ :=
            exists_appendSegment_cons hpart hforeign.1 [] fun h => absurd h hup
          exact ⟨first, second :: more, hmore, hforeign, fun h => by cases h⟩
    | beyond =>
        obtain ⟨first, rest, rfl, hforeign, hanchor⟩ := h
        simp only [Place.next, if_neg hpart]
        obtain ⟨second, more, hmore⟩ :=
          exists_appendSegment_cons hpart hforeign.1 rest fun _ hrest => hanchor hrest
        exact ⟨first, second :: more, hmore, hforeign, fun h => by cases h⟩

theorem Place.Holds.foldl {place : Place} {segments : List (List Char)} (h : place.Holds segments)
    (parts : List (List Char)) :
    (parts.foldl Place.next place).Holds (parts.foldl appendSegment segments) := by
  induction parts generalizing place segments with
  | nil => exact h
  | cons part parts ih => exact ih (h.next part)

/-! ## The directory of the placeholders -/

theorem isBuiltin_ofSegments_cons (first : List Char) (rest : List (List Char)) :
    (ofSegments ((first :: rest).map String.ofList)).isBuiltin =
      decide (first = builtinNamespace.toList) := by
  have hfirst : String.ofList first = builtinNamespace ↔ first = builtinNamespace.toList := by
    rw [← String.toList_inj, String.toList_ofList]
  simp [isBuiltin, ofSegments, segments?, hfirst]

theorem Place.Holds.isBuiltin {place : Place} {segments : List (List Char)}
    (h : place.Holds segments) :
    (ofSegments (segments.map String.ofList)).isBuiltin = place.isBuiltin := by
  cases place with
  | home =>
      obtain rfl := h
      rw [isBuiltin_ofSegments_cons, decide_eq_true rfl, Place.isBuiltin]
  | within =>
      obtain ⟨second, rest, rfl⟩ := h
      rw [isBuiltin_ofSegments_cons, decide_eq_true rfl, Place.isBuiltin]
  | root =>
      obtain rfl := h
      rw [isBuiltin_ofSegments_cons, Place.isBuiltin]
      decide
  | aside =>
      obtain ⟨first, rfl, hforeign, -⟩ := h
      rw [isBuiltin_ofSegments_cons, decide_eq_false hforeign.2, Place.isBuiltin]
  | beyond =>
      obtain ⟨first, rest, rfl, hforeign, -⟩ := h
      rw [isBuiltin_ofSegments_cons, decide_eq_false hforeign.2, Place.isBuiltin]

/-- A placeholder is in its directory exactly if its reference lands there. -/
theorem isBuiltin_builtinLocation (s : List Char) :
    (builtinLocation s).isBuiltin = (landing s).isBuiltin := by
  have hstart : Place.home.Holds [builtinNamespace.toList] := rfl
  exact (hstart.foldl _).isBuiltin

/-- The part is two dots for whoever looks at it, but is not written so. -/
def HidesUp (part : List Char) : Prop := visible part = ['.', '.'] ∧ part ≠ ['.', '.']

theorem Place.isBuiltin_next {place : Place} (h : place.isBuiltin = true)
    (hpart : ¬HidesUp part) : (place.next part).isBuiltin = true := by
  unfold Place.next
  split
  · exact h
  · rename_i hdots
    cases place with
    | home =>
        have hup : visible part ≠ ['.', '.'] := fun hup =>
          hpart ⟨hup, fun hwritten => hdots (Or.inr hwritten)⟩
        simp only [if_neg hup, Place.isBuiltin]
    | within => rfl
    | root => cases h
    | aside => cases h
    | beyond => cases h

theorem isBuiltin_landing {s : List Char} (h : ∀ part ∈ s.splitOnP isSeparator, ¬HidesUp part) :
    (landing s).isBuiltin = true := by
  have hhome : Place.home.isBuiltin = true := rfl
  refine List.foldlRecOn (motive := fun place : Place => place.isBuiltin = true) _ _ hhome ?_
  intro place hplace part hmem
  exact Place.isBuiltin_next hplace (h part (List.mem_filter.mp hmem).1)

/-- Where a reference leads that neither the registry nor an include directory has. -/
theorem resolve_of_not_found {disk : Disk} {registry : Registry} {directories : List Path}
    {reference : String} (hregistry : registry.resolve? (lookupName reference) = none)
    (hdirectories : ∀ directory ∈ directories,
      inDirectory? disk (normalize reference.toList) directory = none) (isBuiltin : Bool) :
    resolve disk registry directories reference isBuiltin =
      ⟨builtinLocation (normalize reference.toList), isBuiltin⟩ := by
  have hnone := List.findSome?_eq_none_iff.mpr hdirectories
  rw [lookupName] at hregistry
  simp only [resolve, target?, hregistry, hnone, Option.or_none, Option.getD_none]

/-- The placeholder of a reference is in the directory of the placeholders exactly if the parts of
the reference land there, which they do unless one of them hides two dots. So an include that is not
found is reported as unresolved exactly if the normal form of its reference lands in this
directory. -/
theorem isUnresolved_iff_landing (reference : String) :
    (builtinLocation reference.toList).isBuiltin = (landing reference.toList).isBuiltin ∧
      ((∀ part ∈ reference.toList.splitOnP isSeparator, ¬HidesUp part) →
        (builtinLocation reference.toList).isBuiltin = true) ∧
      ∀ disk registry directories isBuiltin,
        registry.resolve? (lookupName reference) = none →
        (∀ directory ∈ directories,
          inDirectory? disk (normalize reference.toList) directory = none) →
        (resolve disk registry directories reference isBuiltin).isUnresolved =
          (landing (normalize reference.toList)).isBuiltin := by
  refine ⟨isBuiltin_builtinLocation _, ?_, ?_⟩
  · intro h
    rw [isBuiltin_builtinLocation]
    exact isBuiltin_landing h
  · intro disk registry directories isBuiltin hregistry hdirectories
    rw [resolve_of_not_found hregistry hdirectories, Edge.isUnresolved, isBuiltin_builtinLocation]

/-- Two hidden ways up leave the directory and the name `lib` beside it, and its own name leads
back. -/
theorem isUnresolved_iff_landing_detour :
    let reference := ".\t./lib/\t../__sourcemod_builtin/a"
    lookupName reference = "a.inc" ∧
      (resolve ⟨.dir [], []⟩ {} [] reference false).isUnresolved = true := by
  have hlookup : lookupName ".\t./lib/\t../__sourcemod_builtin/a" = "a.inc" := by decide +kernel
  have hregistry : Registry.resolve? {} "a.inc" = none := by decide +kernel
  refine ⟨hlookup, ?_⟩
  rw [(isUnresolved_iff_landing _).2.2 _ _ _ _ (by rw [hlookup, hregistry]) (by simp)]
  decide +kernel

/-- A hidden way up: the include is not found, and yet leads to a file below the root and is not
reported. -/
theorem resolve_hidden_up :
    let edge := resolve ⟨.dir [], []⟩ {} [] ".\t./secret" false
    (builtinLocation ".\t./secret.inc".toList).isBuiltin = false ∧
      edge.target = ofSegments ["secret.inc"] ∧ edge.isUnresolved = false := by
  decide +kernel

end PawnScope.Reference
