import PawnScope.Proofs.Source.HeaderLines
import PawnScope.Proofs.Source.Nesting
import PawnScope.Proofs.Text.Trimming

/-! # Rendered functions

The label of a function writes its parameters in one way: the dimensions after a name go to its
type, white space inside them is left out, and there is one blank where some is needed. Read again,
it gives the function that it was made from. The label has the same signs as the text that the
parameters were read from, in the same order, so that it ends and is divided at the same places.
This holds of the parameters of any list, and also where the list does not close what it opens. -/

namespace PawnScope.Source

open Text

theorem signsOf_trim (s : List Char) : signsOf (trim s) = signsOf s := by
  obtain ⟨a, b, ha, hb, hs⟩ := exists_trim s
  have hsigns := congrArg signsOf hs
  rw [signsOf_append, signsOf_append, signsOf_of_isBlank ha, signsOf_of_isBlank hb,
    List.nil_append, List.append_nil] at hsigns
  exact hsigns.symm

/-! ## The name of a parameter -/

/-- What is nothing but dimensions does not end in a word. -/
theorem isWord_getLast_of_dimensions {s : List Char} (h : dimensions s = []) :
    ∀ c ∈ s.getLast?, isWord c = false := by
  fun_induction dimensions s with
  | case1 s inner hstart d rest hrest ih =>
      have hd : d = ']' := by
        have hhead := List.head?_dropWhile_not (· != ']') inner
        rw [hrest] at hhead
        simpa using hhead
      have hinner := List.takeWhile_append_dropWhile (p := (· != ']')) (l := inner)
      obtain ⟨a, -, hs⟩ := exists_blank_append_trimStart s
      rw [hrest, hd] at hinner
      rw [hstart, ← hinner] at hs
      intro c hc
      rw [hs, List.getLast?_append, List.getLast?_cons, List.getLast?_append, List.getLast?_cons] at hc
      cases hlast : rest.getLast? with
      | none =>
          obtain rfl : ']' = c := by simpa [hlast] using hc
          decide
      | some e =>
          obtain rfl : e = c := by simpa [hlast] using hc
          exact ih h e hlast
  | case2 s inner hstart hnone => cases h
  | case3 s hother =>
      intro c hc
      exact isWord_of_isSpace (List.dropWhile_eq_nil_iff.mp h c (List.mem_of_mem_getLast? hc))

theorem nameAndDimensions?_eq_none {front name : List Char} (hne : front ≠ [])
    (hlast : ∀ c ∈ front.getLast?, isWord c = false) (hname : IsIdentifier name) :
    nameAndDimensions? (front ++ name) = none := by
  rw [nameAndDimensions?]
  cases hread : name? (front ++ name) with
  | none => rfl
  | some parts =>
      obtain ⟨read, rest⟩ := parts
      obtain ⟨hident, happend, -⟩ := name?_eq_some_iff.mp hread
      obtain ⟨c, hc⟩ := Option.ne_none_iff_exists'.mp (mt List.getLast?_eq_none_iff.mp hne)
      obtain ⟨e, he, hword⟩ := hname.exists_getLast
      rcases List.append_eq_append_iff.mp happend with ⟨more, hmore, -⟩ | ⟨more, -, hmore⟩
      · -- The name that is read would go beyond a character that no name has.
        have hread := hident.isWord c (hmore ▸ List.mem_append_left more (List.mem_of_getLast? hc))
        rw [hlast c hc] at hread
        cases hread
      · have hdimensions : dimensions rest ≠ [] := by
          intro hnil
          have hlast := isWord_getLast_of_dimensions hnil e (by simp [hmore, he])
          rw [hword] at hlast
          cases hlast
        simp [hdimensions]

/-- The name is found at the end of a declaration if nothing before it goes on with it. -/
theorem cutName_append {front name : List Char} (hbreak : '\n' ∉ front)
    (hlast : ∀ c ∈ front.getLast?, isWord c = false) (hname : IsIdentifier name) :
    cutName (front ++ name) = some (front, name, []) := by
  induction front with
  | nil =>
      have hread : name? name = some (name, []) :=
        name?_eq_some_iff.mpr ⟨hname, (List.append_nil name).symm, by simp⟩
      have hdimensions : dimensions [] = [] := by
        rw [dimensions]
        rfl
      obtain ⟨c, rest, rfl, -, -⟩ := hname
      simp [cutName, nameAndDimensions?, hread, hdimensions, trimStart]
  | cons c front ih =>
      have hnone := nameAndDimensions?_eq_none (List.cons_ne_nil c front) hlast hname
      rw [List.mem_cons, not_or] at hbreak
      have hrest : ∀ e ∈ front.getLast?, isWord e = false := by
        intro e he
        apply hlast
        rw [List.getLast?_cons, he]
        rfl
      rw [List.cons_append] at hnone ⊢
      rw [cutName, hnone]
      simp only [if_neg (Ne.symm hbreak.1), ih hbreak.2 hrest]
      rfl

theorem exists_of_cutName {s front name dims : List Char}
    (h : cutName s = some (front, name, dims)) :
    IsIdentifier name ∧ '\n' ∉ front ∧
      ∃ rest, s = front ++ (name ++ rest) ∧ dims = trimStart rest := by
  induction s generalizing front with
  | nil => cases h
  | cons c s ih =>
      rw [cutName] at h
      split at h
      · rename_i name' dims' hread
        cases h
        obtain ⟨⟨name, rest⟩, hname, hrest⟩ := Option.bind_eq_some_iff.mp hread
        obtain ⟨hident, hs, -⟩ := name?_eq_some_iff.mp hname
        simp only at hrest
        split at hrest
        · cases hrest
          exact ⟨hident, List.not_mem_nil, rest, hs, rfl⟩
        · cases hrest
      · split at h
        · cases h
        · rename_i hc
          obtain ⟨⟨front', name', dims'⟩, hcut, hparts⟩ := Option.map_eq_some_iff.mp h
          cases hparts
          obtain ⟨hident, hbreak, rest, hs, hdims⟩ := ih hcut
          refine ⟨hident, ?_, rest, by rw [hs, List.cons_append], hdims⟩
          rw [List.mem_cons, not_or]
          exact ⟨Ne.symm hc, hbreak⟩

theorem beforeDots?_eq_some_iff {s front : List Char} :
    beforeDots? s = some front ↔ s = front ++ "...".toList := by
  have hdots : "...".toList = ['.', '.', '.'] := rfl
  rw [hdots, beforeDots?]
  constructor
  · intro h
    split at h
    · rename_i htake
      cases h
      have hsplit := congrArg List.reverse (List.take_append_drop 3 s.reverse)
      rw [htake, List.drop_reverse, List.reverse_append, List.reverse_reverse,
        List.reverse_reverse] at hsplit
      exact hsplit.symm
    · cases h
  · rintro rfl
    simp

/-! ## The parts of a declaration -/

/-- The type and the name of a parameter, as its declaration gives them. -/
def parts? (decl : List Char) : Option (List Char × List Char) :=
  match beforeDots? decl with
  | some front => some (trim front, "...".toList)
  | none =>
      (cutName decl).map fun (front, name, dims) => (trim front ++ dims.filter (!isSpace ·), name)

/-- The parameter with the given parts and default. -/
def parameterOf (type name : List Char) (default : Option String) : Parameter :=
  ⟨String.ofList name, nonempty? type, default⟩

theorem declared?_eq (decl : List Char) (default : Option String) :
    declared? decl default = (parts? decl).map fun (type, name) => parameterOf type name default := by
  unfold declared? parts?
  cases beforeDots? decl with
  | some front => rfl
  | none =>
      cases cutName decl with
      | none => rfl
      | some cut => rfl

/-- A declaration ends in dots, or it has a name with dimensions behind it and no line break before
it. -/
theorem exists_of_parts? {decl type name : List Char} (h : parts? decl = some (type, name)) :
    (name = "...".toList ∧ ∃ front, decl = front ++ name ∧ type = trim front) ∨
      (IsIdentifier name ∧ ∃ front rest, decl = front ++ (name ++ rest) ∧ '\n' ∉ front ∧
        type = trim front ++ rest.filter (!isSpace ·)) := by
  unfold parts? at h
  split at h
  · rename_i front hdots
    cases h
    exact Or.inl ⟨rfl, front, beforeDots?_eq_some_iff.mp hdots, rfl⟩
  · obtain ⟨⟨front, name', dims⟩, hcut, hparts⟩ := Option.map_eq_some_iff.mp h
    cases hparts
    obtain ⟨hident, hbreak, rest, hdecl, rfl⟩ := exists_of_cutName hcut
    refine Or.inr ⟨hident, front, rest, hdecl, hbreak, ?_⟩
    -- The white space before the dimensions is left out with that inside them.
    obtain ⟨a, ha, hrest⟩ := exists_blank_append_trimStart rest
    have hblank : a.filter (!isSpace ·) = [] := by
      rw [List.filter_eq_nil_iff]
      intro c hc
      simp [List.all_eq_true.mp ha c hc]
    have hfilter := congrArg (List.filter (!isSpace ·)) hrest
    rw [List.filter_append, hblank, List.nil_append] at hfilter
    rw [hfilter]

section Parts

variable {decl type name : List Char}

theorem isTrimmed_type (h : parts? decl = some (type, name)) : IsTrimmed type := by
  rcases exists_of_parts? h with ⟨-, front, -, rfl⟩ | ⟨-, front, rest, -, -, rfl⟩
  · exact isTrimmed_trim front
  · apply (isTrimmed_trim front).append
    apply isTrimmed_of_forall
    intro c hc
    simpa using (List.mem_filter.mp hc).2

theorem isTrimmed_name (h : parts? decl = some (type, name)) : IsTrimmed name := by
  rcases exists_of_parts? h with ⟨rfl, -⟩ | ⟨hident, -⟩
  · apply isTrimmed_of_forall
    intro c hc
    obtain rfl : c = '.' := by simpa using hc
    rfl
  · exact isTrimmed_of_forall hident.isSpace

theorem name_ne_nil (h : parts? decl = some (type, name)) : name ≠ [] := by
  rcases exists_of_parts? h with ⟨rfl, -⟩ | ⟨hident, -⟩
  · decide
  · exact hident.ne_nil

/-- The name holds no signs, so that the type has all signs of the declaration. -/
theorem signsOf_type (h : parts? decl = some (type, name)) :
    signsOf name = [] ∧ signsOf type = signsOf decl := by
  rcases exists_of_parts? h with ⟨rfl, front, rfl, rfl⟩ | ⟨hident, front, rest, rfl, -, rfl⟩
  · have hdots : signsOf "...".toList = [] := by decide
    rw [signsOf_append, signsOf_trim, hdots, List.append_nil]
    exact ⟨rfl, rfl⟩
  · have hname := signsOf_of_isIdentifier hident
    rw [signsOf_append, signsOf_append, signsOf_append, signsOf_trim, signsOf_filter_not_isSpace,
      hname, List.nil_append]
    exact ⟨rfl, rfl⟩

theorem parts_subset (h : parts? decl = some (type, name)) : type ⊆ decl ∧ name ⊆ decl := by
  rcases exists_of_parts? h with ⟨-, front, rfl, rfl⟩ | ⟨-, front, rest, rfl, -, rfl⟩
  · exact ⟨fun c hc => List.mem_append_left _ ((trim_isInfix front).subset hc),
      List.subset_append_right _ _⟩
  · refine ⟨?_, fun c hc => by simp [hc]⟩
    intro c hc
    rcases List.mem_append.mp hc with hc | hc
    · exact List.mem_append_left _ ((trim_isInfix front).subset hc)
    · simp [(List.mem_filter.mp hc).1]

end Parts

/-! ## Parameters as their labels write them -/

/-- The blank between a type and a name. -/
def gap (type : List Char) : List Char :=
  if type = [] ∨ attaches (String.ofList type) = true then [] else [' ']

/-- A parameter without its default. -/
def written (type name : List Char) : List Char := type ++ gap type ++ name

theorem gap_subset (type : List Char) : gap type ⊆ [' '] := by
  unfold gap
  split
  · exact List.nil_subset _
  · exact List.Subset.refl _

theorem isBlank_gap (type : List Char) : isBlank (gap type) = true := by
  refine List.all_eq_true.mpr fun c hc => ?_
  obtain rfl : c = ' ' := by simpa using gap_subset type hc
  rfl

theorem isWord_getLast_gap (type : List Char) :
    ∀ c ∈ (type ++ gap type).getLast?, isWord c = false := by
  intro c hc
  unfold gap at hc
  split at hc
  · rename_i hattached
    rw [List.append_nil] at hc
    rcases hattached with rfl | hattached
    · cases hc
    · rw [attaches, String.toList_ofList, Option.mem_def.mp hc] at hattached
      simp only [Bool.or_eq_true, beq_iff_eq] at hattached
      rcases hattached with rfl | rfl
      · decide
      · decide
  · obtain rfl : ' ' = c := by simpa using hc
    decide

theorem toList_label_none (type name : List Char) :
    (parameterOf type name none).label.toList = written type name := by
  by_cases htype : type = []
  · subst htype
    simp [Parameter.label, parameterOf, nonempty?, written, gap]
  · by_cases hattached : attaches (String.ofList type) = true
    · simp [Parameter.label, parameterOf, nonempty?, written, gap, htype, hattached]
    · simp [Parameter.label, parameterOf, nonempty?, written, gap, htype, hattached]

theorem toList_label_some (type name value : List Char) :
    (parameterOf type name (some (String.ofList value))).label.toList =
      written type name ++ ([' ', '=', ' '] ++ value) := by
  rw [← toList_label_none]
  simp [Parameter.label, parameterOf]

/-- A parameter is read as its label writes it. -/
theorem parts?_written {decl type name : List Char} (h : parts? decl = some (type, name)) :
    parts? (written type name) = some (type, name) := by
  have htrim : trim (type ++ gap type) = type :=
    (trim_append_blank type (isBlank_gap type)).trans (isTrimmed_type h).trim_eq
  rcases exists_of_parts? h with ⟨rfl, -⟩ | ⟨hident, before, rest, -, hbreak, htype⟩
  · rw [written, parts?, beforeDots?_eq_some_iff.mpr rfl]
    simp only [htrim]
  · have hdots : beforeDots? (written type name) = none := by
      rw [Option.eq_none_iff_forall_ne_some]
      intro front hfront
      obtain ⟨e, he, hword⟩ := hident.exists_getLast
      have hlast := congrArg List.getLast? (beforeDots?_eq_some_iff.mp hfront)
      rw [written, List.getLast?_append, List.getLast?_append, he] at hlast
      obtain rfl : e = '.' := by simpa using hlast
      exact absurd hword (by decide)
    have hfront : '\n' ∉ type ++ gap type := by
      -- Line breaks in the dimensions are left out with the other white space.
      rw [htype, List.mem_append, List.mem_append, not_or, not_or]
      refine ⟨⟨fun hmem => hbreak ((trim_isInfix before).subset hmem), fun hmem => ?_⟩,
        fun hmem => ?_⟩
      · exact absurd (List.mem_filter.mp hmem).2 (by decide)
      · have hblank := gap_subset _ hmem
        simp at hblank
    rw [parts?, hdots, written, cutName_append hfront (isWord_getLast_gap type) hident]
    simp [htrim]

theorem isTrimmed_written {decl type name : List Char} (h : parts? decl = some (type, name)) :
    IsTrimmed (written type name) := by
  by_cases htype : type = []
  · subst htype
    simpa [written, gap] using isTrimmed_name h
  · rw [written, List.append_assoc]
    exact (isTrimmed_type h).between htype (isTrimmed_name h) (name_ne_nil h) _

theorem written_ne_nil {decl type name : List Char} (h : parts? decl = some (type, name)) :
    written type name ≠ [] := by
  simp [written, name_ne_nil h]

theorem signsOf_written {decl type name : List Char} (h : parts? decl = some (type, name)) :
    signsOf (written type name) = signsOf decl := by
  rw [written, signsOf_append, signsOf_append, signsOf_of_isBlank (isBlank_gap type),
    (signsOf_type h).1, (signsOf_type h).2, List.append_nil, List.append_nil]

theorem written_subset {decl type name : List Char} (h : parts? decl = some (type, name)) :
    written type name ⊆ ' ' :: decl := by
  rw [written, List.append_subset, List.append_subset]
  refine ⟨⟨?_, ?_⟩, ?_⟩
  · exact List.subset_cons_of_subset ' ' (parts_subset h).1
  · exact List.Subset.trans (gap_subset type) (by simp)
  · exact List.subset_cons_of_subset ' ' (parts_subset h).2

/-! ## Defaults -/

/-- A parameter has no default, or it has what follows the first equals sign outside all nesting. -/
theorem exists_of_parameter? {text : List Char} {p : Parameter} (h : parameter? text = some p) :
    ∃ type name,
      (Encloses '=' 0 (trim text) ∧ parts? (trim text) = some (type, name) ∧
          p = parameterOf type name none) ∨
        ∃ front back, trim text = front ++ '=' :: back ∧ Encloses '=' 0 front ∧ rise front = 0 ∧
          parts? (trim front) = some (type, name) ∧
            p = parameterOf type name (some (String.ofList (trim back))) := by
  unfold parameter? at h
  simp only at h
  split at h
  · cases h
  · rcases encloses_or_exists '=' 0 (trim text) with hnone | ⟨front, back, htext, hfront, hrise⟩
    · rw [cutDefault_of_encloses hnone, declared?_eq] at h
      obtain ⟨⟨type, name⟩, hparts, rfl⟩ := Option.map_eq_some_iff.mp h
      exact ⟨type, name, Or.inl ⟨hnone, hparts, rfl⟩⟩
    · rw [htext, cutDefault_append hfront hrise] at h
      simp only [declared?_eq] at h
      obtain ⟨⟨type, name⟩, hparts, rfl⟩ := Option.map_eq_some_iff.mp h
      rw [Int.zero_add] at hrise
      exact ⟨type, name, Or.inr ⟨front, back, htext, hfront, hrise, hparts, rfl⟩⟩

theorem parameter?_of_trim_eq {text s : List Char} (htrim : trim text = s) (hne : s ≠ []) :
    parameter? text =
      match cutDefault 0 s with
      | some (decl, default) => declared? (trim decl) (some (String.ofList (trim default)))
      | none => declared? s none := by
  have hempty : ¬s.isEmpty = true := by simpa using hne
  rw [parameter?, htrim]
  exact if_neg hempty

theorem parameter?_blank_cons (text : List Char) :
    parameter? (' ' :: text) = parameter? text := by
  have htrim : trim (' ' :: text) = trim text := trim_blank_append (a := [' ']) rfl text
  rw [parameter?, parameter?, htrim]

/-- What is left of a label that ends in a default, which may be empty. -/
theorem exists_trim_default {s value : List Char} (hs : IsTrimmed s) (hne : s ≠ [])
    (hvalue : IsTrimmed value) :
    ∃ back, trim (s ++ ([' ', '=', ' '] ++ value)) = s ++ [' '] ++ '=' :: back ∧
      trim back = value := by
  by_cases hempty : value = []
  · subst hempty
    have hsign : IsTrimmed ['='] := isTrimmed_of_forall (List.forall_mem_singleton.mpr rfl)
    have hleft : IsTrimmed (s ++ ([' '] ++ ['='])) := hs.between hne hsign (by decide) [' ']
    refine ⟨[], ?_, rfl⟩
    have htrim := trim_append (a := []) rfl hleft (b := [' ']) rfl
    simpa using htrim
  · refine ⟨' ' :: value, ?_, ?_⟩
    · rw [(hs.between hne hvalue hempty _).trim_eq]
      simp
    · exact (trim_blank_append (a := [' ']) rfl value).trans hvalue.trim_eq

/-- What is read from a text is read again from its label. -/
theorem parameter?_label {text : List Char} {p : Parameter} (h : parameter? text = some p) :
    parameter? p.label.toList = some p := by
  obtain ⟨type, name, ⟨hnone, hparts, rfl⟩ | ⟨front, back, htext, hfront, hrise, hparts, rfl⟩⟩ :=
    exists_of_parameter? h
  · have hcut : cutDefault 0 (written type name) = none := by
      apply cutDefault_of_encloses
      rwa [← encloses_signsOf (by decide), signsOf_written hparts, encloses_signsOf (by decide)]
    rw [toList_label_none,
      parameter?_of_trim_eq (isTrimmed_written hparts).trim_eq (written_ne_nil hparts), hcut]
    simp only
    rw [declared?_eq, parts?_written hparts]
    rfl
  · have hwritten := isTrimmed_written hparts
    obtain ⟨back', htrim, hback⟩ := exists_trim_default hwritten (written_ne_nil hparts)
      (isTrimmed_trim back)
    have hsigns : signsOf (written type name ++ [' ']) = signsOf front := by
      rw [signsOf_append, signsOf_written hparts, signsOf_trim]
      exact List.append_nil _
    have hcut : cutDefault 0 (written type name ++ [' '] ++ '=' :: back') =
        some (written type name ++ [' '], back') := by
      apply cutDefault_append
      · rwa [← encloses_signsOf (by decide), hsigns, encloses_signsOf (by decide)]
      · rw [← rise_signsOf, hsigns, rise_signsOf, hrise]
        rfl
    have hleft : trim (written type name ++ [' ']) = written type name :=
      (trim_append_blank _ rfl).trans hwritten.trim_eq
    rw [toList_label_some, parameter?_of_trim_eq htrim (by simp), hcut]
    simp only
    rw [hleft, hback, declared?_eq, parts?_written hparts]
    rfl

/-- A label has the same signs as the text of the parameter. -/
theorem signsOf_label {text : List Char} {p : Parameter} (h : parameter? text = some p) :
    signsOf p.label.toList = signsOf text := by
  obtain ⟨type, name, ⟨-, hparts, rfl⟩ | ⟨front, back, htext, -, -, hparts, rfl⟩⟩ :=
    exists_of_parameter? h
  · rw [toList_label_none, signsOf_written hparts, signsOf_trim]
  · have hequals : signsOf [' ', '=', ' '] = ['='] := by decide
    rw [toList_label_some, signsOf_append, signsOf_append, signsOf_written hparts, signsOf_trim,
      signsOf_trim, hequals, ← signsOf_trim text, htext, signsOf_append,
      signsOf_cons_of_mem (by decide)]
    rfl

theorem label_subset {text : List Char} {p : Parameter} (h : parameter? text = some p) :
    p.label.toList ⊆ ' ' :: text := by
  have htrim : trim text ⊆ ' ' :: text :=
    List.subset_cons_of_subset ' ' (trim_isInfix text).subset
  have hblank : [' '] ⊆ ' ' :: text := by simp
  obtain ⟨type, name, ⟨-, hparts, rfl⟩ | ⟨front, back, htext, -, -, hparts, rfl⟩⟩ :=
    exists_of_parameter? h
  · rw [toList_label_none]
    exact List.Subset.trans (written_subset hparts) (List.cons_subset.mpr ⟨by simp, htrim⟩)
  · rw [htext, List.append_subset, List.cons_subset] at htrim
    obtain ⟨hfront, hequals, hback⟩ := htrim
    rw [toList_label_some, List.append_subset, List.append_subset]
    refine ⟨?_, ?_, ?_⟩
    · refine List.Subset.trans (written_subset hparts) (List.cons_subset.mpr ⟨by simp, ?_⟩)
      exact List.Subset.trans (trim_isInfix front).subset hfront
    · exact List.cons_subset.mpr ⟨by simp, List.cons_subset.mpr ⟨hequals, hblank⟩⟩
    · exact List.Subset.trans (trim_isInfix back).subset hback

/-! ## Lists as their labels write them -/

theorem parameters_append {s : List Char} (hs : Encloses ',' 0 s) (hrise : rise s = 0)
    (rest : List Char) : parameters (s ++ ',' :: rest) = (parameter? s).toList ++ parameters rest := by
  rw [parameters, splitCommas_append hs (by rw [hrise, Int.zero_add]), List.filterMap_cons]
  cases parameter? s with
  | none => rfl
  | some p => rfl

theorem parameters_of_encloses {s : List Char} (hs : Encloses ',' 0 s) :
    parameters s = (parameter? s).toList := by
  rw [parameters, splitCommas_of_encloses hs, List.filterMap_cons]
  cases parameter? s with
  | none => rfl
  | some p => rfl

theorem parameters_blank_cons (list : List Char) : parameters (' ' :: list) = parameters list := by
  have hblank : ¬(' ' = ',' ∧ (0 : Int) = 0) := by decide
  have hnesting : (0 : Int) + nesting ' ' = 0 := rfl
  rw [parameters, parameters, splitCommas, if_neg hblank, hnesting]
  cases splitCommas 0 list with
  | nil => rfl
  | cons first rest => simp only [List.filterMap_cons, parameter?_blank_cons]

/-- The labels of some parameters with commas and blanks between them. -/
def joined (ps : List Parameter) : List Char :=
  [',', ' '].intercalate (ps.map (·.label.toList))

theorem joined_cons_cons (p q : Parameter) (ps : List Parameter) :
    joined (p :: q :: ps) = p.label.toList ++ ',' :: ' ' :: joined (q :: ps) := by
  simp [joined, List.intercalate_cons_cons]

theorem joined_singleton (p : Parameter) : joined [p] = p.label.toList := by
  simp [joined]

/-- The label of a parameter stands between commas as its text does, and is read as the
parameter. -/
theorem parameters_label {text : List Char} (htext : Encloses ',' 0 text) {p : Parameter}
    (h : parameter? text = some p) :
    Encloses ',' 0 p.label.toList ∧ rise p.label.toList = rise text ∧
      parameters p.label.toList = [p] := by
  have hencloses : Encloses ',' 0 p.label.toList := by
    rwa [← encloses_signsOf (by decide), signsOf_label h, encloses_signsOf (by decide)]
  refine ⟨hencloses, ?_, ?_⟩
  · rw [← rise_signsOf, signsOf_label h, rise_signsOf]
  · rw [parameters_of_encloses hencloses, parameter?_label h]
    rfl

/-- The labels of the parameters of a list, with commas between them, are read as these parameters.
Where the list closes more than it opens, or less, only the last text between commas does so. -/
theorem parameters_joined (list : List Char) :
    parameters (joined (parameters list)) = parameters list := by
  induction hlength : list.length using Nat.strongRecOn generalizing list with
  | ind n ih =>
      rcases encloses_or_exists ',' 0 list with hone | ⟨front, back, rfl, hfront, hrise⟩
      · rw [parameters_of_encloses hone]
        cases hread : parameter? list with
        | none => rfl
        | some p =>
            obtain ⟨-, -, hlabel⟩ := parameters_label hone hread
            rw [Option.toList_some, joined_singleton, hlabel]
      · rw [Int.zero_add] at hrise
        have hback : parameters (joined (parameters back)) = parameters back := by
          apply ih back.length ?_ back rfl
          rw [← hlength, List.length_append, List.length_cons]
          omega
        rw [parameters_append hfront hrise]
        cases hread : parameter? front with
        | none => exact hback
        | some p =>
            obtain ⟨hencloses, hzero, hlabel⟩ := parameters_label hfront hread
            rw [Option.toList_some, List.singleton_append]
            cases hrest : parameters back with
            | nil => rw [joined_singleton, hlabel]
            | cons q ps =>
                rw [hrest] at hback
                rw [joined_cons_cons, parameters_append hencloses (hzero.trans hrise),
                  parameter?_label hread, parameters_blank_cons, hback]
                rfl

/-- The parameters of a list are read again from their labels: none is lost, added or changed,
whether or not the list closes what it opens. -/
theorem parameters_labels (list : List Char) :
    parameters (", ".intercalate ((parameters list).map Parameter.label)).toList =
      parameters list := by
  have hjoined : (", ".intercalate ((parameters list).map Parameter.label)).toList =
      joined (parameters list) := by
    simp [joined, String.toList_intercalate, Function.comp_def]
  rw [hjoined, parameters_joined]

/-- Dimensions after the name, which go over a line, and a default that closes what is not open. -/
example : (parameters "int a[ 2\n] , 7, &b = Max(1, 2), c = ), d".toList).map Parameter.label =
    ["int[2] a", "&b = Max(1, 2)", "c = ), d"] := by
  decide +kernel

theorem isBalanced_joined {ps : List Parameter} (hps : ∀ p ∈ ps, IsBalanced p.label.toList) :
    IsBalanced (joined ps) := by
  induction ps with
  | nil => decide
  | cons p ps ih =>
      rw [List.forall_mem_cons] at hps
      cases ps with
      | nil => exact joined_singleton p ▸ hps.1
      | cons q ps =>
          have hcomma : IsBalanced [',', ' '] := by decide
          rw [joined_cons_cons]
          exact hps.1.append (hcomma.append (ih hps.2))

theorem joined_subset {ps : List Parameter} {s : List Char} (hps : ∀ p ∈ ps, p.label.toList ⊆ s)
    (hcomma : [',', ' '] ⊆ s) : joined ps ⊆ s := by
  induction ps with
  | nil => exact List.nil_subset s
  | cons p ps ih =>
      rw [List.forall_mem_cons] at hps
      cases ps with
      | nil => simpa [joined] using hps.1
      | cons q ps =>
          have hassoc : p.label.toList ++ ',' :: ' ' :: joined (q :: ps) =
              p.label.toList ++ ([',', ' '] ++ joined (q :: ps)) := rfl
          rw [joined_cons_cons, hassoc, List.append_subset, List.append_subset]
          exact ⟨hps.1, hcomma, ih hps.2⟩

theorem splitCommas_subset {depth : Int} {s : List Char} :
    ∀ part ∈ splitCommas depth s, part ⊆ s := by
  induction s generalizing depth with
  | nil => simp [splitCommas]
  | cons c s ih =>
      rw [splitCommas]
      split
      · rw [List.forall_mem_cons]
        exact ⟨List.nil_subset _, fun part hpart => List.subset_cons_of_subset c (ih part hpart)⟩
      · have hparts := @ih (depth + nesting c)
        cases hsplit : splitCommas (depth + nesting c) s with
        | nil => simp
        | cons first rest =>
            rw [hsplit, List.forall_mem_cons] at hparts
            rw [List.forall_mem_cons]
            exact ⟨List.cons_subset_cons c hparts.1,
              fun part hpart => List.subset_cons_of_subset c (hparts.2 part hpart)⟩

theorem isBalanced_label_of_mem_parameters {list : List Char} (hlist : IsBalanced list) :
    ∀ p ∈ parameters list, IsBalanced p.label.toList ∧ p.label.toList ⊆ ' ' :: list := by
  intro p hp
  obtain ⟨text, htext, hread⟩ := List.mem_filterMap.mp hp
  have hsubset := splitCommas_subset text htext
  have hitem := (isItem_of_mem_splitCommas hlist text htext).of_signsOf (signsOf_label hread)
  exact ⟨hitem.balanced,
    List.Subset.trans (label_subset hread) (List.cons_subset_cons ' ' hsubset)⟩

/-! ## Functions as their labels write them -/

theorem toList_label_function {r : Symbol} (hparent : r.parent = none) {ps : List Parameter}
    {type : String} (hsignature : r.signature = some ⟨ps, some type⟩) :
    ("stock " ++ r.label).toList =
      "stock".toList ++ ' ' :: typedHeading type.toList r.name.toList (joined ps ++ [')']) := by
  simp [Symbol.label, Symbol.qualifiedName, hparent, hsignature, typedHeading, joined,
    String.toList_intercalate, Function.comp_def]

/-- The line has no characters but those of the names, of the list and of the marks between them. -/
theorem notMem_stockHeading {type name inner : List Char} (htype : IsIdentifier type)
    (hname : IsIdentifier name) {c : Char} (hc : isWord c = false) (hmarks : c ∉ [' ', '('])
    (hinner : c ∉ inner) : c ∉ "stock".toList ++ ' ' :: typedHeading type name inner := by
  have hstock : IsIdentifier "stock".toList := by decide
  have hspace : c ≠ ' ' := fun hspace => hmarks (hspace ▸ List.mem_cons_self)
  rw [List.mem_append, List.mem_cons, not_or, not_or]
  exact ⟨hstock.notMem hc, hspace, notMem_typedHeading htype hname hc hmarks hinner⟩

/-- A function that is declared on one line, which is the whole text. -/
theorem declarations_of_isFunctionLine {code list : List Char} {stored : Bool} {c : Callable}
    (h : IsFunctionLine code stored c) (hplain : IsPlain code) (hbreak : '\n' ∉ code)
    (hclosed : parameterList? code = some list) :
    declarations (String.ofList code) =
      [Scan.symbolOf (Scan.headerOf c 0 .function none none) list] := by
  have hcode : ¬code.isEmpty = true := by
    rw [List.isEmpty_iff]
    exact List.ne_nil_of_mem (paren_mem_of_function? h.heading)
  have hfound := h.found_scanLine_closed hplain hclosed
  rw [declarations, String.toList_ofList, lines_of_notMem hbreak, if_neg hcode]
  exact congrArg List.reverse hfound

/-- A stock function on one line, with a balanced list of parameters. -/
theorem declarations_stockHeading {type name list : List Char} (htype : IsIdentifier type)
    (htypeKeyword : isKeyword type = false) (hname : IsIdentifier name)
    (hnameKeyword : isKeyword name = false) (hplain : IsPlain list) (hbreak : '\n' ∉ list)
    (hbalanced : IsBalanced list) :
    declarations (String.ofList ("stock".toList ++ ' ' :: typedHeading type name (list ++ [')']))) =
      [Scan.symbolOf (Scan.headerOf ⟨some type, name, '(' :: (list ++ [')'])⟩ 0 .function none none)
        list] := by
  have hheading := isFunctionLine_stock htype htypeKeyword hname hnameKeyword (list ++ [')'])
  have hnotMem : ∀ c, isWord c = false → c ∉ [' ', '('] → c ∉ [')'] → c ∉ list →
      c ∉ "stock".toList ++ ' ' :: typedHeading type name (list ++ [')']) := by
    intro c hc hmarks hclose hlist
    exact notMem_stockHeading htype hname hc hmarks (by simpa using ⟨hlist, by simpa using hclose⟩)
  apply declarations_of_isFunctionLine hheading
  · exact ⟨hnotMem _ (by decide) (by decide) (by decide) hplain.1,
      hnotMem _ (by decide) (by decide) (by decide) hplain.2.1,
      hnotMem _ (by decide) (by decide) (by decide) hplain.2.2⟩
  · exact hnotMem _ (by decide) (by decide) (by decide) hbreak
  · exact hheading.parameterList?_eq.trans (parameterList?_of_isBalanced hbalanced [])

/-- The label of a function, read as the declaration of a stock function, gives the function. -/
theorem declarations_stock_label {r : Symbol} {type : String} {list : List Char}
    (hkind : r.kind = .function) (hline : r.line = 0) (hparent : r.parent = none)
    (hdoc : r.documentation = none) (hsignature : r.signature = some ⟨parameters list, some type⟩)
    (hname : IsIdentifier r.name.toList) (hnameKeyword : isKeyword r.name.toList = false)
    (htype : IsIdentifier type.toList) (htypeKeyword : isKeyword type.toList = false)
    (hplain : IsPlain list) (hbreak : '\n' ∉ list) (hbalanced : IsBalanced list) :
    declarations ("stock " ++ r.label) = [r] := by
  have hlabels := isBalanced_label_of_mem_parameters hbalanced
  have hread := parameters_joined list
  have hjoined := isBalanced_joined fun p hp => (hlabels p hp).1
  have hsubset : joined (parameters list) ⊆ [',', ' '] ++ list := by
    apply joined_subset ?_ (List.subset_append_left _ _)
    intro p hp
    exact List.Subset.trans (hlabels p hp).2 (List.subset_cons_self ',' _)
  have hplainJoined : IsPlain (joined (parameters list)) :=
    (isPlain_append.mpr ⟨by decide, hplain⟩).of_subset hsubset
  have hbreakJoined : '\n' ∉ joined (parameters list) := by
    intro hmem
    have hmarks := hsubset hmem
    simp [hbreak] at hmarks
  have hdeclared := declarations_stockHeading htype htypeKeyword hname hnameKeyword hplainJoined
    hbreakJoined hjoined
  rw [← toList_label_function hparent hsignature, String.ofList_toList] at hdeclared
  rw [hdeclared]
  obtain ⟨name, kind, documentation, signature, parent, line⟩ := r
  cases hkind
  cases hline
  cases hparent
  cases hdoc
  cases hsignature
  simp [Scan.symbolOf, Scan.headerOf, hread]

/-- Parameters with dimensions, an old-style tag, a nested default, a reference, an empty default
and dots, and a number among them, which is no parameter. -/
def mixedList : List Char :=
  "char[]  s [32] ,Float: f=Max(1, \x7b2\x7d) ,int& n ,bool:b=, 9, any ...".toList

def mixedFunction : Symbol where
  name := "Sum"
  kind := .function
  signature := some ⟨parameters mixedList, some "int"⟩

theorem declarations_stock_label_mixed :
    IsBalanced mixedList ∧
      declarations
        "stock int Sum(char[][32] s, Float:f = Max(1, \x7b2\x7d), int&n, bool:b = , any ...)" =
        [mixedFunction] := by
  have hbalanced : IsBalanced mixedList := by decide +kernel
  have hlabel :
      "stock int Sum(char[][32] s, Float:f = Max(1, \x7b2\x7d), int&n, bool:b = , any ...)" =
        "stock " ++ mixedFunction.label := by decide +kernel
  rw [hlabel]
  exact ⟨hbalanced, declarations_stock_label rfl rfl rfl rfl rfl (by decide) (by decide) (by decide)
    (by decide) (by decide +kernel) (by decide +kernel) hbalanced⟩

end PawnScope.Source
