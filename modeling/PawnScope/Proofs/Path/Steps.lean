import PawnScope.Path
import PawnScope.Proofs.Text.Division
import Mathlib.Data.List.TakeWhile

/-! # The steps of a path

A path takes a step for each of its pieces that is neither empty nor a single dot. Whether it
starts at the root and which steps it takes decide its components, and all that is made of these:
two paths with the same components are joined and normalized alike. -/

namespace PawnScope.Path

/-! ## Steps and components -/

/-- The piece goes somewhere: it is not empty and not a single dot. -/
def isStep (piece : FileName) : Bool := ¬(piece = [] ∨ piece = dot)

/-- The pieces that go somewhere. -/
def steps (p : Path) : List FileName := p.pieces.filter isStep

/-- The component of a piece that goes somewhere. -/
def Component.ofStep (step : FileName) : Component :=
  if step = dotDot then .parent else .name step

/-- The piece of a component that goes somewhere. -/
def Component.step? : Component → Option FileName
  | .root => none
  | .current => none
  | .parent => some dotDot
  | .name n => some n

theorem Component.ofPiece?_eq (piece : FileName) :
    ofPiece? piece = if isStep piece then some (ofStep piece) else none := by
  by_cases h : piece = [] ∨ piece = dot
  · have hs : isStep piece = false := decide_eq_false (not_not_intro h)
    rw [ofPiece?, if_pos h, hs]
    rfl
  · have hs : isStep piece = true := decide_eq_true h
    rw [ofPiece?, if_neg h, hs, if_pos rfl, ofStep]
    split
    · rfl
    · rfl

theorem filterMap_ofPiece? (pieces : List FileName) :
    pieces.filterMap Component.ofPiece? = (pieces.filter isStep).map Component.ofStep := by
  induction pieces with
  | nil => rfl
  | cons piece pieces ih =>
      have hpiece := Component.ofPiece?_eq piece
      by_cases h : isStep piece = true
      · rw [if_pos h] at hpiece
        rw [List.filterMap_cons_some hpiece, ih, List.filter_cons_of_pos h, List.map_cons]
      · rw [if_neg h] at hpiece
        rw [List.filterMap_cons_none hpiece, ih, List.filter_cons_of_neg h]

theorem filterMap_step?_ofStep (steps : List FileName) :
    (steps.map Component.ofStep).filterMap Component.step? = steps := by
  have hstep : ∀ s, Component.step? (Component.ofStep s) = some s := by
    intro s
    by_cases h : s = dotDot
    · simp [Component.ofStep, Component.step?, h]
    · simp [Component.ofStep, Component.step?, h]
  induction steps with
  | nil => rfl
  | cons s steps ih => rw [List.map_cons, List.filterMap_cons_some (hstep s), ih]

/-- The component that starts a path before its steps. -/
def start (p : Path) : List Component :=
  if p.isAbsolute then [.root] else if p.pieces.head? = some dot then [.current] else []

theorem components_eq (p : Path) : p.components = p.start ++ p.steps.map Component.ofStep := by
  by_cases h : p.isAbsolute = true
  · simp [components, start, steps, h, filterMap_ofPiece?]
  · cases hp : p.pieces with
    | nil => simp [components, start, steps, h, hp]
    | cons first rest =>
        by_cases hd : first = dot
        · have hs : isStep dot = false := by decide
          simp [components, start, steps, h, hp, hd, filterMap_ofPiece?, hs]
        · have hcons : (Component.ofPiece? first).toList ++ rest.filterMap Component.ofPiece? =
              ((first :: rest).filter isStep).map Component.ofStep := by
            rw [← filterMap_ofPiece?]
            cases hf : Component.ofPiece? first with
            | none => simp [hf]
            | some c => simp [hf]
          simpa [components, start, steps, h, hp, hd] using hcons

theorem steps_eq (p : Path) : p.steps = p.components.filterMap Component.step? := by
  have hstart : p.start.filterMap Component.step? = [] := by
    unfold start
    split
    · rfl
    · split
      · rfl
      · rfl
  rw [components_eq, List.filterMap_append, hstart, filterMap_step?_ofStep, List.nil_append]

theorem isAbsolute_iff_components {p : Path} :
    p.isAbsolute = true ↔ p.components.head? = some .root := by
  by_cases h : p.isAbsolute = true
  · simp [components_eq, start, h]
  · have hstep : ∀ s, Component.ofStep s ≠ .root := by
      intro s
      unfold Component.ofStep
      split
      · simp
      · simp
    have hhead : p.components.head? ≠ some .root := by
      rw [components_eq]
      by_cases hd : p.pieces.head? = some dot
      · simp [start, h, hd]
      · cases hs : p.steps with
        | nil => simp [start, h, hd]
        | cons s rest => simp [start, h, hd, hstep]
    simp [h, hhead]

/-! ## Paths that lead to the same place -/

/-- The paths take the same steps from the same start. -/
def Alike (p q : Path) : Prop := p.isAbsolute = q.isAbsolute ∧ p.steps = q.steps

theorem alike_of_same {p q : Path} (h : p.same q = true) : p.Alike q := by
  have hc : p.components = q.components := by simpa [same] using h
  refine ⟨?_, by rw [steps_eq, steps_eq, hc]⟩
  rw [Bool.eq_iff_iff, isAbsolute_iff_components, isAbsolute_iff_components, hc]

/-- Only the empty path has no components. -/
theorem octets_eq_nil_of_components {p : Path} (h : p.components = []) : p.octets = [] := by
  have habs : p.isAbsolute = false := by
    rw [Bool.eq_false_iff, Ne, isAbsolute_iff_components, h]
    simp
  cases ho : p.octets with
  | nil => rfl
  | cons b rest =>
      -- The first piece starts with the first octet, so it is a component.
      have hb : b ≠ slash := by
        rintro rfl
        simp [isAbsolute, ho] at habs
      obtain ⟨first, pieces, hp⟩ := List.exists_cons_of_ne_nil (List.splitOn_ne_nil slash rest)
      have hpieces : p.pieces = (b :: first) :: pieces := by
        rw [Path.pieces, ho, List.splitOn_cons_eq_if_modifyHead, hp]
        simp [hb]
      rw [components_eq, List.append_eq_nil_iff] at h
      by_cases hd : b :: first = dot
      · simp [start, habs, hpieces, hd] at h
      · simp [steps, hpieces, isStep, hd] at h

theorem foldl_takeStep_start (p : Path) :
    p.start.foldl takeStep [] = if p.isAbsolute then [.root] else [] := by
  by_cases h : p.isAbsolute = true
  · simp [start, h, takeStep]
  · by_cases hd : p.pieces.head? = some dot
    · simp [start, h, hd, takeStep]
    · simp [start, h, hd]

theorem Alike.normalize?_eq {p q : Path} (h : p.Alike q) : p.normalize? = q.normalize? := by
  have hr : resolvedSteps p.components = resolvedSteps q.components := by
    rw [resolvedSteps, resolvedSteps, components_eq, components_eq, List.foldl_append,
      List.foldl_append, foldl_takeStep_start, foldl_takeStep_start, h.1, h.2]
  rw [normalize?, normalize?, hr]

/-! ## Joined paths -/

theorem pieces_ne_nil (p : Path) : p.pieces ≠ [] := List.splitOn_ne_nil slash p.octets

/-- The pieces of a path that is read from inside another, which contributes its own steps. -/
theorem exists_pieces_join {p q : Path} (hq : q.isAbsolute = false) :
    ∃ front, (p.join q).pieces = front ++ q.pieces ∧ front.filter isStep = p.steps := by
  by_cases hnil : p.octets = []
  · refine ⟨[], ?_, ?_⟩
    · simp [join, hq, hnil]
    · simp [steps, pieces, hnil]
      decide
  · by_cases hlast : p.octets.getLast? = some slash
    · obtain ⟨o, ho⟩ := List.getLast?_eq_some_iff.mp hlast
      refine ⟨o.splitOn slash, ?_, ?_⟩
      · simp [join, hq, pieces, ho, List.splitOn_append_cons_self]
      · have hp : p.pieces = o.splitOn slash ++ [[]] := by
          rw [pieces, ho, List.splitOn_append_cons_self, List.splitOn_nil]
        simp [steps, hp, isStep]
    · refine ⟨p.pieces, ?_, rfl⟩
      simp [join, hq, hnil, hlast, pieces, List.splitOn_append_cons_self]

theorem steps_join {p q : Path} (hq : q.isAbsolute = false) :
    (p.join q).steps = p.steps ++ q.steps := by
  obtain ⟨front, hpieces, hfront⟩ := exists_pieces_join (p := p) hq
  rw [steps, hpieces, List.filter_append, hfront]
  rfl

theorem octets_ne_nil_of_isAbsolute {p : Path} (hp : p.isAbsolute = true) : p.octets ≠ [] := by
  intro hnil
  simp [isAbsolute, hnil] at hp

theorem isAbsolute_join {p q : Path} (hq : q.isAbsolute = false) (hp : p.octets ≠ []) :
    (p.join q).isAbsolute = p.isAbsolute := by
  have hjoin : ∃ tail, (p.join q).octets = p.octets ++ tail := by
    by_cases hlast : p.octets.getLast? = some slash
    · exact ⟨q.octets, by simp [join, hq, hlast]⟩
    · exact ⟨slash :: q.octets, by simp [join, hq, hp, hlast]⟩
  obtain ⟨tail, htail⟩ := hjoin
  cases ho : p.octets with
  | nil => exact absurd ho hp
  | cons b rest => simp [isAbsolute, htail, ho]

theorem octets_join_ne_nil {p q : Path} (hq : q.isAbsolute = false) (hp : p.octets ≠ []) :
    (p.join q).octets ≠ [] := by
  by_cases hlast : p.octets.getLast? = some slash
  · simp [join, hq, hlast, hp]
  · simp [join, hq, hlast, hp]

/-- Two paths with the same components are both empty or take the same steps from the same
start. -/
theorem eq_or_alike_of_same {p q : Path} (h : p.same q = true) :
    p = q ∨ (p.octets ≠ [] ∧ q.octets ≠ [] ∧ p.Alike q) := by
  have hc : p.components = q.components := by simpa [same] using h
  have hnil : (⟨[]⟩ : Path).components = [] := by decide
  by_cases hp : p.octets = []
  · left
    have hq : q.octets = [] := by
      apply octets_eq_nil_of_components
      rw [← hc]
      cases p
      subst hp
      exact hnil
    cases p
    cases q
    simp_all
  · right
    refine ⟨hp, ?_, alike_of_same h⟩
    intro hq
    apply hp
    apply octets_eq_nil_of_components
    rw [hc]
    cases q
    subst hq
    exact hnil

theorem Alike.join {p p' q : Path} (h : p.Alike p') (hq : q.isAbsolute = false)
    (hp : p.octets ≠ []) (hp' : p'.octets ≠ []) : (p.join q).Alike (p'.join q) := by
  refine ⟨?_, ?_⟩
  · rw [isAbsolute_join hq hp, isAbsolute_join hq hp', h.1]
  · rw [steps_join hq, steps_join hq, h.2]

/-! ## Names -/

theorem slash_notMem_of_mem_pieces {p : Path} {piece : FileName} (h : piece ∈ p.pieces) :
    slash ∉ piece := by
  intro hslash
  have hfalse := (Text.mem_of_mem_splitOnP h hslash).2
  simp at hfalse

/-- A name that does not end in a dot goes somewhere, and not up. -/
theorem isStep_concat (n : FileName) {b : UInt8} (hdot : b ≠ 46) :
    isStep (n ++ [b]) = true ∧ n ++ [b] ≠ dotDot := by
  have hlast : ∀ m : FileName, n ++ [b] = m → m.getLast? = some b := by
    rintro m rfl
    exact List.getLast?_concat
  constructor
  · apply decide_eq_true
    rintro (hnil | hd)
    · cases hlast [] hnil
    · exact hdot (Option.some.inj (hlast dot hd)).symm
  · intro hup
    exact hdot (Option.some.inj (hlast dotDot hup)).symm

/-- A path that ends in neither a slash nor a dot takes its last step by a name with this end. -/
theorem exists_getLast?_steps {p : Path} {b : UInt8} (hb : p.octets.getLast? = some b)
    (hslash : b ≠ slash) (hdot : b ≠ 46) : ∃ n, p.steps.getLast? = some (n ++ [b]) := by
  obtain ⟨o, ho⟩ := List.getLast?_eq_some_iff.mp hb
  obtain ⟨front, n, hpieces⟩ :=
    Text.exists_splitOnP_concat (p := (· == slash)) o (beq_false_of_ne hslash)
  have hstep := (isStep_concat n hdot).1
  refine ⟨n, ?_⟩
  have hp : p.pieces = front ++ [n ++ [b]] := by
    rw [pieces, ho]
    exact hpieces
  simp [steps, hp, hstep]

theorem pieces_ofNames {ns : List FileName} (h : ∀ n ∈ ns, slash ∉ n) :
    (ofNames true ns).pieces = [] :: if ns = [] then [[]] else ns := by
  cases ns with
  | nil => decide
  | cons n ns =>
      have hsplit : ([slash].intercalate (n :: ns)).splitOn slash = n :: ns :=
        List.splitOn_intercalate slash h (List.cons_ne_nil n ns)
      simp [ofNames, pieces, List.splitOn_cons_eq_if_modifyHead, hsplit]

theorem steps_ofNames (absolute : Bool) {ns : List FileName}
    (h : ∀ n ∈ ns, isStep n = true ∧ slash ∉ n) : (ofNames absolute ns).steps = ns := by
  have hall : ns.filter isStep = ns := List.filter_eq_self.mpr fun n hn => (h n hn).1
  cases ns with
  | nil =>
      cases absolute with
      | true => decide
      | false => decide
  | cons n ns =>
      cases absolute with
      | true =>
          have hpieces : (ofNames true (n :: ns)).pieces = [] :: n :: ns := by
            rw [pieces_ofNames fun m hm => (h m hm).2, if_neg (List.cons_ne_nil n ns)]
          have hnil : isStep [] = false := by decide
          rw [steps, hpieces, List.filter_cons, hnil]
          exact hall
      | false =>
          have hsplit : ([slash].intercalate (n :: ns)).splitOn slash = n :: ns :=
            List.splitOn_intercalate slash (fun m hm => (h m hm).2) (List.cons_ne_nil n ns)
          have hpieces : (ofNames false (n :: ns)).pieces = n :: ns := by
            simp [ofNames, pieces, hsplit]
          rw [steps, hpieces]
          exact hall

/-! ## Normalized paths -/

/-- The names that are left of a path when its parent steps are resolved. -/
def normalNames (p : Path) : List FileName := names (resolvedSteps p.components)

theorem mem_foldl_takeStep {cs taken : List Component} {c : Component}
    (h : c ∈ cs.foldl takeStep taken) : c ∈ taken ∨ c ∈ cs := by
  induction cs generalizing taken with
  | nil => exact Or.inl h
  | cons d cs ih =>
      rcases ih h with h | h
      · cases d with
        | parent =>
            left
            cases taken with
            | nil => exact h
            | cons t taken =>
                cases t with
                | name n => exact List.mem_cons_of_mem _ h
                | root => exact h
                | current => exact h
                | parent => exact h
        | current => exact Or.inl h
        | root =>
            rcases List.mem_cons.mp h with rfl | h
            · exact Or.inr List.mem_cons_self
            · exact Or.inl h
        | name n =>
            rcases List.mem_cons.mp h with rfl | h
            · exact Or.inr List.mem_cons_self
            · exact Or.inl h
      · exact Or.inr (List.mem_cons_of_mem d h)

theorem mem_names_iff {cs : List Component} {n : FileName} : n ∈ names cs ↔ .name n ∈ cs := by
  rw [names, List.mem_filterMap]
  constructor
  · rintro ⟨c, hc, hn⟩
    cases c with
    | name m =>
        obtain rfl := Option.some.inj hn
        exact hc
    | root => cases hn
    | current => cases hn
    | parent => cases hn
  · intro h
    exact ⟨.name n, h, rfl⟩

theorem names_map_name (ns : List FileName) : names (ns.map Component.name) = ns := by
  induction ns with
  | nil => rfl
  | cons n ns ih => exact congrArg (List.cons n) ih

theorem mem_normalNames {p : Path} {n : FileName} (h : n ∈ p.normalNames) :
    n ∈ p.steps ∧ n ≠ dotDot := by
  have hmem : Component.name n ∈ p.components := by
    rw [normalNames, mem_names_iff, resolvedSteps, List.mem_reverse] at h
    exact (mem_foldl_takeStep h).resolve_left (by simp)
  have hstep : Component.name n ∈ p.steps.map Component.ofStep := by
    rw [components_eq, List.mem_append] at hmem
    refine hmem.resolve_left ?_
    intro hstart
    unfold start at hstart
    split at hstart
    · simp at hstart
    · split at hstart
      · simp at hstart
      · simp at hstart
  obtain ⟨s, hs, hsn⟩ := List.mem_map.mp hstep
  by_cases hd : s = dotDot
  · simp [Component.ofStep, hd] at hsn
  · simp only [Component.ofStep, if_neg hd, Component.name.injEq] at hsn
    subst hsn
    exact ⟨hs, hd⟩

/-- The last step stays unless it is a parent step. -/
theorem getLast?_normalNames {p : Path} {n : FileName} (h : p.steps.getLast? = some n)
    (hn : n ≠ dotDot) : p.normalNames.getLast? = some n := by
  obtain ⟨front, hfront⟩ := List.getLast?_eq_some_iff.mp h
  have hcomponents : p.components = (p.start ++ front.map Component.ofStep) ++ [.name n] := by
    rw [components_eq, hfront]
    simp [Component.ofStep, hn]
  simp [normalNames, names, resolvedSteps, hcomponents, List.foldl_append, takeStep]

/-- The last step names the file unless it is a parent step. -/
theorem fileName?_of_getLast?_steps {p : Path} {n : FileName} (h : p.steps.getLast? = some n)
    (hn : n ≠ dotDot) : p.fileName? = some n := by
  have hlast : p.components.getLast? = some (.name n) := by
    rw [components_eq, List.getLast?_append, List.getLast?_map, h]
    simp [Component.ofStep, hn]
  rw [fileName?, hlast]

theorem steps_of_normalize? {p q : Path} (h : p.normalize? = some q) : q.steps = p.normalNames := by
  have hq : ∃ absolute, q = ofNames absolute p.normalNames := by
    rw [normalize?] at h
    split at h
    · cases h
    · exact ⟨_, (Option.some.inj h).symm⟩
  obtain ⟨absolute, rfl⟩ := hq
  apply steps_ofNames
  intro n hn
  have hs := (mem_normalNames hn).1
  rw [steps, List.mem_filter] at hs
  exact ⟨hs.2, slash_notMem_of_mem_pieces hs.1⟩

theorem foldl_takeStep_names (ns : List FileName) (taken : List Component) :
    (ns.map Component.name).foldl takeStep taken = (ns.map Component.name).reverse ++ taken := by
  induction ns generalizing taken with
  | nil => rfl
  | cons n ns ih => simp [takeStep, ih]

/-- Nothing is resolved in a path without parent steps. -/
theorem normalNames_of_dotDot_notMem {p : Path} (h : dotDot ∉ p.steps) :
    p.normalNames = p.steps := by
  have hsteps : p.steps.map Component.ofStep = p.steps.map Component.name := by
    apply List.map_congr_left
    intro s hs
    rw [Component.ofStep, if_neg]
    rintro rfl
    exact h hs
  have hroot : ∀ cs, names (.root :: cs) = names cs := fun _ => rfl
  rw [normalNames, resolvedSteps, components_eq, hsteps, List.foldl_append, foldl_takeStep_start,
    foldl_takeStep_names, List.reverse_append, List.reverse_reverse]
  by_cases habs : p.isAbsolute = true
  · rw [if_pos habs, List.reverse_singleton, List.singleton_append, hroot, names_map_name]
  · rw [if_neg habs, List.reverse_nil, List.nil_append, names_map_name]

/-! ## Extensions -/

/-- The extension of a file is what follows the last dot of its name, which is not the first
octet. -/
theorem extension?_eq_some_iff {p : Path} {n e : FileName} (hn : p.fileName? = some n) :
    p.extension? = some e ↔ 46 ∉ e ∧ ∃ front, front ≠ [] ∧ n = front ++ 46 :: e := by
  have hext : p.extension? = if (n.reverse.takeWhile (· != 46)).length + 1 < n.length then
      some (n.reverse.takeWhile (· != 46)).reverse else none := by
    rw [extension?, hn]
    rfl
  rw [hext]
  constructor
  · intro h
    split at h
    · rename_i hlength
      obtain rfl := Option.some.inj h
      refine ⟨?_, ?_⟩
      · intro hmem
        simpa using List.mem_takeWhile_imp (List.mem_reverse.mp hmem)
      · -- What is left of the name before its extension is more than the dot.
        have hsplit := List.takeWhile_append_dropWhile (p := (· != (46 : UInt8))) (l := n.reverse)
        have hhead := List.head?_dropWhile_not (· != (46 : UInt8)) n.reverse
        have hreverse := congrArg List.length hsplit
        rw [List.length_append, List.length_reverse] at hreverse
        match hdrop : n.reverse.dropWhile (· != 46) with
        | [] =>
            rw [hdrop, List.length_nil] at hreverse
            omega
        | [d] =>
            rw [hdrop, List.length_singleton] at hreverse
            omega
        | d :: b :: rest =>
            rw [hdrop] at hsplit hhead
            obtain rfl : d = 46 := by simpa using hhead
            refine ⟨(b :: rest).reverse, by simp, ?_⟩
            simpa using congrArg List.reverse hsplit.symm
    · cases h
  · rintro ⟨hdot, front, hfront, rfl⟩
    have htail : (front ++ 46 :: e).reverse.takeWhile (· != 46) = e.reverse := by
      rw [List.reverse_append, List.reverse_cons, List.append_assoc, List.singleton_append]
      exact Text.takeWhile_append_cons (by simpa using hdot) _
    have hlength := List.length_pos_iff.mpr hfront
    rw [htail, if_pos (by simp; omega), List.reverse_reverse]

end PawnScope.Path
