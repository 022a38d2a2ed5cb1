import PawnScope.Proofs.Source.Findings

/-! # Line numbers of a scan

A scan writes down the numbers of lines and never looks at them. So lines that stand further down
give the same symbols, further down by as much. -/

namespace PawnScope

/-! ## Moving down -/

def Symbol.moveDown (k : Nat) (x : Symbol) : Symbol := { x with line := x.line + k }

namespace Source

def Header.moveDown (k : Nat) (h : Header) : Header := { h with line := h.line + k }

def Finding.moveDown (k : Nat) : Finding → Finding
  | .symbol x => .symbol (x.moveDown k)
  | .header h => .header (h.moveDown k)

/-- The same state, as it is when the lines that were read stand further down. -/
def Scan.moveDown (k : Nat) (s : Scan) : Scan :=
  { s with found := s.found.map (Symbol.moveDown k), header := s.header.map (Header.moveDown k) }

/-! ## What lines declare -/

theorem methodmapMember?_add (map : String) (line k : Nat) (code : List Char)
    (doc : Option String) :
    methodmapMember? map (line + k) code doc =
      (methodmapMember? map line code doc).map (Finding.moveDown k) := by
  unfold methodmapMember?
  cases property? code with
  | some name => rfl
  | none =>
      cases method? code with
      | none => rfl
      | some c =>
          simp only [Option.map_some]
          split
          · rfl
          · rfl

theorem enumStructMember?_add (owner : String) (line k : Nat) (code : List Char)
    (doc : Option String) :
    enumStructMember? owner (line + k) code doc =
      (enumStructMember? owner line code doc).map (Finding.moveDown k) := by
  unfold enumStructMember?
  cases field? code with
  | some field =>
      simp only
      split
      · rfl
      · rfl
  | none =>
      cases structMethod? code with
      | none => rfl
      | some c =>
          simp only [Option.bind_some]
          split
          · rfl
          · rfl

theorem entries_add (owner : Option String) (line k : Nat) (doc : Option String)
    (parts : List (List Char)) :
    entries owner (line + k) doc parts =
      (entries owner line doc parts).map (Finding.moveDown k) := by
  induction parts generalizing doc with
  | nil => rfl
  | cons part rest ih =>
      simp only [entries]
      cases enumEntry? part with
      | none => exact ih doc
      | some name => exact congrArg (List.cons _) (ih none)

theorem members_add (kind : BlockKind) (line k : Nat) (code : List Char) (doc : Option String) :
    kind.members (line + k) code doc = (kind.members line code doc).map (Finding.moveDown k) := by
  cases kind with
  | methodmap map => simp [BlockKind.members, methodmapMember?_add, Option.toList_map]
  | enumStruct owner => simp [BlockKind.members, enumStructMember?_add, Option.toList_map]
  | enum owner => exact entries_add owner line k doc _

theorem firstMembers_add (kind : BlockKind) (line k : Nat) (code : List Char) :
    kind.firstMembers (line + k) code =
      (kind.firstMembers line code).map (Finding.moveDown k) := by
  unfold BlockKind.firstMembers
  split
  · rfl
  · split
    · rfl
    · exact members_add kind line k _ none

theorem callableOrGlobal?_add (line k : Nat) (code : List Char) (doc : Option String) :
    callableOrGlobal? (line + k) code doc =
      (callableOrGlobal? line code doc).map (Finding.moveDown k) := by
  unfold callableOrGlobal?
  split
  · rfl
  · cases global? code with
    | none => rfl
    | some g =>
        simp only [Option.bind_some]
        split
        · rfl
        · rfl

theorem topLevel_add (line k : Nat) (raw code : List Char) (doc : Option String) :
    topLevel (line + k) raw code doc =
      ((topLevel line raw code doc).1.map (Finding.moveDown k),
        (topLevel line raw code doc).2) := by
  unfold topLevel
  cases define? raw with
  | some name => rfl
  | none =>
      simp only
      split
      · rfl
      · cases methodmap? code with
        | some name => rfl
        | none =>
            cases enum? code with
            | some e =>
                simp only
                cases e.name.map String.ofList with
                | some name => rfl
                | none => rfl
            | none =>
                cases typedef? code with
                | some name => rfl
                | none => simp [callableOrGlobal?_add]

namespace Scan

theorem topLevelFindings_add (line k : Nat) (raw code : List Char) (doc : Option String) :
    topLevelFindings (line + k) raw code doc =
      (topLevelFindings line raw code doc).map (Finding.moveDown k) := by
  simp only [topLevelFindings, topLevel_add]
  cases (topLevel line raw code doc).2 with
  | none => simp [Option.toList_map]
  | some kind => simp [firstMembers_add, Option.toList_map]

theorem declared_add (s : Scan) (line k : Nat) (raw code : List Char) (doc : Option String) :
    (s.moveDown k).declared (line + k) raw code doc =
      ((s.declared line raw code doc).1.map (Finding.moveDown k),
        (s.declared line raw code doc).2) := by
  simp only [declared, moveDown]
  cases s.block with
  | some b =>
      by_cases hdepth : s.depth = b.depth
      · simp [hdepth, members_add]
      · simp [hdepth]
  | none =>
      by_cases hdepth : s.depth = 0
      · simp [hdepth, topLevelFindings_add, topLevel_add]
      · simp [hdepth]

/-! ## Taking findings -/

theorem signMethodmap_map (name : String) (signature : Signature) (doc : Option String) (k : Nat)
    (found : List Symbol) :
    signMethodmap name signature doc (found.map (Symbol.moveDown k)) =
      (signMethodmap name signature doc found).map (Symbol.moveDown k) := by
  induction found with
  | nil => rfl
  | cons x older ih =>
      simp only [List.map_cons, signMethodmap, ih]
      by_cases h : x.kind = .methodmap ∧ x.name = name
      · simp [Symbol.moveDown, h]
      · simp [Symbol.moveDown, h]

theorem addTo_moveDown (found : List Symbol) (f : Finding) (k : Nat) :
    addTo (found.map (Symbol.moveDown k)) (f.moveDown k) =
      (addTo found f).map (Symbol.moveDown k) := by
  cases f with
  | symbol x => rfl
  | header h =>
      simp only [Finding.moveDown, addTo_header, Header.moveDown, signMethodmap_map]
      cases parameterList? h.text with
      | none => rfl
      | some list =>
          simp only
          split
          · rfl
          · rfl

theorem opened_moveDown (o : Option Header) (f : Finding) (k : Nat) :
    opened (o.map (Header.moveDown k)) (f.moveDown k) = (opened o f).map (Header.moveDown k) := by
  cases f with
  | symbol x => rfl
  | header h =>
      simp only [Finding.moveDown, opened_header, Header.moveDown]
      cases parameterList? h.text with
      | none => rfl
      | some list => rfl

theorem take_moveDown (s : Scan) (f : Finding) (k : Nat) :
    (s.moveDown k).take (f.moveDown k) = (s.take f).moveDown k := by
  simp only [take_eq, moveDown, addTo_moveDown, opened_moveDown]

/-! ## Lines -/

/-- Lines further down, with symbols and headers to match. -/
def furtherDown (k : Nat) : Relabelling where
  symbols := List.map (Symbol.moveDown k)
  header := Header.moveDown k
  finding := Finding.moveDown k
  number := (· + k)
  number_succ line := Nat.add_right_comm line 1 k
  finding_continued _ _ := rfl
  linesSeen_header _ := rfl
  take_relabel s f := take_moveDown s f k
  declared_relabel s line raw code doc := declared_add s line k raw code doc

theorem scanLines_moveDown (s : Scan) (line k : Nat) (ls : List (List Char)) :
    (s.moveDown k).scanLines (line + k) ls = (s.scanLines line ls).moveDown k :=
  (furtherDown k).scanLines_apply s line ls

/-- A scan that starts anew further down finds the same, further down. -/
theorem found_scanLines_add (k : Nat) (ls : List (List Char)) :
    (scanLines {} k ls).found = (scanLines {} 0 ls).found.map (Symbol.moveDown k) := by
  have h := scanLines_moveDown {} 0 k ls
  rw [Nat.zero_add] at h
  exact congrArg Scan.found h

end Scan

end Source

end PawnScope
