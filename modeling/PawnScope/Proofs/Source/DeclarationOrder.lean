import PawnScope.Proofs.Source.Findings

/-! # The order of declarations

The symbols of a text are found in the order of the lines that declare them. A header is written
down with the line where it starts and becomes a symbol only where its parameter list ends, which
may be many lines further down. The order is kept because nothing else can be found while a header
is open. -/

namespace PawnScope.Source

open Text

/-! ## The lines of findings -/

/-- The line that a finding is written down with. -/
def Finding.line : Finding → Nat
  | .symbol x => x.line
  | .header h => h.line

theorem line_of_methodmapMember? {map : String} {line : Nat} {code : List Char}
    {doc : Option String} {f : Finding} (hf : methodmapMember? map line code doc = some f) :
    f.line = line := by
  unfold methodmapMember? at hf
  split at hf
  · obtain rfl := Option.some.inj hf
    rfl
  · obtain ⟨c, -, rfl⟩ := Option.map_eq_some_iff.mp hf
    split
    · rfl
    · rfl

theorem line_of_enumStructMember? {owner : String} {line : Nat} {code : List Char}
    {doc : Option String} {f : Finding} (hf : enumStructMember? owner line code doc = some f) :
    f.line = line := by
  unfold enumStructMember? at hf
  split at hf
  · split at hf
    · cases hf
    · obtain rfl := Option.some.inj hf
      rfl
  · obtain ⟨c, -, hc⟩ := Option.bind_eq_some_iff.mp hf
    split at hc
    · cases hc
    · obtain rfl := Option.some.inj hc
      rfl

theorem line_of_mem_entries {owner : Option String} {line : Nat} {doc : Option String}
    {parts : List (List Char)} : ∀ f ∈ entries owner line doc parts, f.line = line := by
  induction parts generalizing doc with
  | nil => simp [entries]
  | cons part rest ih =>
      rw [entries]
      split
      · rw [List.forall_mem_cons]
        exact ⟨rfl, ih⟩
      · exact ih

theorem line_of_mem_members {kind : BlockKind} {line : Nat} {code : List Char}
    {doc : Option String} : ∀ f ∈ kind.members line code doc, f.line = line := by
  cases kind with
  | methodmap map => exact fun f hf => line_of_methodmapMember? (Option.mem_toList.mp hf)
  | enumStruct owner => exact fun f hf => line_of_enumStructMember? (Option.mem_toList.mp hf)
  | enum owner => exact line_of_mem_entries

theorem line_of_mem_firstMembers {kind : BlockKind} {line : Nat} {code : List Char} :
    ∀ f ∈ kind.firstMembers line code, f.line = line := by
  unfold BlockKind.firstMembers
  split
  · simp
  · split
    · simp
    · exact line_of_mem_members

theorem line_of_callableOrGlobal? {line : Nat} {code : List Char} {doc : Option String}
    {f : Finding} (hf : callableOrGlobal? line code doc = some f) : f.line = line := by
  unfold callableOrGlobal? at hf
  split at hf
  · obtain rfl := Option.some.inj hf
    rfl
  · obtain ⟨g, -, hg⟩ := Option.bind_eq_some_iff.mp hf
    split at hg
    · cases hg
    · obtain rfl := Option.some.inj hg
      rfl

theorem line_of_topLevel {line : Nat} {raw code : List Char} {doc : Option String} {f : Finding}
    (hf : (topLevel line raw code doc).1 = some f) : f.line = line := by
  unfold topLevel at hf
  split at hf
  · obtain rfl := Option.some.inj hf
    rfl
  · split at hf
    · cases hf
    · split at hf
      · obtain rfl := Option.some.inj hf
        rfl
      · split at hf
        · split at hf
          · obtain rfl := Option.some.inj hf
            rfl
          · cases hf
        · split at hf
          · obtain rfl := Option.some.inj hf
            rfl
          · exact line_of_callableOrGlobal? hf

namespace Scan

theorem line_of_mem_topLevelFindings {line : Nat} {raw code : List Char} {doc : Option String} :
    ∀ f ∈ topLevelFindings line raw code doc, f.line = line := by
  intro f hf
  rcases List.mem_append.mp hf with hf | hf
  · exact line_of_topLevel (Option.mem_toList.mp hf)
  · cases hkind : (topLevel line raw code doc).2 with
    | none => simp [hkind] at hf
    | some kind =>
        rw [hkind] at hf
        exact line_of_mem_firstMembers f hf

/-- What a line declares is written down with the number of that line. -/
theorem line_of_mem_declared {s : Scan} {line : Nat} {raw code : List Char}
    {doc : Option String} : ∀ f ∈ (s.declared line raw code doc).1, f.line = line := by
  unfold declared
  split
  · split
    · exact line_of_mem_members
    · simp
  · split
    · exact line_of_mem_topLevelFindings
    · simp

/-! ## Symbols in order -/

/-- The symbols, the newest first, are in the order of their lines, and none comes after the line
with the given number. -/
structure InOrderUpTo (found : List Symbol) (line : Nat) : Prop where
  pairwise : found.Pairwise fun newer older => older.line ≤ newer.line
  le : ∀ x ∈ found, x.line ≤ line

theorem InOrderUpTo.cons {found : List Symbol} {x : Symbol} (h : InOrderUpTo found x.line) :
    InOrderUpTo (x :: found) x.line := by
  refine ⟨List.pairwise_cons.mpr ⟨h.le, h.pairwise⟩, ?_⟩
  rw [List.forall_mem_cons]
  exact ⟨Nat.le_refl _, h.le⟩

/-- A constructor signs its methodmap where it stands. -/
theorem map_line_signMethodmap (name : String) (signature : Signature) (doc : Option String)
    (found : List Symbol) :
    (signMethodmap name signature doc found).map (·.line) = found.map (·.line) := by
  induction found with
  | nil => rfl
  | cons x older ih =>
      rw [signMethodmap]
      split
      · rfl
      · rw [List.map_cons, ih, List.map_cons]

theorem inOrderUpTo_iff_map {found : List Symbol} {line : Nat} :
    InOrderUpTo found line ↔
      (found.map (·.line)).Pairwise (fun newer older => older ≤ newer) ∧
        ∀ n ∈ found.map (·.line), n ≤ line := by
  rw [List.pairwise_map, List.forall_mem_map]
  exact ⟨fun h => ⟨h.pairwise, h.le⟩, fun h => ⟨h.1, h.2⟩⟩

theorem InOrderUpTo.addTo {found : List Symbol} {f : Finding} (h : InOrderUpTo found f.line) :
    InOrderUpTo (Scan.addTo found f) f.line := by
  cases f with
  | symbol x => exact h.cons
  | header x =>
      rw [addTo_header]
      split
      · exact h
      · split
        · rw [inOrderUpTo_iff_map, map_line_signMethodmap, ← inOrderUpTo_iff_map]
          exact h
        · exact h.cons

theorem InOrderUpTo.foldl_addTo {found : List Symbol} {line : Nat} {fs : List Finding}
    (h : InOrderUpTo found line) (hfs : ∀ f ∈ fs, f.line = line) :
    InOrderUpTo (fs.foldl Scan.addTo found) line := by
  induction fs generalizing found with
  | nil => exact h
  | cons f fs ih =>
      rw [List.forall_mem_cons] at hfs
      obtain ⟨rfl, hrest⟩ := hfs
      exact ih h.addTo hrest

/-! ## The open header -/

theorem line_of_opened {o : Option Header} {line : Nat} (ho : ∀ h, o = some h → h.line = line)
    {f : Finding} (hf : f.line = line) : ∀ h, opened o f = some h → h.line = line := by
  intro h hh
  cases f with
  | symbol x => exact ho h hh
  | header x =>
      rw [opened_header] at hh
      split at hh
      · obtain rfl := Option.some.inj hh
        exact hf
      · cases hh

theorem line_of_foldl_opened {o : Option Header} {line : Nat}
    (ho : ∀ h, o = some h → h.line = line) {fs : List Finding} (hfs : ∀ f ∈ fs, f.line = line) :
    ∀ h, fs.foldl opened o = some h → h.line = line := by
  induction fs generalizing o with
  | nil => exact ho
  | cons f fs ih =>
      rw [List.forall_mem_cons] at hfs
      exact ih (line_of_opened ho hfs.1) hfs.2

/-! ## Lines in order -/

/-- The state of a scan before the line with the given number: the symbols are in order and stand on
earlier lines, and so does the start of an open header, which comes after all of them. -/
structure InOrder (s : Scan) (line : Nat) : Prop where
  pairwise : s.found.Pairwise fun newer older => older.line ≤ newer.line
  lt : ∀ x ∈ s.found, x.line < line
  header : ∀ h, s.header = some h → h.line < line ∧ ∀ x ∈ s.found, x.line ≤ h.line

theorem inOrder_empty : InOrder {} 0 :=
  ⟨List.Pairwise.nil, fun _ h => (nomatch h), fun _ h => (nomatch h)⟩

/-- It is enough that the symbols are in order up to some line that was read, and that a header is
open only from that line on. -/
theorem InOrder.of_upTo {s : Scan} {last line : Nat} (hlast : last < line)
    (hfound : InOrderUpTo s.found last) (hheader : ∀ h, s.header = some h → h.line = last) :
    InOrder s line := by
  refine ⟨hfound.pairwise, fun x hx => (hfound.le x hx).trans_lt hlast, ?_⟩
  intro h hh
  obtain rfl := hheader h hh
  exact ⟨hlast, hfound.le⟩

theorem InOrder.upTo {s : Scan} {line : Nat} (hs : s.InOrder line) : InOrderUpTo s.found line :=
  ⟨hs.pairwise, fun x hx => (hs.lt x hx).le⟩

theorem InOrder.upTo_header {s : Scan} {line : Nat} (hs : s.InOrder line) {h : Header}
    (hh : s.header = some h) : InOrderUpTo s.found h.line :=
  ⟨hs.pairwise, (hs.header h hh).2⟩

/-- One more line keeps the order. -/
theorem Step.inOrder {s s' : Scan} {line : Nat} {raw : List Char} {fs : List Finding}
    (hstep : s.Step line raw fs s') (hs : s.InOrder line) : s'.InOrder (line + 1) := by
  have hfound := hstep.found_eq
  cases hstep with
  | passes docs inDoc inComment =>
      refine ⟨hs.pairwise, fun x hx => (hs.lt x hx).trans (Nat.lt_succ_self line), ?_⟩
      intro h hh
      exact ⟨(hs.header h hh).1.trans (Nat.lt_succ_self line), (hs.header h hh).2⟩
  | givesUp h code docs inComment hheader =>
      apply InOrder.of_upTo (Nat.lt_succ_self line)
      · rw [hfound]
        exact hs.upTo
      · intro h' hh'
        rw [header_trackBraces] at hh'
        cases hh'
  | goesOn h code docs inComment hheader =>
      -- The header keeps the line where it started, whether it is closed now or stays open.
      have hline : (Finding.header (continued h code)).line = h.line := rfl
      apply InOrder.of_upTo ((hs.header h hheader).1.trans (Nat.lt_succ_self line))
      · rw [hfound]
        exact (hs.upTo_header hheader).foldl_addTo (by simp [hline])
      · rw [header_trackBraces, take_eq]
        refine line_of_opened ?_ hline
        rw [hheader]
        rintro _ ⟨⟩
        rfl
  | declares code doc inComment hheader =>
      apply InOrder.of_upTo (Nat.lt_succ_self line)
      · rw [hfound]
        exact hs.upTo.foldl_addTo line_of_mem_declared
      · rw [header_trackBraces, header_start, takeAll_eq]
        refine line_of_foldl_opened ?_ line_of_mem_declared
        rw [hheader]
        rintro _ ⟨⟩

theorem InOrder.scanLines {s : Scan} {line : Nat} (hs : s.InOrder line) (ls : List (List Char)) :
    (s.scanLines line ls).InOrder (line + ls.length) := by
  induction ls generalizing s line with
  | nil => exact hs
  | cons raw rest ih =>
      have hnext := ih ((step_scanLine s line raw).inOrder hs)
      rw [Nat.add_right_comm] at hnext
      exact hnext

end Scan

/-- The symbols of a text come in the order of their lines, and each stands on a line of the
text. -/
theorem declarations_in_order (text : String) :
    (declarations text).Pairwise (fun earlier later => earlier.line ≤ later.line) ∧
      ∀ x ∈ declarations text, x.line < (lines text.toList).length := by
  have horder := Scan.inOrder_empty.scanLines (lines text.toList)
  rw [Nat.zero_add] at horder
  constructor
  · exact List.pairwise_reverse.mpr horder.pairwise
  · intro x hx
    exact horder.lt x (List.mem_reverse.mp hx)

end PawnScope.Source
