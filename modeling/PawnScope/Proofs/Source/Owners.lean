import PawnScope.Proofs.Source.Findings

/-! # Owners of members

A member names its owner, and the owner is declared before it. The block whose members are being
read, the block that is awaited and the header that is open are all remembered by name, so each of
these names must have been declared when it was remembered; since no symbol that was found is ever
dropped or renamed, it stays so however many lines later the name is used. -/

namespace PawnScope.Source

/-! ## Declared names -/

/-- There is a symbol with the given kind and name. -/
def Declares (found : List Symbol) (kind : SymbolKind) (name : String) : Prop :=
  ∃ x ∈ found, x.kind = kind ∧ x.name = name

/-- The owner of a symbol of some kind is declared: methods and properties belong to a methodmap or
to an enumeration, entries to an enumeration if to anything, and all else to nothing. -/
def HasOwner (found : List Symbol) (kind : SymbolKind) (parent : Option String) : Prop :=
  match kind with
  | .method | .property =>
      ∃ name, parent = some name ∧ (Declares found .methodmap name ∨ Declares found .enum name)
  | .enumMember => ∀ name, parent = some name → Declares found .enum name
  | _ => parent = none

/-- A symbol of some kind has a signature if it can only be called, and none if it never can be. The
signature of a methodmap is that of its constructor. -/
def IsSigned (kind : SymbolKind) (signature : Option Signature) : Prop :=
  match kind with
  | .function | .method => signature.isSome = true
  | .methodmap => True
  | _ => signature = none

/-- What is found has its owner; a constructor has the methodmap that it signs. -/
def Finding.IsOwned (found : List Symbol) : Finding → Prop
  | .symbol x => HasOwner found x.kind x.parent ∧ IsSigned x.kind x.signature
  | .header h =>
      HasOwner found h.kind h.parent ∧
        match h.kind with
        | .function | .method => True
        | .methodmap => Declares found .methodmap h.name
        | _ => False

/-- The owner of the members of a block is declared. -/
def BlockKind.IsDeclaredIn (found : List Symbol) : BlockKind → Prop
  | .methodmap name => Declares found .methodmap name
  | .enumStruct name => Declares found .enum name
  | .enum owner => ∀ name, owner = some name → Declares found .enum name

theorem declares_cons_self (x : Symbol) (found : List Symbol) :
    Declares (x :: found) x.kind x.name :=
  ⟨x, List.mem_cons_self, rfl, rfl⟩

theorem Declares.cons {found : List Symbol} {kind : SymbolKind} {name : String}
    (h : Declares found kind name) (x : Symbol) : Declares (x :: found) kind name := by
  obtain ⟨y, hy, hkind⟩ := h
  exact ⟨y, List.mem_cons_of_mem x hy, hkind⟩

theorem declares_reverse {found : List Symbol} {kind : SymbolKind} {name : String} :
    Declares found.reverse kind name ↔ Declares found kind name := by
  simp only [Declares, List.mem_reverse]

section Mono

variable {found found' : List Symbol}
  (hmono : ∀ {kind name}, Declares found kind name → Declares found' kind name)

include hmono

theorem HasOwner.mono {kind : SymbolKind} {parent : Option String}
    (h : HasOwner found kind parent) : HasOwner found' kind parent := by
  cases kind with
  | method | property =>
      obtain ⟨name, hname, howner⟩ := h
      exact ⟨name, hname, howner.imp hmono hmono⟩
  | enumMember => exact fun name hname => hmono (h name hname)
  | _ => exact h

theorem Finding.IsOwned.mono {f : Finding} (h : f.IsOwned found) : f.IsOwned found' := by
  cases f with
  | symbol x => exact ⟨h.1.mono hmono, h.2⟩
  | header x =>
      refine ⟨h.1.mono hmono, ?_⟩
      have hkind := h.2
      revert hkind
      cases x.kind with
      | methodmap => exact hmono
      | _ => exact id

theorem BlockKind.IsDeclaredIn.mono {kind : BlockKind} (h : kind.IsDeclaredIn found) :
    kind.IsDeclaredIn found' := by
  cases kind with
  | methodmap name => exact hmono h
  | enumStruct name => exact hmono h
  | enum owner => exact fun name hname => hmono (h name hname)

end Mono

/-! ## Adding what is found -/

/-- Signing a methodmap keeps kinds and names. -/
theorem declares_signMethodmap {found : List Symbol} {kind : SymbolKind} {name map : String}
    {signature : Signature} {doc : Option String} :
    Declares (Scan.signMethodmap map signature doc found) kind name ↔ Declares found kind name := by
  induction found with
  | nil => rfl
  | cons x older ih =>
      simp only [Declares] at ih
      simp only [Scan.signMethodmap]
      split
      · simp [Declares]
      · simp [Declares, ih]

theorem Declares.addTo {found : List Symbol} {kind : SymbolKind} {name : String}
    (h : Declares found kind name) (f : Finding) : Declares (Scan.addTo found f) kind name := by
  cases f with
  | symbol x => exact h.cons x
  | header x =>
      rw [Scan.addTo_header]
      split
      · exact h
      · split
        · exact declares_signMethodmap.mpr h
        · exact h.cons _

/-- Every symbol has its owner among the older ones, and a signature if its kind asks for one. The
newest symbol comes first. -/
def AllOwned : List Symbol → Prop
  | [] => True
  | x :: older => (HasOwner older x.kind x.parent ∧ IsSigned x.kind x.signature) ∧ AllOwned older

theorem AllOwned.signMethodmap {found : List Symbol} (h : AllOwned found) (map : String)
    (signature : Signature) (doc : Option String) :
    AllOwned (Scan.signMethodmap map signature doc found) := by
  induction found with
  | nil => exact h
  | cons x older ih =>
      obtain ⟨⟨howner, hsigned⟩, holder⟩ := h
      simp only [Scan.signMethodmap]
      split
      · rename_i hmap
        refine ⟨⟨howner, ?_⟩, holder⟩
        simp [IsSigned, hmap.1]
      · exact ⟨⟨howner.mono declares_signMethodmap.mpr, hsigned⟩, ih holder⟩

theorem AllOwned.addTo {found : List Symbol} (h : AllOwned found) {f : Finding}
    (hf : f.IsOwned found) : AllOwned (Scan.addTo found f) := by
  cases f with
  | symbol x => exact ⟨hf, h⟩
  | header x =>
      rw [Scan.addTo_header]
      split
      · exact h
      · rename_i list hlist
        obtain ⟨howner, hkind⟩ := hf
        split
        · exact h.signMethodmap _ _ _
        · rename_i hmethodmap
          refine ⟨⟨howner, ?_⟩, h⟩
          change IsSigned x.kind (some _)
          revert hkind hmethodmap
          cases x.kind with
          | function | method => exact fun _ _ => rfl
          | methodmap => exact fun _ hne => absurd rfl hne
          | _ => exact fun hkind _ => hkind.elim

theorem AllOwned.of_append {newer older : List Symbol} {x : Symbol}
    (h : AllOwned (newer ++ x :: older)) :
    HasOwner older x.kind x.parent ∧ IsSigned x.kind x.signature := by
  induction newer with
  | nil => exact h.1
  | cons y newer ih => exact ih h.2

/-! ## Findings in a row -/

/-- Each finding has its owner among the symbols that those before it leave. -/
def OwnedFrom (found : List Symbol) : List Finding → Prop
  | [] => True
  | f :: fs => f.IsOwned found ∧ OwnedFrom (Scan.addTo found f) fs

theorem ownedFrom_of_forall {found : List Symbol} {fs : List Finding}
    (h : ∀ f ∈ fs, f.IsOwned found) : OwnedFrom found fs := by
  induction fs generalizing found with
  | nil => trivial
  | cons f fs ih =>
      refine ⟨h f List.mem_cons_self, ih fun g hg => ?_⟩
      exact (h g (List.mem_cons_of_mem f hg)).mono fun hdeclares => hdeclares.addTo f

theorem ownedFrom_append {found : List Symbol} {fs gs : List Finding} :
    OwnedFrom found (fs ++ gs) ↔
      OwnedFrom found fs ∧ OwnedFrom (fs.foldl Scan.addTo found) gs := by
  induction fs generalizing found with
  | nil => simp [OwnedFrom]
  | cons f fs ih => simp [OwnedFrom, ih, and_assoc]

theorem Declares.foldl_addTo {found : List Symbol} {kind : SymbolKind} {name : String}
    (h : Declares found kind name) (fs : List Finding) :
    Declares (fs.foldl Scan.addTo found) kind name := by
  induction fs generalizing found with
  | nil => exact h
  | cons f fs ih => exact ih (h.addTo f)

theorem AllOwned.foldl_addTo {found : List Symbol} {fs : List Finding} (h : AllOwned found)
    (hfs : OwnedFrom found fs) : AllOwned (fs.foldl Scan.addTo found) := by
  induction fs generalizing found with
  | nil => exact h
  | cons f fs ih => exact ih (h.addTo hfs.1) hfs.2

/-! ## What lines declare -/

theorem isOwned_entries {found : List Symbol} {owner : Option String}
    (howner : ∀ name, owner = some name → Declares found .enum name) (line : Nat)
    (doc : Option String) (parts : List (List Char)) :
    ∀ f ∈ entries owner line doc parts, f.IsOwned found := by
  induction parts generalizing doc with
  | nil => simp [entries]
  | cons part rest ih =>
      rw [entries]
      split
      · rw [List.forall_mem_cons]
        exact ⟨⟨howner, rfl⟩, ih none⟩
      · exact ih doc

theorem isOwned_methodmapMember? {found : List Symbol} {map : String}
    (hmap : Declares found .methodmap map) {line : Nat} {code : List Char} {doc : Option String}
    {f : Finding} (hf : methodmapMember? map line code doc = some f) : f.IsOwned found := by
  unfold methodmapMember? at hf
  split at hf
  · obtain rfl := Option.some.inj hf
    exact ⟨⟨map, rfl, Or.inl hmap⟩, rfl⟩
  · obtain ⟨c, -, rfl⟩ := Option.map_eq_some_iff.mp hf
    split
    · rename_i hname
      rw [← hname] at hmap
      exact ⟨rfl, hmap⟩
    · exact ⟨⟨map, rfl, Or.inl hmap⟩, trivial⟩

theorem isOwned_enumStructMember? {found : List Symbol} {owner : String}
    (howner : Declares found .enum owner) {line : Nat} {code : List Char} {doc : Option String}
    {f : Finding} (hf : enumStructMember? owner line code doc = some f) : f.IsOwned found := by
  unfold enumStructMember? at hf
  split at hf
  · split at hf
    · cases hf
    · obtain rfl := Option.some.inj hf
      exact ⟨⟨owner, rfl, Or.inr howner⟩, rfl⟩
  · obtain ⟨c, -, hc⟩ := Option.bind_eq_some_iff.mp hf
    split at hc
    · cases hc
    · obtain rfl := Option.some.inj hc
      exact ⟨⟨owner, rfl, Or.inr howner⟩, trivial⟩

/-- The members of a block have the owner of the block. -/
theorem isOwned_members {found : List Symbol} {kind : BlockKind} (h : kind.IsDeclaredIn found)
    (line : Nat) (code : List Char) (doc : Option String) :
    ∀ f ∈ kind.members line code doc, f.IsOwned found := by
  cases kind with
  | methodmap map => exact fun f hf => isOwned_methodmapMember? h (Option.mem_toList.mp hf)
  | enumStruct owner => exact fun f hf => isOwned_enumStructMember? h (Option.mem_toList.mp hf)
  | enum owner => exact isOwned_entries h line doc _

theorem isOwned_firstMembers {found : List Symbol} {kind : BlockKind}
    (h : kind.IsDeclaredIn found) (line : Nat) (code : List Char) :
    ∀ f ∈ kind.firstMembers line code, f.IsOwned found := by
  unfold BlockKind.firstMembers
  split
  · simp
  · split
    · simp
    · exact isOwned_members h line _ none

theorem isOwned_callableOrGlobal? (found : List Symbol) {line : Nat} {code : List Char}
    {doc : Option String} {f : Finding} (hf : callableOrGlobal? line code doc = some f) :
    f.IsOwned found := by
  unfold callableOrGlobal? at hf
  split at hf
  · obtain rfl := Option.some.inj hf
    exact ⟨rfl, trivial⟩
  · obtain ⟨g, -, hg⟩ := Option.bind_eq_some_iff.mp hf
    split at hg
    · cases hg
    · obtain rfl := Option.some.inj hg
      exact ⟨rfl, rfl⟩

/-- What a line outside blocks declares has no owner, and declares the owner of the block that it
starts. -/
theorem isOwned_topLevel (found : List Symbol) (line : Nat) (raw code : List Char)
    (doc : Option String) :
    (∀ f ∈ (topLevel line raw code doc).1.toList, f.IsOwned found) ∧
      ∀ kind ∈ (topLevel line raw code doc).2,
        kind.IsDeclaredIn ((topLevel line raw code doc).1.toList.foldl Scan.addTo found) := by
  unfold topLevel
  cases define? raw with
  | some name => simp [Finding.IsOwned, HasOwner, IsSigned]
  | none =>
      simp only
      split
      · simp
      · cases methodmap? code with
        | some name =>
            refine ⟨by simp [Finding.IsOwned, HasOwner, IsSigned], ?_⟩
            rintro _ ⟨⟩
            exact declares_cons_self _ found
        | none =>
            cases enum? code with
            | some e =>
                simp only
                cases e.name.map String.ofList with
                | some name =>
                    refine ⟨by simp [Finding.IsOwned, HasOwner, IsSigned], ?_⟩
                    rintro _ ⟨⟩
                    cases e.isStruct with
                    | true => exact declares_cons_self _ found
                    | false =>
                        rintro _ ⟨⟩
                        exact declares_cons_self _ found
                | none => simp [BlockKind.IsDeclaredIn]
            | none =>
                cases typedef? code with
                | some name => simp [Finding.IsOwned, HasOwner, IsSigned]
                | none =>
                    refine ⟨?_, by simp⟩
                    intro f hf
                    exact isOwned_callableOrGlobal? found (Option.mem_toList.mp hf)

namespace Scan

theorem ownedFrom_topLevelFindings (found : List Symbol) (line : Nat) (raw code : List Char)
    (doc : Option String) :
    OwnedFrom found (topLevelFindings line raw code doc) ∧
      ∀ kind ∈ (topLevel line raw code doc).2,
        kind.IsDeclaredIn ((topLevelFindings line raw code doc).foldl addTo found) := by
  obtain ⟨hfirst, hkind⟩ := isOwned_topLevel found line raw code doc
  rw [topLevelFindings, ownedFrom_append, List.foldl_append]
  cases hblock : (topLevel line raw code doc).2 with
  | none => exact ⟨⟨ownedFrom_of_forall hfirst, trivial⟩, by simp⟩
  | some kind =>
      have hdeclared := hkind kind hblock
      refine ⟨⟨ownedFrom_of_forall hfirst, ?_⟩, ?_⟩
      · exact ownedFrom_of_forall (isOwned_firstMembers hdeclared line code)
      · rintro _ ⟨⟩
        exact hdeclared.mono fun h => h.foldl_addTo _

/-! ## The state of a scan -/

/-- What a scan remembers by name is declared: the owner of its block, that of the block it awaits,
and the owner of the callable whose header is open. -/
structure Accounted (s : Scan) : Prop where
  header : ∀ h, s.header = some h → (Finding.header h).IsOwned s.found
  block : ∀ b, s.block = some b → b.kind.IsDeclaredIn s.found
  awaited : ∀ kind, s.awaited = some kind → kind.IsDeclaredIn s.found

theorem accounted_empty : Accounted {} :=
  ⟨fun _ h => (nomatch h), fun _ h => (nomatch h), fun _ h => (nomatch h)⟩

theorem Accounted.withComments {s : Scan} (hs : s.Accounted) (docs : List (List Char))
    (inDoc inComment : Bool) :
    Accounted { s with docs := docs, inDoc := inDoc, inComment := inComment } :=
  ⟨hs.header, hs.block, hs.awaited⟩

theorem Accounted.take {s : Scan} (hs : s.Accounted) {f : Finding} (hf : f.IsOwned s.found) :
    (s.take f).Accounted := by
  have hmono : ∀ {kind name}, Declares s.found kind name → Declares (addTo s.found f) kind name :=
    fun h => h.addTo f
  rw [take_eq]
  refine ⟨?_, fun b hb => (hs.block b hb).mono hmono,
    fun kind hkind => (hs.awaited kind hkind).mono hmono⟩
  intro h hh
  cases f with
  | symbol x => exact (hs.header h hh).mono hmono
  | header x =>
      -- A header that stays open adds nothing.
      rw [addTo_header]
      change opened s.header (.header x) = some h at hh
      rw [opened_header] at hh
      cases hlist : parameterList? x.text with
      | none =>
          rw [hlist] at hh
          obtain rfl := Option.some.inj hh
          exact hf
      | some list =>
          rw [hlist] at hh
          cases hh

theorem Accounted.takeAll {s : Scan} (hs : s.Accounted) {fs : List Finding}
    (hfs : OwnedFrom s.found fs) : (s.takeAll fs).Accounted := by
  induction fs generalizing s with
  | nil => exact hs
  | cons f fs ih =>
      apply ih (hs.take hfs.1)
      rw [take_eq]
      exact hfs.2

theorem Accounted.start {s : Scan} (hs : s.Accounted) (code : List Char) {kind : Option BlockKind}
    (hkind : ∀ k ∈ kind, k.IsDeclaredIn s.found) : (s.start code kind).Accounted := by
  cases kind with
  | none => exact hs
  | some kind =>
      have hdeclared := hkind kind rfl
      simp only [Scan.start]
      split
      · refine ⟨hs.header, ?_, hs.awaited⟩
        rintro _ ⟨⟩
        exact hdeclared
      · refine ⟨hs.header, hs.block, ?_⟩
        rintro _ ⟨⟩
        exact hdeclared

theorem Accounted.trackBrace {s : Scan} (hs : s.Accounted) (c : Char) :
    (s.trackBrace c).Accounted := by
  unfold Scan.trackBrace
  split
  · split
    · rename_i kind hkind
      refine ⟨hs.header, ?_, fun _ h => nomatch h⟩
      rintro _ ⟨⟩
      exact hs.awaited kind hkind
    · exact ⟨hs.header, hs.block, hs.awaited⟩
  · split
    · refine ⟨hs.header, ?_, hs.awaited⟩
      intro b hb
      exact hs.block b (Option.filter_eq_some_iff.mp hb).1
    · split
      · exact ⟨hs.header, hs.block, fun _ h => nomatch h⟩
      · exact hs

theorem Accounted.trackBraces {s : Scan} (hs : s.Accounted) (code : List Char) :
    (s.trackBraces code).Accounted := by
  induction code generalizing s with
  | nil => exact hs
  | cons c code ih => exact ih (hs.trackBrace c)

theorem Accounted.ownedFrom_declared {s : Scan} (hs : s.Accounted) (line : Nat)
    (raw code : List Char) (doc : Option String) :
    OwnedFrom s.found (s.declared line raw code doc).1 ∧
      ∀ kind ∈ (s.declared line raw code doc).2,
        kind.IsDeclaredIn ((s.declared line raw code doc).1.foldl addTo s.found) := by
  unfold declared
  split
  · rename_i b hb
    refine ⟨?_, by simp⟩
    split
    · exact ownedFrom_of_forall (isOwned_members (hs.block b hb) line code doc)
    · trivial
  · split
    · exact ownedFrom_topLevelFindings s.found line raw code doc
    · exact ⟨trivial, by simp⟩

/-- A line gives only what has an owner, and what is remembered after it is declared again. -/
theorem Step.accounted {s s' : Scan} {line : Nat} {raw : List Char} {fs : List Finding}
    (h : s.Step line raw fs s') (hs : s.Accounted) : OwnedFrom s.found fs ∧ s'.Accounted := by
  cases h with
  | passes docs inDoc inComment => exact ⟨trivial, hs.withComments docs inDoc inComment⟩
  | givesUp h code docs inComment hheader =>
      refine ⟨trivial, Accounted.trackBraces ?_ code⟩
      exact ⟨fun _ hnone => (nomatch hnone), hs.block, hs.awaited⟩
  | goesOn h code docs inComment hheader =>
      have howned : (Finding.header (continued h code)).IsOwned s.found := hs.header h hheader
      refine ⟨⟨howned, trivial⟩, Accounted.trackBraces ?_ code⟩
      exact (hs.withComments docs s.inDoc inComment).take howned
  | declares code doc inComment hheader =>
      obtain ⟨howned, hkind⟩ := hs.ownedFrom_declared line raw code doc
      refine ⟨howned, Accounted.trackBraces (Accounted.start ?_ code ?_) code⟩
      · exact (hs.withComments [] s.inDoc inComment).takeAll howned
      · rw [takeAll_eq]
        exact hkind

theorem Accounted.ownedFrom_trace {s : Scan} (hs : s.Accounted) (line : Nat)
    (ls : List (List Char)) : OwnedFrom s.found (s.trace line ls) := by
  induction ls generalizing s line with
  | nil => trivial
  | cons raw rest ih =>
      have hstep := step_scanLine s line raw
      obtain ⟨howned, hnext⟩ := hstep.accounted hs
      rw [trace, ownedFrom_append, ← hstep.found_eq]
      exact ⟨howned, ih hnext (line + 1)⟩

end Scan

theorem ownedFrom_trace (text : String) : OwnedFrom [] (trace text) :=
  Scan.accounted_empty.ownedFrom_trace 0 _

/-- Methods and properties name a methodmap or an enumeration that comes before them, entries of an
enumeration name one that comes before them or none, and nothing else names an owner. Functions and
methods have a signature, and only these and methodmaps do. The symbols of a text are what its trace
leaves, and wherever a constructor stands in the trace, the methodmap that it signs has been
found. -/
theorem members_have_owners (text : String) :
    (∀ before r after, declarations text = before ++ r :: after →
        HasOwner before r.kind r.parent ∧ IsSigned r.kind r.signature) ∧
      symbolsOf (trace text) = declarations text ∧
      ∀ before h after, trace text = before ++ .header h :: after → h.kind = .methodmap →
        Declares (symbolsOf before) .methodmap h.name := by
  have howned := ownedFrom_trace text
  refine ⟨?_, symbolsOf_trace text, ?_⟩
  · intro before r after heq
    have hnone : AllOwned [] := trivial
    have hall : AllOwned ((trace text).foldl Scan.addTo []) := hnone.foldl_addTo howned
    have hfound : (trace text).foldl Scan.addTo [] = after.reverse ++ r :: before.reverse := by
      rw [← symbolsOf_trace, symbolsOf] at heq
      simpa using congrArg List.reverse heq
    rw [hfound] at hall
    obtain ⟨howner, hsigned⟩ := hall.of_append
    exact ⟨howner.mono declares_reverse.mp, hsigned⟩
  · intro before h after heq hkind
    rw [heq, ownedFrom_append] at howned
    have hheader := howned.2.1.2
    rw [hkind] at hheader
    exact declares_reverse.mpr hheader

end PawnScope.Source
