import PawnScope.Proofs.Source.FunctionBodies

/-! # Layouts of enumerations

The entries of an enumeration stand between braces, with commas between them and white space before
each name, in which there may be line breaks. The lines of the body are read one after the other, so
that their layout makes no difference. Only the line of the opening brace is read in two ways: what
follows the brace is read with the heading if both are on one line, and not at all otherwise. -/

namespace PawnScope.Text

theorem dropReturn_append {s : List Char} (h : s.getLast? ≠ some '\r') (t : List Char) :
    dropReturn (s ++ t) = s ++ dropReturn t := by
  cases ht : t.getLast? with
  | none =>
      obtain rfl := List.getLast?_eq_none_iff.mp ht
      simp [dropReturn, h]
  | some c =>
      obtain ⟨init, rfl⟩ := List.getLast?_eq_some_iff.mp ht
      by_cases hc : c = '\r'
      · simp [dropReturn, hc, List.dropLast_append_of_ne_nil]
      · simp [dropReturn, hc, List.getLast?_append]

theorem splitOn_append_of_notMem {x : Char} {s : List Char} (h : x ∉ s) (t : List Char) :
    (s ++ t).splitOn x = (t.splitOn x).modifyHead (s ++ ·) := by
  induction s with
  | nil =>
      obtain ⟨part, parts, hparts⟩ := List.exists_cons_of_ne_nil (List.splitOn_ne_nil x t)
      simp [hparts]
  | cons c s ih =>
      rw [List.mem_cons, not_or] at h
      obtain ⟨part, parts, hparts⟩ := List.exists_cons_of_ne_nil (List.splitOn_ne_nil x t)
      rw [List.cons_append, List.splitOn_cons_eq_if_modifyHead, if_neg (by simpa using h.1 ∘ Eq.symm),
        ih h.2, hparts]
      rfl

/-- What is put before a text is put before its first line. -/
theorem lines_append {s : List Char} (hbreak : '\n' ∉ s) (hlast : s.getLast? ≠ some '\r')
    {t first : List Char} {rest : List (List Char)} (h : lines t = first :: rest) :
    lines (s ++ t) = (s ++ first) :: rest := by
  by_cases hmem : '\n' ∈ t
  · obtain ⟨front, back, rfl, hfront⟩ := List.eq_append_cons_of_mem hmem
    rw [lines_append_cons hfront] at h
    obtain ⟨rfl, rfl⟩ := List.cons.inj h
    have hline : '\n' ∉ s ++ front := by simpa using ⟨hbreak, hfront⟩
    rw [← List.append_assoc, lines_append_cons hline, dropReturn_append hlast]
  · have hne : ¬t.isEmpty = true := by
      intro hempty
      rw [List.isEmpty_iff.mp hempty] at h
      cases h
    rw [lines_of_notMem hmem, if_neg hne] at h
    obtain ⟨rfl, rfl⟩ := List.cons.inj h
    have hline : '\n' ∉ s ++ t := by simpa using ⟨hbreak, hmem⟩
    have hne' : ¬(s ++ t).isEmpty = true := by
      rw [List.isEmpty_iff] at hne ⊢
      simp [hne]
    rw [lines_of_notMem hline, if_neg hne']

end PawnScope.Text

namespace PawnScope.Source

open Text

/-! ## Entries on a line -/

/-- An entry as it is written: the white space before its name, and the name. -/
structure Entry where
  gap : List Char
  name : List Char

structure Entry.IsWritten (e : Entry) : Prop where
  gap : isBlank e.gap = true
  name : IsIdentifier e.name

/-- Whether the name starts on a later line than the one on which the entry before it ends. -/
def Entry.isBelow (e : Entry) : Bool := decide ('\n' ∈ e.gap)

/-- The parts of a line between its commas, up to the brace that closes the enumeration. -/
def entryParts (code : List Char) : List (List Char) :=
  (code.takeWhile (· != '\x7d')).splitOn ','

/-- The names of the entries on a line. -/
def entryNames (code : List Char) : List (List Char) := (entryParts code).filterMap enumEntry?

theorem enumEntry?_blank_append {b : List Char} (hb : isBlank b = true) (s : List Char) :
    enumEntry? (b ++ s) = enumEntry? s := by
  unfold enumEntry?
  rw [trimStart_blank_append hb]

theorem isWord_head_append {b s : List Char} (hb : isBlank b = true)
    (hs : ∀ c ∈ s.head?, isWord c = false) : ∀ c ∈ (b ++ s).head?, isWord c = false := by
  cases b with
  | nil => exact hs
  | cons d b =>
      intro c hc
      obtain rfl := Option.some.inj hc
      exact isWord_of_isSpace (List.all_eq_true.mp hb d List.mem_cons_self)

theorem enumEntry?_name {name b : List Char} (hname : IsIdentifier name) (hb : isBlank b = true) :
    enumEntry? (name ++ b) = some name := by
  have hspace : ∀ c ∈ b.head?, isWord c = false := by
    simpa using isWord_head_append hb (s := []) (by simp)
  unfold enumEntry?
  rw [hname.trimStart_append, name?_eq_some_iff.mpr ⟨hname, rfl, hspace⟩]
  rfl

theorem entryNames_blank_append {b : List Char} (hb : isBlank b = true) (s : List Char) :
    entryNames (b ++ s) = entryNames s := by
  have hclose : ∀ c ∈ b, (c != '\x7d') = true := by
    intro c hc
    simpa using fun hbrace : c = '\x7d' => notMem_of_isBlank hb (by decide) (hbrace ▸ hc)
  have hcomma : ',' ∉ b := notMem_of_isBlank hb (by decide)
  rw [entryNames, entryParts, List.takeWhile_append_of_pos hclose, splitOn_append_of_notMem hcomma,
    entryNames, entryParts]
  obtain ⟨part, parts, hparts⟩ := List.exists_cons_of_ne_nil
    (List.splitOn_ne_nil ',' (s.takeWhile (· != '\x7d')))
  rw [hparts, List.modifyHead_cons, List.filterMap_cons, List.filterMap_cons,
    enumEntry?_blank_append hb]

theorem takeWhile_name_append {name : List Char} (hname : IsIdentifier name) (s : List Char) :
    (name ++ s).takeWhile (· != '\x7d') = name ++ s.takeWhile (· != '\x7d') := by
  apply List.takeWhile_append_of_pos
  intro c hc
  simpa using fun hbrace : c = '\x7d' => hname.notMem (by decide) (hbrace ▸ hc)

/-- A name that a comma follows is the first one of its line. -/
theorem entryNames_append_comma {name : List Char} (hname : IsIdentifier name) (s : List Char) :
    entryNames (name ++ ',' :: s) = name :: entryNames s := by
  have hcomma : ',' ∉ name := hname.notMem (by decide)
  have hentry : enumEntry? name = some name := by simpa using enumEntry?_name hname (b := []) rfl
  have htake : (',' :: s).takeWhile (· != '\x7d') = ',' :: s.takeWhile (· != '\x7d') := by simp
  rw [entryNames, entryParts, takeWhile_name_append hname, htake, List.splitOn_append_cons_self,
    List.splitOn_eq_singleton hcomma, List.singleton_append, List.filterMap_cons, hentry]
  rfl

/-- A name that neither a comma nor another name follows is the only one of its line. -/
theorem entryNames_append_blank {name b : List Char} (hname : IsIdentifier name)
    (hb : isBlank b = true) {s : List Char} (hs : ∀ c ∈ s.head?, c = '\x7d') :
    entryNames (name ++ (b ++ s)) = [name] := by
  have hbrace : (b ++ s).takeWhile (· != '\x7d') = b := by
    apply takeWhile_append_eq_left
    · intro c hc
      simpa using fun hbrace : c = '\x7d' => notMem_of_isBlank hb (by decide) (hbrace ▸ hc)
    · intro c hc
      simpa using hs c hc
  have hcomma : ',' ∉ name ++ b := by
    rw [List.mem_append, not_or]
    exact ⟨hname.notMem (by decide), notMem_of_isBlank hb (by decide)⟩
  rw [entryNames, entryParts, takeWhile_name_append hname, hbrace, List.splitOn_eq_singleton hcomma,
    List.filterMap_cons, enumEntry?_name hname hb]
  rfl

theorem entryNames_blank {b : List Char} (hb : isBlank b = true) : entryNames b = [] := by
  have h := entryNames_blank_append hb []
  rwa [List.append_nil] at h

/-! ## The lines of a body -/

/-- The text after the opening brace: the entries with commas between them, white space and the
closing brace. -/
def body : List Entry → List Char → List Char
  | [], last => last ++ ['\x7d']
  | [e], last => e.gap ++ (e.name ++ (last ++ ['\x7d']))
  | e :: f :: es, last => e.gap ++ (e.name ++ ',' :: body (f :: es) last)

/-- What inner lines of a body do not hold, and the last one only at its end. -/
def IsInner (s : List Char) : Prop :=
  ∀ c ∈ ['\n', '"', '\'', '/', '\x7b', '\x7d', ';'], c ∉ s

theorem isInner_append {s t : List Char} : IsInner (s ++ t) ↔ IsInner s ∧ IsInner t := by
  simp only [IsInner, List.mem_append, not_or]
  exact ⟨fun h => ⟨fun c hc => (h c hc).1, fun c hc => (h c hc).2⟩,
    fun h c hc => ⟨h.1 c hc, h.2 c hc⟩⟩

theorem IsInner.isPlain {s : List Char} (h : IsInner s) : IsPlain s :=
  ⟨h _ (by decide), h _ (by decide), h _ (by decide)⟩

theorem IsInner.isPlain_concat {s : List Char} (h : IsInner s) : IsPlain (s ++ ['\x7d']) :=
  isPlain_append.mpr ⟨h.isPlain, by decide⟩

theorem IsInner.lines_concat {s : List Char} (h : IsInner s) :
    lines (s ++ ['\x7d']) = [s ++ ['\x7d']] := by
  rw [lines_of_notMem (by simpa using h _ (by decide)), if_neg (by simp)]

theorem IsInner.dropReturn {s : List Char} (h : IsInner s) : IsInner (dropReturn s) := by
  obtain ⟨tail, hs, -⟩ := exists_dropReturn_append s
  rw [hs, isInner_append] at h
  exact h.1

theorem isInner_of_isIdentifier {s : List Char} (h : IsIdentifier s) : IsInner s := by
  have hword : ∀ c ∈ ['\n', '"', '\'', '/', '\x7b', '\x7d', ';'], isWord c = false := by simp [isWord]
  exact fun c hc => h.notMem (hword c hc)

theorem isInner_of_isBlank {s : List Char} (h : isBlank s = true) (hbreak : '\n' ∉ s) :
    IsInner s := by
  intro c hc
  rcases List.mem_cons.mp hc with rfl | hc
  · exact hbreak
  · have hspace : ∀ c ∈ ['"', '\'', '/', '\x7b', '\x7d', ';'], isSpace c = false := by simp [isSpace]
    exact notMem_of_isBlank h (hspace c hc)

/-- The first line of a body: it holds some entries and the rest of the body stands below it, or it
is the whole body. -/
inductive FirstLine (es : List Entry) (last : List Char) : Prop where
  | broken (first : List Char) (es' : List Entry) (last' : List Char)
      (body_eq : body es last = first ++ '\n' :: body es' last') (inner : IsInner first)
      (names_eq : es.map Entry.name = entryNames (dropReturn first) ++ es'.map Entry.name)
      (below_eq : (es.dropWhile (!·.isBelow)).map Entry.name = es'.map Entry.name)
      (written : ∀ e ∈ es', e.IsWritten) (blank : isBlank last' = true) : FirstLine es last
  | whole (front : List Char) (body_eq : body es last = front ++ ['\x7d']) (inner : IsInner front)
      (names_eq : es.map Entry.name = entryNames (body es last))
      (below_eq : es.dropWhile (!·.isBelow) = []) : FirstLine es last

/-- A line break before an entry. -/
theorem firstLine_of_isBelow {e : Entry} {es : List Entry} (hes : ∀ f ∈ e :: es, f.IsWritten)
    (hbelow : e.isBelow = true) {last : List Char} (hlast : isBlank last = true) :
    FirstLine (e :: es) last := by
  obtain ⟨gap, name⟩ := e
  rw [List.forall_mem_cons] at hes
  obtain ⟨b, g, rfl, hb⟩ := List.eq_append_cons_of_mem (of_decide_eq_true hbelow)
  have hgap := hes.1.gap
  rw [isBlank, List.all_append, List.all_cons, Bool.and_eq_true, Bool.and_eq_true] at hgap
  refine .broken b (⟨g, name⟩ :: es) last ?_ (isInner_of_isBlank hgap.1 hb) ?_ ?_ ?_ hlast
  · cases es with
    | nil => simp [body]
    | cons f es => simp [body]
  · rw [entryNames_blank (isBlank_dropReturn hgap.1)]
    rfl
  · simp [hbelow]
  · rw [List.forall_mem_cons]
    exact ⟨⟨hgap.2.2, hes.1.name⟩, hes.2⟩

/-- An entry that ends on the first line. -/
theorem FirstLine.cons {e f : Entry} {es : List Entry} (he : e.IsWritten) (habove : e.isBelow = false)
    {last : List Char} (h : FirstLine (f :: es) last) : FirstLine (e :: f :: es) last := by
  have hbreak : '\n' ∉ e.gap := of_decide_eq_false habove
  have hinner : ∀ {s}, IsInner s → IsInner (e.gap ++ (e.name ++ ',' :: s)) := by
    intro s hs
    have hcomma : IsInner [','] := by simp [IsInner]
    rw [isInner_append, isInner_append, ← List.singleton_append, isInner_append]
    exact ⟨isInner_of_isBlank he.gap hbreak, isInner_of_isIdentifier he.name, hcomma, hs⟩
  have hnames : ∀ s, entryNames (e.gap ++ (e.name ++ ',' :: s)) = e.name :: entryNames s := by
    intro s
    rw [entryNames_blank_append he.gap, entryNames_append_comma he.name]
  have hdrop : ∀ s, dropReturn (e.gap ++ (e.name ++ ',' :: s)) =
      e.gap ++ (e.name ++ ',' :: dropReturn s) := by
    intro s
    have h := dropReturn_append (s := e.gap ++ (e.name ++ [','])) (by simp [← List.append_assoc]) s
    simpa using h
  cases h with
  | broken first es' last' hbody hfirst hes hbelow hwritten hblank =>
      refine .broken (e.gap ++ (e.name ++ ',' :: first)) es' last' ?_ (hinner hfirst) ?_ ?_
        hwritten hblank
      · simp [body, hbody]
      · rw [hdrop, hnames, List.map_cons, hes]
        rfl
      · rw [List.dropWhile_cons_of_pos (by simpa using habove), hbelow]
  | whole front hbody hfront hes hbelow =>
      refine .whole (e.gap ++ (e.name ++ ',' :: front)) ?_ (hinner hfront) ?_ ?_
      · simp [body, hbody]
      · rw [body, hnames, List.map_cons, hes]
      · rw [List.dropWhile_cons_of_pos (by simpa using habove), hbelow]

/-- The last line of a body, which may hold a last entry. -/
theorem firstLine_of_end {es : List Entry} {last front : List Char} (hlast : isBlank last = true)
    (hbody : ∀ last, body es last = front ++ (last ++ ['\x7d'])) (hfront : IsInner front)
    (hreturn : front.getLast? ≠ some '\r')
    (hnames : ∀ b, isBlank b = true → ∀ s : List Char, (∀ c ∈ s.head?, c = '\x7d') →
      entryNames (front ++ (b ++ s)) = es.map Entry.name)
    (habove : es.dropWhile (!·.isBelow) = []) : FirstLine es last := by
  by_cases hbreak : '\n' ∈ last
  · obtain ⟨b, last', rfl, hb⟩ := List.eq_append_cons_of_mem hbreak
    rw [isBlank, List.all_append, List.all_cons, Bool.and_eq_true, Bool.and_eq_true] at hlast
    have hinner : IsInner (front ++ b) :=
      isInner_append.mpr ⟨hfront, isInner_of_isBlank hlast.1 hb⟩
    refine .broken (front ++ b) [] last' ?_ hinner ?_ ?_ (by simp) hlast.2.2
    · simp [hbody, body]
    · have h := hnames (dropReturn b) (isBlank_dropReturn hlast.1) [] (by simp)
      rw [List.append_nil] at h
      rw [dropReturn_append hreturn, h, List.map_nil, List.append_nil]
    · rw [habove]
  · have hinner : IsInner (front ++ last) :=
      isInner_append.mpr ⟨hfront, isInner_of_isBlank hlast hbreak⟩
    refine .whole (front ++ last) ?_ hinner ?_ habove
    · rw [hbody, List.append_assoc]
    · rw [hbody, hnames last hlast _ (by simp)]

theorem firstLine {es : List Entry} (hes : ∀ e ∈ es, e.IsWritten) {last : List Char}
    (hlast : isBlank last = true) : FirstLine es last := by
  induction es with
  | nil =>
      have hbody : ∀ last, body [] last = [] ++ (last ++ ['\x7d']) := fun _ => rfl
      refine firstLine_of_end hlast hbody (by simp [IsInner]) (by simp) ?_ rfl
      intro b hb s hs
      have hnone : s.takeWhile (· != '\x7d') = [] := by
        cases s with
        | nil => rfl
        | cons c s => simp [hs c rfl]
      rw [List.nil_append, entryNames_blank_append hb, entryNames, entryParts, hnone]
      rfl
  | cons e es ih =>
      cases hbelow : e.isBelow with
      | true => exact firstLine_of_isBelow hes hbelow hlast
      | false =>
          rw [List.forall_mem_cons] at hes
          cases es with
          | cons f es => exact (ih hes.2).cons hes.1 hbelow
          | nil =>
              have hbreak : '\n' ∉ e.gap := of_decide_eq_false hbelow
              obtain ⟨c, hc, hword⟩ := hes.1.name.exists_getLast
              have hreturn : (e.gap ++ e.name).getLast? ≠ some '\r' := by
                rw [List.getLast?_append, hc]
                rintro ⟨⟩
                exact absurd hword (by decide)
              have hinner : IsInner (e.gap ++ e.name) := isInner_append.mpr
                ⟨isInner_of_isBlank hes.1.gap hbreak, isInner_of_isIdentifier hes.1.name⟩
              refine firstLine_of_end hlast (fun last => by simp [body]) hinner hreturn ?_
                (by simp [hbelow])
              intro b hb s hs
              rw [List.append_assoc, entryNames_blank_append hes.1.gap,
                entryNames_append_blank hes.1.name hb hs]
              rfl

/-! ## Reading a body -/

/-- What the layout of a text must not change in a symbol. -/
def Symbol.shape (x : Symbol) : String × SymbolKind × Option String := (x.name, x.kind, x.parent)

/-- The shape of an entry. -/
def memberShape (owner : String) (name : List Char) : String × SymbolKind × Option String :=
  (String.ofList name, .enumMember, some owner)

namespace Scan

/-- The shapes of the symbols that were found, in order. -/
def shapes (s : Scan) : List (String × SymbolKind × Option String) :=
  s.found.reverse.map Symbol.shape

/-- A scan that reads the body of an enumeration. -/
def inEnum (name : String) (found : List Symbol) : Scan :=
  { found := found, depth := 1, block := some ⟨.enum (some name), 1⟩ }

/-- The symbols of entries do not depend on the state of the scan. -/
theorem exists_pushEntries (owner : String) (line : Nat) (doc : Option String)
    (parts : List (List Char)) :
    ∃ new, (∀ s : Scan, s.pushEntries (some owner) line doc parts =
        { s with found := new ++ s.found }) ∧
      new.reverse.map Symbol.shape = (parts.filterMap enumEntry?).map (memberShape owner) := by
  induction parts generalizing doc with
  | nil => exact ⟨[], fun _ => rfl, rfl⟩
  | cons part parts ih =>
      cases hentry : enumEntry? part with
      | none =>
          obtain ⟨new, hpush, hshapes⟩ := ih doc
          refine ⟨new, fun s => ?_, ?_⟩
          · simp only [pushEntries, hentry, hpush]
          · rw [hshapes, List.filterMap_cons, hentry]
      | some entry =>
          obtain ⟨new, hpush, hshapes⟩ := ih none
          refine ⟨new ++ [{ name := String.ofList entry, kind := .enumMember, documentation := doc
                            parent := some owner, line := line }], fun s => ?_, ?_⟩
          · simp [pushEntries, hentry, hpush, push]
          · rw [List.reverse_append, List.map_append, hshapes, List.filterMap_cons, hentry]
            rfl

theorem trackBraces_of_notMem (s : Scan) {code : List Char} (hopen : '\x7b' ∉ code)
    (hclose : '\x7d' ∉ code) (hend : ';' ∉ code) : s.trackBraces code = s := by
  induction code with
  | nil => rfl
  | cons c code ih =>
      rw [List.mem_cons, not_or] at hopen hclose hend
      have hstep : s.trackBrace c = s := by
        rw [trackBrace, if_neg (Ne.symm hopen.1), if_neg (Ne.symm hclose.1)]
        exact if_neg fun h => hend.1 h.1.symm
      rw [trackBraces, List.foldl_cons, hstep]
      exact ih hopen.2 hclose.2 hend.2

theorem trackBraces_of_isBlank (s : Scan) {code : List Char} (h : isBlank code = true) :
    s.trackBraces code = s :=
  s.trackBraces_of_notMem (notMem_of_isBlank h (by decide)) (notMem_of_isBlank h (by decide))
    (notMem_of_isBlank h (by decide))

theorem trackBraces_of_isInner (s : Scan) {code : List Char} (h : IsInner code) :
    s.trackBraces code = s :=
  s.trackBraces_of_notMem (h _ (by decide)) (h _ (by decide)) (h _ (by decide))

theorem pushEntries_of_isBlank (s : Scan) (owner : String) (line : Nat) (doc : Option String)
    {raw : List Char} (h : isBlank raw = true) :
    s.pushEntries (some owner) line doc (entryParts raw) = s := by
  obtain ⟨new, hpush, hshapes⟩ := exists_pushEntries owner line doc (entryParts raw)
  have hnone : (entryParts raw).filterMap enumEntry? = [] := entryNames_blank h
  rw [hnone, List.map_nil, List.map_eq_nil_iff, List.reverse_eq_nil_iff] at hshapes
  rw [hpush, hshapes]
  rfl

/-- A line of the body gives the entries on it, and is followed for its braces. -/
theorem scanLine_inEnum (name : String) (found : List Symbol) (line : Nat) {raw : List Char}
    (hraw : IsPlain raw) :
    (inEnum name found).scanLine line raw =
      ((inEnum name found).pushEntries (some name) line none (entryParts raw)).trackBraces raw := by
  rw [scanLine_of_isPlain rfl rfl hraw]
  by_cases hblank : isBlank raw = true
  · rw [pushEntries_of_isBlank (inEnum name found) name line none hblank,
      trackBraces_of_isBlank (inEnum name found) hblank]
    exact if_pos hblank
  · exact if_neg hblank

theorem shapes_append (name : String) (new found : List Symbol) :
    (inEnum name (new ++ found)).shapes =
      (inEnum name found).shapes ++ new.reverse.map Symbol.shape := by
  simp [shapes, inEnum]

/-- The body of an enumeration gives its entries, whatever its layout. -/
theorem shapes_scanLines_body (name : String) (found : List Symbol) (line : Nat) {es : List Entry}
    (hes : ∀ e ∈ es, e.IsWritten) {last : List Char} (hlast : isBlank last = true) :
    ((inEnum name found).scanLines line (lines (body es last))).shapes =
      (inEnum name found).shapes ++ (es.map Entry.name).map (memberShape name) := by
  -- Each line break leaves a shorter body of the same kind.
  induction hlength : (body es last).length using Nat.strong_induction_on
    generalizing found line es last with
  | _ length ih =>
      cases firstLine hes hlast with
      | broken first es' last' hbody hinner hnames hbelow hwritten hblank =>
          obtain ⟨new, hpush, hshapes⟩ :=
            exists_pushEntries name line none (entryParts (dropReturn first))
          have hentries : new.reverse.map Symbol.shape =
              (entryNames (dropReturn first)).map (memberShape name) := hshapes
          have hshorter : (body es' last').length < length := by
            rw [← hlength, hbody, List.length_append, List.length_cons]
            omega
          have hline : (inEnum name found).scanLine line (dropReturn first) =
              inEnum name (new ++ found) := by
            rw [scanLine_inEnum name found line hinner.dropReturn.isPlain, hpush,
              trackBraces_of_isInner _ hinner.dropReturn]
            rfl
          rw [hbody, lines_append_cons (hinner _ (by decide)), scanLines, hline,
            ih _ hshorter (new ++ found) (line + 1) hwritten hblank rfl, shapes_append, hentries,
            hnames, List.map_append, List.append_assoc]
      | whole front hbody hinner hnames hbelow =>
          obtain ⟨new, hpush, hshapes⟩ :=
            exists_pushEntries name line none (entryParts (front ++ ['\x7d']))
          have hentries : new.reverse.map Symbol.shape =
              (entryNames (front ++ ['\x7d'])).map (memberShape name) := hshapes
          rw [hnames, hbody, hinner.lines_concat, scanLines,
            scanLine_inEnum name found line hinner.isPlain_concat, hpush, scanLines, ← hentries,
            ← shapes_append, shapes, found_trackBraces, shapes]
          rfl

end Scan

/-! ## The heading and the brace -/

/-- An enumeration as it is written: white space before the opening brace, the entries, and white
space before the closing one. -/
def enumText (name : String) (gap : List Char) (es : List Entry) (last : List Char) : String :=
  "enum " ++ name ++ String.ofList (gap ++ '\x7b' :: body es last)

/-- The symbol of an enumeration that starts on the first line. -/
def enumSymbol (name : String) : Symbol where
  name := name
  kind := .enum

theorem word?_eq_none {w : String} (hw : IsIdentifier w.toList) {name rest : List Char}
    (hname : IsIdentifier name) (hother : w.toList ≠ name) (hrest : ∀ c ∈ rest.head?, isWord c = false) :
    word? w (name ++ rest) = none := by
  rw [Option.eq_none_iff_forall_ne_some]
  intro after hafter
  obtain ⟨u, hu, hspace⟩ := Option.bind_eq_some_iff.mp hafter
  obtain ⟨c, tail, rfl, hc, -⟩ := eq_cons_of_spaces? hspace
  -- Both names are read from the same text.
  have hread := name?_eq_some_iff.mpr ⟨hname, rfl, hrest⟩
  rw [after?_eq_some_iff.mp hu, name?_append_cons hw (isWord_of_isSpace hc)] at hread
  exact hother (Prod.mk.inj (Option.some.inj hread)).1

namespace Scan

/-- The first line of a text, with nothing read before it. -/
theorem scanLine_first {raw : List Char} (hraw : IsPlain raw) (hblank : ¬isBlank raw = true) :
    scanLine {} 0 raw = ((takeAll {} (topLevelFindings 0 raw raw none)).start raw
      (topLevel 0 raw raw none).2).trackBraces raw := by
  have hline : declarationLine {} 0 raw raw = (takeAll {} (topLevelFindings 0 raw raw none)).start raw
      (topLevel 0 raw raw none).2 := by
    rw [declarationLine_eq]
    rfl
  rw [scanLine_of_isPlain rfl rfl hraw, ← hline]
  exact if_neg hblank

/-- The entries after the opening brace are taken like those of a line of the body. -/
theorem takeAll_firstMembers (s : Scan) (owner : String) (line : Nat) {front : List Char}
    (hfront : '\x7b' ∉ front) (x : List Char) :
    s.takeAll ((BlockKind.enum (some owner)).firstMembers line (front ++ '\x7b' :: x)) =
      s.pushEntries (some owner) line none (entryParts x) := by
  have hdrop : (front ++ '\x7b' :: x).dropWhile (· != '\x7b') = '\x7b' :: x := by
    rw [List.dropWhile_append_of_pos]
    · rfl
    · intro c hc
      simpa using fun h : c = '\x7b' => hfront (h ▸ hc)
  rw [BlockKind.firstMembers, hdrop]
  by_cases hblank : isBlank x = true
  · rw [pushEntries_of_isBlank s owner line none hblank]
    simp [hblank, takeAll]
  · rw [pushEntries_eq]
    simp [hblank, BlockKind.members, entryParts]

theorem trackBraces_brace {s : Scan} (hs : s.awaited = none) {front : List Char}
    (hfront : IsInner front) (x : List Char) :
    s.trackBraces (front ++ '\x7b' :: x) = trackBraces { s with depth := s.depth + 1 } x := by
  have hstep : s.trackBrace '\x7b' = { s with depth := s.depth + 1 } := by
    simp [trackBrace, hs]
  have happend : s.trackBraces (front ++ '\x7b' :: x) =
      ((s.trackBraces front).trackBrace '\x7b').trackBraces x := by
    simp [trackBraces]
  rw [happend, trackBraces_of_isInner s hfront, hstep]

end Scan

section Heading

variable {name : String} (hname : IsIdentifier name.toList) (hkeyword : isKeyword name.toList = false)
include hname

theorem isInner_enumHeading {gap : List Char} (hgap : isBlank gap = true) (hbreak : '\n' ∉ gap) :
    IsInner ("enum ".toList ++ (name.toList ++ gap)) := by
  rw [isInner_append, isInner_append]
  exact ⟨by simp [IsInner], isInner_of_isIdentifier hname, isInner_of_isBlank hgap hbreak⟩

include hkeyword

theorem enum?_heading {rest : List Char} (hword : ∀ c ∈ rest.head?, isWord c = false)
    (hrest : ∀ c ∈ (trimStart rest).head?, c = '\x7b') :
    enum? ("enum ".toList ++ (name.toList ++ rest)) = some ⟨false, some name.toList⟩ := by
  have hother : "struct".toList ≠ name.toList := by
    intro heq
    rw [← heq] at hkeyword
    exact absurd hkeyword (by decide)
  have hliteral : literal? "enum" (trimStart ("enum ".toList ++ (name.toList ++ rest))) =
      some (' ' :: (name.toList ++ rest)) := rfl
  have htrim : trimStart (' ' :: (name.toList ++ rest)) = name.toList ++ rest :=
    hname.trimStart_append rest
  have hstruct := word?_eq_none (w := "struct") (by decide) hname hother hword
  have hread : enumName? (name.toList ++ rest) = some name.toList := by
    rw [enumName?, name?_eq_some_iff.mpr ⟨hname, rfl, hword⟩]
    cases hbrace : trimStart rest with
    | nil => simp [hbrace]
    | cons c tail =>
        obtain rfl := hrest c (by rw [hbrace]; rfl)
        simp [hbrace]
  simp only [enum?, hliteral, Option.bind_eq_bind, Option.bind_some, htrim, hstruct, hread]
  rfl

/-- The heading declares the enumeration and starts its block. -/
theorem topLevel_enum {rest : List Char} (hword : ∀ c ∈ rest.head?, isWord c = false)
    (hrest : ∀ c ∈ (trimStart rest).head?, c = '\x7b') (doc : Option String) :
    topLevel 0 ("enum ".toList ++ (name.toList ++ rest)) ("enum ".toList ++ (name.toList ++ rest)) doc =
      (some (.symbol { enumSymbol name with documentation := doc }), some (.enum (some name))) := by
  have hdefine : define? ("enum ".toList ++ (name.toList ++ rest)) = none := rfl
  have hhash : (trimStart ("enum ".toList ++ (name.toList ++ rest))).head? ≠ some '#' := by
    simp [trimStart, isSpace]
  have hmethodmap : methodmap? ("enum ".toList ++ (name.toList ++ rest)) = none := rfl
  simp only [topLevel, hdefine, if_neg hhash, hmethodmap, enum?_heading hname hkeyword hword hrest]
  simp [enumSymbol]

namespace Scan

/-- A line with the heading and the brace is read like the first line of the body. -/
theorem scanLine_enum_brace {gap : List Char} (hgap : isBlank gap = true) (hbreak : '\n' ∉ gap)
    {x : List Char} (hx : IsPlain x) :
    scanLine {} 0 ("enum ".toList ++ (name.toList ++ (gap ++ '\x7b' :: x))) =
      (inEnum name [enumSymbol name]).scanLine 0 x := by
  have hhead := isWord_head_append hgap (s := '\x7b' :: x) (by simp [isWord])
  have hbrace : ∀ c ∈ (trimStart (gap ++ '\x7b' :: x)).head?, c = '\x7b' := by
    rw [trimStart_append_cons hgap (by decide)]
    simp
  have htop := topLevel_enum hname hkeyword hhead hbrace none
  have hnotBlank : ¬isBlank ("enum ".toList ++ (name.toList ++ (gap ++ '\x7b' :: x))) = true := by
    simp [isBlank, isSpace]
  have hfront := isInner_enumHeading hname hgap hbreak
  have hdivided : "enum ".toList ++ (name.toList ++ (gap ++ '\x7b' :: x)) =
      "enum ".toList ++ (name.toList ++ gap) ++ '\x7b' :: x := by
    simp only [List.append_assoc]
  rw [hdivided] at htop hnotBlank ⊢
  generalize "enum ".toList ++ (name.toList ++ gap) = front at htop hnotBlank hfront ⊢
  have hplain : IsPlain (front ++ '\x7b' :: x) := by
    rw [← List.singleton_append, isPlain_append, isPlain_append]
    exact ⟨hfront.isPlain, by decide, hx⟩
  obtain ⟨new, hpush, -⟩ := exists_pushEntries name 0 none (entryParts x)
  have hmem : '\x7b' ∈ front ++ '\x7b' :: x := by simp
  have hstart : (takeAll {} (topLevelFindings 0 (front ++ '\x7b' :: x) (front ++ '\x7b' :: x)
      none)).start (front ++ '\x7b' :: x) (some (.enum (some name))) =
        { inEnum name (new ++ [enumSymbol name]) with depth := 0 } := by
    have htake := takeAll_firstMembers (push {} (enumSymbol name)) name 0
      (hfront _ (by decide)) x
    rw [hpush] at htake
    rw [topLevelFindings, htop]
    exact (congrArg (start · _ _) htake).trans (if_pos hmem)
  rw [scanLine_first hplain hnotBlank, htop, hstart, trackBraces_brace rfl hfront,
    scanLine_inEnum name _ 0 hx, hpush]
  rfl

/-- A scan that waits for the opening brace of an enumeration. -/
def awaiting (name : String) (found : List Symbol) : Scan :=
  { found := found, awaited := some (.enum (some name)) }

theorem scanLine_enum {gap : List Char} (hgap : isBlank gap = true) (hbreak : '\n' ∉ gap) :
    scanLine {} 0 ("enum ".toList ++ (name.toList ++ gap)) = awaiting name [enumSymbol name] := by
  have hhead : ∀ c ∈ gap.head?, isWord c = false := by
    simpa using isWord_head_append hgap (s := []) (by simp)
  have hblank : trimStart gap = [] := by
    rw [trimStart, List.dropWhile_eq_nil_iff]
    exact List.all_eq_true.mp hgap
  have htop := topLevel_enum hname hkeyword hhead (by simp [hblank]) none
  have hnotBlank : ¬isBlank ("enum ".toList ++ (name.toList ++ gap)) = true := by
    simp [isBlank, isSpace]
  have hinner := isInner_enumHeading hname hgap hbreak
  generalize "enum ".toList ++ (name.toList ++ gap) = raw at htop hnotBlank hinner ⊢
  have hbrace : '\x7b' ∉ raw := hinner _ (by decide)
  have hdrop : raw.dropWhile (· != '\x7b') = [] := by
    rw [List.dropWhile_eq_nil_iff]
    intro c hc
    simpa using fun h : c = '\x7b' => hbrace (h ▸ hc)
  have hfindings : topLevelFindings 0 raw raw none = [.symbol (enumSymbol name)] := by
    rw [topLevelFindings, htop]
    simp [BlockKind.firstMembers, hdrop, enumSymbol]
  rw [scanLine_first hinner.isPlain hnotBlank, hfindings, htop, trackBraces_of_isInner _ hinner]
  exact if_neg hbrace

end Scan

end Heading

namespace Scan

/-- Entries that share the line of the brace with it are lost if the heading stands above. -/
theorem scanLine_awaiting_brace (name : String) (found : List Symbol) (line : Nat)
    {gap : List Char} (hgap : isBlank gap = true) {x : List Char} (hx : IsPlain x) :
    (awaiting name found).scanLine line (gap ++ '\x7b' :: x) = (inEnum name found).trackBraces x := by
  have hplain : IsPlain (gap ++ '\x7b' :: x) := by
    rw [← List.singleton_append, isPlain_append, isPlain_append]
    exact ⟨isPlain_of_isBlank hgap, by decide, hx⟩
  have hblank : ¬isBlank (gap ++ '\x7b' :: x) = true := by
    rw [isBlank, List.all_append, List.all_cons]
    simp [isSpace]
  have htop : topLevel line (gap ++ '\x7b' :: x) (gap ++ '\x7b' :: x) none = (none, none) :=
    topLevel_brace (trimStart_append_cons hgap (by decide) x) line none
  have hdeclared : (awaiting name found).declared line (gap ++ '\x7b' :: x) (gap ++ '\x7b' :: x)
      none = ([], none) := by
    simp [declared, awaiting, topLevelFindings, htop]
  have hline : (awaiting name found).declarationLine line (gap ++ '\x7b' :: x)
      (gap ++ '\x7b' :: x) = awaiting name found := by
    have hdoc : (awaiting name found).documentation = none := rfl
    rw [declarationLine_eq, hdoc, hdeclared]
    rfl
  have hgapBraces := trackBraces_of_isBlank (awaiting name found) hgap
  rw [scanLine_of_isPlain rfl rfl hplain, hline]
  simp only [hblank]
  rw [trackBraces] at hgapBraces ⊢
  rw [List.foldl_append, hgapBraces]
  rfl

theorem scanLine_awaiting_blank (name : String) (found : List Symbol) (line : Nat)
    {raw : List Char} (hraw : isBlank raw = true) :
    (awaiting name found).scanLine line raw = awaiting name found := by
  rw [scanLine_of_isPlain rfl rfl (isPlain_of_isBlank hraw)]
  exact if_pos hraw

/-- Below the heading, what stands on the line of the brace is not read. -/
theorem shapes_scanLines_awaiting (name : String) (found : List Symbol) (line : Nat)
    {gap : List Char} (hgap : isBlank gap = true) {es : List Entry} (hes : ∀ e ∈ es, e.IsWritten)
    {last : List Char} (hlast : isBlank last = true) :
    ((awaiting name found).scanLines line (lines (gap ++ '\x7b' :: body es last))).shapes =
      (awaiting name found).shapes ++
        ((es.dropWhile (!·.isBelow)).map Entry.name).map (memberShape name) := by
  -- Each line break leaves less white space.
  induction hlength : gap.length using Nat.strong_induction_on generalizing gap line with
  | _ length ih =>
      by_cases hbreak : '\n' ∈ gap
      · obtain ⟨b, gap', rfl, hb⟩ := List.eq_append_cons_of_mem hbreak
        rw [isBlank, List.all_append, List.all_cons, Bool.and_eq_true, Bool.and_eq_true] at hgap
        have hshorter : gap'.length < length := by
          rw [← hlength, List.length_append, List.length_cons]
          omega
        have htext : b ++ '\n' :: gap' ++ '\x7b' :: body es last =
            b ++ '\n' :: (gap' ++ '\x7b' :: body es last) := by simp
        rw [htext, lines_append_cons hb, scanLines,
          scanLine_awaiting_blank name found line (isBlank_dropReturn hgap.1),
          ih _ hshorter (line + 1) hgap.2.2 rfl]
      · have hopening : '\n' ∉ gap ++ ['\x7b'] := by simpa using hbreak
        have hreturn : (gap ++ ['\x7b']).getLast? ≠ some '\r' := by simp
        have hlines : ∀ {x first rest}, lines x = first :: rest →
            lines (gap ++ '\x7b' :: x) = (gap ++ '\x7b' :: first) :: rest := by
          intro x first rest h
          simpa using lines_append hopening hreturn h
        cases firstLine hes hlast with
        | broken first es' last' hbody hinner hnames hbelow hwritten hblank =>
            rw [hbody, hlines (lines_append_cons (hinner _ (by decide)) _), scanLines,
              scanLine_awaiting_brace name found line hgap hinner.dropReturn.isPlain,
              trackBraces_of_isInner _ hinner.dropReturn,
              shapes_scanLines_body name found (line + 1) hwritten hblank, hbelow]
            rfl
        | whole front hbody hinner hnames hbelow =>
            rw [hbody, hlines hinner.lines_concat, scanLines,
              scanLine_awaiting_brace name found line hgap hinner.isPlain_concat, scanLines,
              hbelow, shapes, found_trackBraces]
            simp [shapes, inEnum, awaiting]

end Scan

/-! ## Whole enumerations -/

section EnumText

variable {name : String} (hname : IsIdentifier name.toList) (hkeyword : isKeyword name.toList = false)
  {gap : List Char} (hgap : isBlank gap = true) {es : List Entry} (hes : ∀ e ∈ es, e.IsWritten)
  {last : List Char} (hlast : isBlank last = true)
include hname hkeyword hgap hes hlast

/-- An enumeration with the opening brace on the line of the heading. -/
theorem shapes_enumText_beside (hbreak : '\n' ∉ gap) :
    (Scan.scanLines {} 0 (lines (enumText name gap es last).toList)).shapes =
      (name, .enum, none) :: (es.map Entry.name).map (memberShape name) := by
  obtain ⟨first, rest, hlines, hplain⟩ :
      ∃ first rest, lines (body es last) = first :: rest ∧ IsPlain first := by
    cases firstLine hes hlast with
    | broken first es' last' hbody hinner =>
        rw [hbody]
        exact ⟨_, _, lines_append_cons (hinner _ (by decide)) _, hinner.dropReturn.isPlain⟩
    | whole front hbody hinner =>
        rw [hbody]
        exact ⟨_, _, hinner.lines_concat, hinner.isPlain_concat⟩
  have hfront : '\n' ∉ "enum ".toList ++ (name.toList ++ (gap ++ ['\x7b'])) := by
    simpa using isInner_enumHeading hname hgap hbreak '\n' (by decide)
  have hreturn : ("enum ".toList ++ (name.toList ++ (gap ++ ['\x7b']))).getLast? ≠ some '\r' := by
    rw [← List.append_assoc, ← List.append_assoc, List.getLast?_concat]
    decide
  have htext : lines (enumText name gap es last).toList =
      ("enum ".toList ++ (name.toList ++ (gap ++ '\x7b' :: first))) :: rest := by
    simpa [enumText] using lines_append hfront hreturn hlines
  have hbody : Scan.scanLines {} 0 (lines (enumText name gap es last).toList) =
      (Scan.inEnum name [enumSymbol name]).scanLines 0 (lines (body es last)) := by
    rw [htext, hlines, Scan.scanLines, Scan.scanLine_enum_brace hname hkeyword hgap hbreak hplain]
    rfl
  rw [hbody, Scan.shapes_scanLines_body name _ 0 hes hlast]
  rfl

/-- An enumeration with the opening brace below its heading. -/
theorem shapes_enumText_below (hbreak : '\n' ∈ gap) :
    (Scan.scanLines {} 0 (lines (enumText name gap es last).toList)).shapes =
      (name, .enum, none) ::
        ((es.dropWhile (!·.isBelow)).map Entry.name).map (memberShape name) := by
  obtain ⟨b, gap', rfl, hb⟩ := List.eq_append_cons_of_mem hbreak
  rw [isBlank, List.all_append, List.all_cons, Bool.and_eq_true, Bool.and_eq_true] at hgap
  have hfront : '\n' ∉ "enum ".toList ++ (name.toList ++ b) :=
    isInner_enumHeading hname hgap.1 hb _ (by decide)
  have hreturn : ("enum ".toList ++ name.toList).getLast? ≠ some '\r' := by
    obtain ⟨c, hc, hword⟩ := hname.exists_getLast
    rw [List.getLast?_append, hc]
    rintro ⟨⟩
    exact absurd hword (by decide)
  have hheading : dropReturn ("enum ".toList ++ (name.toList ++ b)) =
      "enum ".toList ++ (name.toList ++ dropReturn b) := by
    simpa using dropReturn_append hreturn b
  have hinner : '\n' ∉ dropReturn b := by
    obtain ⟨tail, htail, -⟩ := exists_dropReturn_append b
    rw [htail, List.mem_append, not_or] at hb
    exact hb.1
  have htext : lines (enumText name (b ++ '\n' :: gap') es last).toList =
      ("enum ".toList ++ (name.toList ++ dropReturn b)) ::
        lines (gap' ++ '\x7b' :: body es last) := by
    rw [← hheading]
    simpa [enumText] using lines_append_cons hfront (gap' ++ '\x7b' :: body es last)
  rw [htext, Scan.scanLines,
    Scan.scanLine_enum hname hkeyword (isBlank_dropReturn hgap.1) hinner,
    Scan.shapes_scanLines_awaiting name _ 1 hgap.2.2 hes hlast]
  rfl

/-- The symbols of an enumeration are those of its entries, but for entries that share the line of
the opening brace with it if the heading stands above. So the layout makes no difference exactly if
the brace is on the line of the heading or the first entry is below the brace. -/
theorem declarations_enumText :
    (declarations (enumText name gap es last)).map Symbol.shape =
        (name, .enum, none) ::
          ((if '\n' ∈ gap then es.dropWhile (!·.isBelow) else es).map Entry.name).map
            (memberShape name) ∧
      ((declarations (enumText name gap es last)).map Symbol.shape =
          (name, .enum, none) :: (es.map Entry.name).map (memberShape name) ↔
        ('\n' ∈ gap → ∀ e ∈ es.head?, e.isBelow = true)) := by
  have hshapes : (declarations (enumText name gap es last)).map Symbol.shape =
      (name, .enum, none) ::
        ((if '\n' ∈ gap then es.dropWhile (!·.isBelow) else es).map Entry.name).map
          (memberShape name) := by
    split
    · rename_i hbreak
      exact shapes_enumText_below hname hkeyword hgap hes hlast hbreak
    · rename_i hbreak
      exact shapes_enumText_beside hname hkeyword hgap hes hlast hbreak
  refine ⟨hshapes, ?_⟩
  rw [hshapes]
  constructor
  · intro h hbreak e he
    rw [if_pos hbreak] at h
    have hlength := congrArg List.length h
    have hsame : es.dropWhile (!·.isBelow) = es :=
      (List.dropWhile_suffix _).eq_of_length (by simpa using hlength)
    have hhead := List.head?_dropWhile_not (fun e : Entry => !e.isBelow) es
    rw [hsame, he] at hhead
    simpa using hhead
  · intro h
    split
    · rename_i hbreak
      cases es with
      | nil => rfl
      | cons e es => rw [List.dropWhile_cons_of_neg (by simp [h hbreak e rfl])]
    · rfl

end EnumText

/-- Two entries on the line of the opening brace and one below it. -/
def teamEntries : List Entry :=
  [⟨" ".toList, "Red".toList⟩, ⟨"\t".toList, "Blue".toList⟩, ⟨"\r\n  ".toList, "Green".toList⟩]

instance : DecidablePred Entry.IsWritten := fun e =>
  decidable_of_iff (isBlank e.gap = true ∧ IsIdentifier e.name)
    ⟨fun ⟨h₁, h₂⟩ => ⟨h₁, h₂⟩, fun ⟨h₁, h₂⟩ => ⟨h₁, h₂⟩⟩

theorem declarations_enumText_team :
    enumText "Team" "\n".toList teamEntries " ".toList = "enum Team\n\x7b Red,\tBlue,\r\n  Green \x7d" ∧
      (declarations (enumText "Team" "\n".toList teamEntries " ".toList)).map Symbol.shape =
        [("Team", .enum, none), ("Green", .enumMember, some "Team")] ∧
      (declarations (enumText "Team" " ".toList teamEntries " ".toList)).map Symbol.shape =
        [("Team", .enum, none), ("Red", .enumMember, some "Team"),
          ("Blue", .enumMember, some "Team"), ("Green", .enumMember, some "Team")] := by
  have hname : IsIdentifier "Team".toList := by decide
  have hes : ∀ e ∈ teamEntries, e.IsWritten := by decide
  have hgap : isBlank "\n".toList = true := by decide
  have hspace : isBlank " ".toList = true := by decide
  refine ⟨by decide +kernel, ?_, ?_⟩
  · exact (declarations_enumText hname (by decide) hgap hes hspace).1.trans (by decide +kernel)
  · exact (declarations_enumText hname (by decide) hspace hes hspace).1.trans (by decide +kernel)

/-- Both entries stand on the line of the opening brace, below the heading, and none is found. -/
theorem entries_lost_below_heading :
    (declarations "enum Team\n\x7b Red, Blue \x7d").map Symbol.shape = [("Team", .enum, none)] ∧
      (declarations "enum Team\n\x7b Red, Blue \x7d").map Symbol.shape ≠
        [("Team", .enum, none), ("Red", .enumMember, some "Team"),
          ("Blue", .enumMember, some "Team")] := by
  decide +kernel

end PawnScope.Source
