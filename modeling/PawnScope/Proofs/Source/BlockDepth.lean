import PawnScope.Proofs.Source.PlainLines
import Mathlib.Algebra.Group.Nat.Defs
import Mathlib.Data.List.Flatten

/-! # Blocks and the depth of braces

A block is open from the brace that opens its body to the one that closes it, and no other block is
opened in between. A line that starts a block enters it before its braces are followed, and a
closing brace may come first; a block that is awaited is entered by a brace further down, which may
be the brace of another block. Wherever the block comes from, the braces of the line put it right.
So what is looked for outside blocks is looked for outside all braces. -/

namespace PawnScope.Source

open Text

namespace Scan

/-! ## Lines outside blocks -/

/-- A way to read a line of code outside blocks, given its number, the line as it is written, its
code and its documentation. -/
abbrev Reader := Scan → Nat → List Char → List Char → Option String → Scan

/-- A line of code that is not blank, while no header is open. Outside blocks and braces it is read
in the given way. -/
def declarationLineWith (read : Reader) (s : Scan) (line : Nat) (raw code : List Char) : Scan :=
  let doc := s.documentation
  let s := { s with docs := [] }
  match s.block with
  | some b => s.blockLine b line code doc
  | none => if s.depth = 0 then read s line raw code doc else s

/-- One line of a text, read in the given way if it is examined for what is declared outside
blocks. -/
def scanLineWith (read : Reader) (s : Scan) (line : Nat) (raw : List Char) : Scan :=
  let (s, consumed) := s.collectDoc raw
  if consumed then s
  else
    let (code, inComment) := codeOf s.inComment raw
    let s := { s with inComment := inComment }
    match s.header with
    | some h => (s.continueHeader h code).trackBraces code
    | none =>
        if isBlank code then if isBlank raw then { s with docs := [] } else s
        else (declarationLineWith read s line raw code).trackBraces code

theorem declarationLineWith_topLevelLine : declarationLineWith topLevelLine = declarationLine := rfl

theorem scanLineWith_topLevelLine : scanLineWith topLevelLine = scanLine := rfl

/-- A line is examined for what is declared outside blocks: it makes a difference how such lines are
read. -/
def IsExamined (s : Scan) (raw : List Char) : Prop :=
  ∃ read line, scanLineWith read s line raw ≠ s.scanLine line raw

/-- The code of a line; a line of documentation has none. -/
def lineCode (s : Scan) (raw : List Char) : List Char :=
  if (s.collectDoc raw).2 then [] else (codeOf s.inComment raw).1

/-- What a line does, whichever way lines outside blocks are read, up to what is remembered of
comments. -/
theorem exists_scanLineWith_eq (s : Scan) (raw : List Char) :
    ∃ docs inDoc inComment, ∀ read line,
      scanLineWith read s line raw =
        let t : Scan := { s with docs := docs, inDoc := inDoc, inComment := inComment }
        match s.header with
        | some h =>
            if (s.collectDoc raw).2 then t
            else (t.continueHeader h (s.lineCode raw)).trackBraces (s.lineCode raw)
        | none =>
            if isBlank (s.lineCode raw) then t
            else (declarationLineWith read t line raw (s.lineCode raw)).trackBraces
              (s.lineCode raw) := by
  obtain ⟨docs, inDoc, ht, -⟩ := s.collectDoc_eq raw
  unfold lineCode scanLineWith
  cases hcollect : s.collectDoc raw with
  | mk t consumed =>
      rw [hcollect] at ht
      obtain rfl : t = _ := ht
      obtain ⟨found, docs₀, inDoc₀, inComment₀, depth, block, awaited, header⟩ := s
      cases consumed with
      | true =>
          refine ⟨docs, inDoc, inComment₀, fun read line => ?_⟩
          cases header with
          | some h => rfl
          | none => rfl
      | false =>
          simp only [Bool.false_eq_true, if_false]
          generalize codeOf inComment₀ raw = code
          obtain ⟨code, inComment⟩ := code
          cases header with
          | some h => exact ⟨docs, inDoc, inComment, fun _ _ => rfl⟩
          | none =>
              by_cases hcode : isBlank code = true
              · refine ⟨if isBlank raw then [] else docs, inDoc, inComment, fun _ _ => ?_⟩
                simp only [hcode, if_true]
                split
                · rfl
                · rfl
              · refine ⟨docs, inDoc, inComment, fun _ _ => ?_⟩
                simp only [hcode, Bool.false_eq_true, if_false]

/-- A line of code outside blocks, braces and headers is read in the given way, and its braces are
followed. -/
theorem exists_scanLineWith_eq_trackBraces {s : Scan} (hdepth : s.depth = 0) (hblock : s.block = none)
    (hheader : s.header = none) {raw : List Char} (hcode : isBlank (s.lineCode raw) = false) :
    ∃ t doc, ∀ read line, scanLineWith read s line raw =
      (read t line raw (s.lineCode raw) doc).trackBraces (s.lineCode raw) := by
  obtain ⟨docs, inDoc, inComment, hline⟩ := s.exists_scanLineWith_eq raw
  refine ⟨{ s with docs := [], inDoc := inDoc, inComment := inComment },
    documentation { s with docs := docs }, fun read line => ?_⟩
  rw [hline read line]
  simp only [hheader, hcode, Bool.false_eq_true, if_false, declarationLineWith, hblock, hdepth,
    if_true]
  rfl

/-- For all other lines it makes no difference how lines outside blocks are read. -/
theorem scanLineWith_eq_scanLine {s : Scan} {raw : List Char}
    (h : ¬((s.depth = 0 ∧ s.block = none ∧ s.header = none) ∧ isBlank (s.lineCode raw) = false))
    (read : Reader) (line : Nat) : scanLineWith read s line raw = s.scanLine line raw := by
  obtain ⟨docs, inDoc, inComment, hline⟩ := s.exists_scanLineWith_eq raw
  rw [← scanLineWith_topLevelLine, hline read line, hline topLevelLine line]
  cases hheader : s.header with
  | some header => rfl
  | none =>
      by_cases hcode : isBlank (s.lineCode raw) = true
      · simp only [hcode, if_true]
      · simp only [hcode, Bool.false_eq_true, if_false, declarationLineWith]
        cases hblock : s.block with
        | some b => rfl
        | none =>
            have hdepth : s.depth ≠ 0 := fun hdepth =>
              h ⟨⟨hdepth, hblock, hheader⟩, Bool.eq_false_iff.mpr hcode⟩
            simp only [hdepth, if_false]

/-- Lines of code are examined where no block, no brace and no header is open, and nowhere else. -/
theorem isExamined_iff {s : Scan} {raw : List Char} :
    s.IsExamined raw ↔
      (s.depth = 0 ∧ s.block = none ∧ s.header = none) ∧ isBlank (s.lineCode raw) = false := by
  constructor
  · rintro ⟨read, line, hne⟩
    by_contra hnot
    exact hne (scanLineWith_eq_scanLine hnot read line)
  · rintro ⟨⟨hdepth, hblock, hheader⟩, hcode⟩
    obtain ⟨t, doc, hline⟩ := exists_scanLineWith_eq_trackBraces hdepth hblock hheader hcode
    -- A reader that finds one symbol too many shows that it was asked.
    refine ⟨fun s line raw code doc => (s.topLevelLine line raw code doc).push default, 0, ?_⟩
    rw [← scanLineWith_topLevelLine, hline, hline]
    intro heq
    have hfound := congrArg (·.found.length) heq
    simp [found_trackBraces, push] at hfound

/-! ## Counting braces -/

theorem depth_trackBrace (s : Scan) (c : Char) : (s.trackBrace c).depth = braceDepth s.depth c := by
  unfold trackBrace braceDepth
  split
  · split
    · rfl
    · rfl
  · split
    · rfl
    · split
      · rfl
      · rfl

theorem depth_trackBraces (s : Scan) (code : List Char) :
    (s.trackBraces code).depth = code.foldl braceDepth s.depth := by
  induction code generalizing s with
  | nil => rfl
  | cons c code ih =>
      rw [List.foldl_cons, ← depth_trackBrace]
      exact ih (s.trackBrace c)

theorem depth_start (s : Scan) (code : List Char) (kind : Option BlockKind) :
    (s.start code kind).depth = s.depth := by
  cases kind with
  | none => rfl
  | some kind =>
      simp only [start]
      split
      · rfl
      · rfl

theorem depth_continueHeader (s : Scan) (h : Header) (code : List Char) :
    (s.continueHeader h code).depth = s.depth := by
  rw [continueHeader_eq]
  split
  · rfl
  · rw [take_eq]

theorem depth_declarationLine (s : Scan) (line : Nat) (raw code : List Char) :
    (s.declarationLine line raw code).depth = s.depth := by
  rw [declarationLine_eq, depth_start, takeAll_eq]

/-- A line counts the braces of its code. -/
theorem depth_scanLine (s : Scan) (line : Nat) (raw : List Char) :
    (s.scanLine line raw).depth = (s.lineCode raw).foldl braceDepth s.depth := by
  obtain ⟨docs, inDoc, inComment, hline⟩ := s.exists_scanLineWith_eq raw
  rw [← scanLineWith_topLevelLine, hline]
  cases s.header with
  | some h =>
      simp only
      split
      · rename_i hconsumed
        rw [lineCode, if_pos hconsumed]
        rfl
      · rw [depth_trackBraces, depth_continueHeader]
  | none =>
      simp only
      split
      · rename_i hblank
        rw [foldl_braceDepth_of_notMem (notMem_of_isBlank hblank (by decide))
          (notMem_of_isBlank hblank (by decide))]
      · rw [depth_trackBraces, declarationLineWith_topLevelLine, depth_declarationLine]

/-- The code of some lines, of which the first has number `line`. -/
def codeTrace (s : Scan) (line : Nat) : List (List Char) → List Char
  | [] => []
  | raw :: rest => s.lineCode raw ++ (s.scanLine line raw).codeTrace (line + 1) rest

theorem depth_scanLines (s : Scan) (line : Nat) (ls : List (List Char)) :
    (s.scanLines line ls).depth = (s.codeTrace line ls).foldl braceDepth s.depth := by
  induction ls generalizing s line with
  | nil => rfl
  | cons raw rest ih => rw [scanLines, ih, depth_scanLine, codeTrace, List.foldl_append]

theorem count_lineCode_le (s : Scan) (raw : List Char) :
    (s.lineCode raw).count '\x7b' ≤ raw.count '\x7b' := by
  unfold lineCode
  split
  · exact Nat.zero_le _
  · exact (countP_blankLiterals_le rfl none _).trans ((stripBlocks_sublist s.inComment raw).count_le _)

theorem count_codeTrace_le (s : Scan) (line : Nat) (ls : List (List Char)) :
    (s.codeTrace line ls).count '\x7b' ≤ ls.flatten.count '\x7b' := by
  induction ls generalizing s line with
  | nil => exact Nat.le_refl 0
  | cons raw rest ih =>
      rw [codeTrace, List.flatten_cons, List.count_append, List.count_append]
      exact Nat.add_le_add (s.count_lineCode_le raw) (ih _ _)

/-! ## Words -/

/-- The number of open braces after one more character, in a word of 32 bits with a sign. -/
def wordDepth (depth : Int32) (c : Char) : Int32 :=
  if c = '\x7b' then depth + 1 else if c = '\x7d' then max (depth - 1) 0 else depth

theorem toInt_max (a b : Int32) : (max a b).toInt = max a.toInt b.toInt := by
  have hmax : max a b = if a ≤ b then b else a := rfl
  simp only [hmax, Int.max_def, Int32.le_iff_toInt_le, apply_ite Int32.toInt]

theorem toInt_add_one {word : Int32} {depth : Nat} (hword : word.toInt = depth)
    (h : depth + 1 < 2 ^ 31) : (word + 1).toInt = (depth + 1 : Nat) := by
  rw [Int32.toInt_add, hword, Int32.toInt_one]
  exact Int.bmod_eq_of_le (by omega) (by omega)

theorem toInt_sub_one {word : Int32} {depth : Nat} (hword : word.toInt = depth)
    (h : depth < 2 ^ 31) : (max (word - 1) 0).toInt = (depth - 1 : Nat) := by
  have hsub : (word - 1).toInt = (depth : Int) - 1 := by
    rw [Int32.toInt_sub, hword, Int32.toInt_one]
    exact Int.bmod_eq_of_le (by omega) (by omega)
  rw [toInt_max, hsub, Int32.toInt_zero]
  omega

/-- A word is large enough to count the braces of a text that has fewer. -/
theorem toInt_foldl_wordDepth {word : Int32} {depth : Nat} (hword : word.toInt = depth)
    {code : List Char} (h : depth + code.count '\x7b' < 2 ^ 31) :
    (code.foldl wordDepth word).toInt = code.foldl braceDepth depth := by
  induction code generalizing word depth with
  | nil => exact hword
  | cons c code ih =>
      rw [List.foldl_cons, List.foldl_cons, wordDepth, braceDepth]
      by_cases hopen : c = '\x7b'
      · subst hopen
        rw [List.count_cons_self] at h
        rw [if_pos rfl, if_pos rfl]
        exact ih (toInt_add_one hword (by omega)) (by omega)
      · rw [List.count_cons_of_ne hopen] at h
        rw [if_neg hopen, if_neg hopen]
        by_cases hclose : c = '\x7d'
        · rw [if_pos hclose, if_pos hclose]
          exact ih (toInt_sub_one hword (by omega)) (by omega)
        · rw [if_neg hclose, if_neg hclose]
          exact ih hword h

/-! ## Blocks -/

/-- The body of a block stands inside one brace, and no block is awaited inside braces. -/
structure IsFlat (s : Scan) : Prop where
  block : ∀ b, s.block = some b → b.depth = 1
  awaited : s.awaited.isSome = true → s.depth = 0

/-- Besides, the brace of an open block is open. This holds between lines, but not where a line has
entered a block and its braces are still to be followed. -/
structure IsNested (s : Scan) : Prop extends s.IsFlat where
  inside : s.block.isSome = true → 0 < s.depth

theorem isNested_empty : IsNested {} :=
  ⟨⟨fun _ h => (nomatch h), fun _ => rfl⟩, fun h => (nomatch h)⟩

theorem trackBrace_opening (s : Scan) :
    s.trackBrace '\x7b' =
      { s with
        depth := s.depth + 1
        awaited := none
        block := (s.awaited.map fun kind => ⟨kind, s.depth + 1⟩).or s.block } := by
  obtain ⟨found, docs, inDoc, inComment, depth, block, awaited, header⟩ := s
  cases awaited with
  | none => rfl
  | some kind => rfl

theorem trackBrace_closing (s : Scan) :
    s.trackBrace '\x7d' =
      { s with depth := s.depth - 1, block := s.block.filter fun b => b.depth ≤ s.depth - 1 } :=
  rfl

theorem trackBrace_other (s : Scan) {c : Char} (hopen : c ≠ '\x7b') (hclose : c ≠ '\x7d') :
    s.trackBrace c = s ∨ s.trackBrace c = { s with awaited := none } := by
  rw [trackBrace, if_neg hopen, if_neg hclose]
  split
  · exact Or.inr rfl
  · exact Or.inl rfl

/-- Whatever is open before it, a brace leaves a block open only if its brace is open. -/
theorem IsFlat.isNested_trackBrace {s : Scan} (hs : s.IsFlat) {c : Char}
    (hc : c = '\x7b' ∨ c = '\x7d') : (s.trackBrace c).IsNested := by
  rcases hc with rfl | rfl
  · rw [trackBrace_opening]
    refine ⟨⟨?_, fun h => (nomatch h)⟩, fun _ => Nat.succ_pos s.depth⟩
    intro b hb
    cases hawaited : s.awaited with
    | none => exact hs.block b (by simpa [hawaited] using hb)
    | some kind =>
        have hdepth := hs.awaited (by rw [hawaited]; rfl)
        obtain rfl : ⟨kind, s.depth + 1⟩ = b := by simpa [hawaited] using hb
        rw [hdepth]
  · rw [trackBrace_closing]
    refine ⟨⟨?_, ?_⟩, ?_⟩
    · intro b hb
      exact hs.block b (Option.filter_eq_some_iff.mp hb).1
    · intro h
      exact congrArg (· - 1) (hs.awaited h)
    · intro h
      obtain ⟨b, hb⟩ := Option.isSome_iff_exists.mp h
      obtain ⟨hb, hle⟩ := Option.filter_eq_some_iff.mp hb
      have hpos : 0 < b.depth := by rw [hs.block b hb]; exact Nat.one_pos
      exact Nat.lt_of_lt_of_le hpos (of_decide_eq_true hle)

theorem IsFlat.trackBrace {s : Scan} (hs : s.IsFlat) (c : Char) : (s.trackBrace c).IsFlat := by
  by_cases hc : c = '\x7b' ∨ c = '\x7d'
  · exact (hs.isNested_trackBrace hc).toIsFlat
  · rw [not_or] at hc
    rcases s.trackBrace_other hc.1 hc.2 with h | h
    · rw [h]
      exact hs
    · rw [h]
      exact ⟨hs.block, fun h => (nomatch h)⟩

theorem IsNested.trackBrace {s : Scan} (hs : s.IsNested) (c : Char) : (s.trackBrace c).IsNested := by
  by_cases hc : c = '\x7b' ∨ c = '\x7d'
  · exact hs.toIsFlat.isNested_trackBrace hc
  · refine ⟨hs.toIsFlat.trackBrace c, ?_⟩
    rw [not_or] at hc
    rcases s.trackBrace_other hc.1 hc.2 with h | h
    · rw [h]
      exact hs.inside
    · rw [h]
      exact hs.inside

theorem IsNested.trackBraces {s : Scan} (hs : s.IsNested) (code : List Char) :
    (s.trackBraces code).IsNested := by
  induction code generalizing s with
  | nil => exact hs
  | cons c code ih => exact ih (hs.trackBrace c)

/-- A line with an opening brace puts a block right that was entered before its braces are
followed. -/
theorem IsFlat.isNested_trackBraces {s : Scan} (hs : s.IsFlat) {code : List Char}
    (hbrace : '\x7b' ∈ code) : (s.trackBraces code).IsNested := by
  induction code generalizing s with
  | nil => cases hbrace
  | cons c code ih =>
      rcases List.mem_cons.mp hbrace with rfl | hrest
      · exact (hs.isNested_trackBrace (Or.inl rfl)).trackBraces code
      · exact ih (hs.trackBrace c) hrest

/-- Outside braces a line may start a block: either its own brace opens the block, or it is
awaited. -/
theorem IsNested.start_trackBraces {s : Scan} (hs : s.IsNested) {kind : Option BlockKind}
    (hdepth : kind.isSome = true → s.depth = 0) (code : List Char) :
    ((s.start code kind).trackBraces code).IsNested := by
  cases kind with
  | none => exact hs.trackBraces code
  | some kind =>
      by_cases hbrace : '\x7b' ∈ code
      · rw [start, if_pos hbrace]
        refine IsFlat.isNested_trackBraces ?_ hbrace
        refine ⟨?_, hs.awaited⟩
        rintro _ ⟨⟩
        exact congrArg (· + 1) (hdepth rfl)
      · rw [start, if_neg hbrace]
        refine IsNested.trackBraces ?_ code
        exact ⟨⟨hs.block, fun _ => hdepth rfl⟩, hs.inside⟩

theorem depth_of_declared {s : Scan} {line : Nat} {raw code : List Char} {doc : Option String}
    (h : (s.declared line raw code doc).2.isSome = true) : s.depth = 0 := by
  unfold declared at h
  split at h
  · cases h
  · split at h
    · assumption
    · cases h

/-- The block that a line leaves open stands inside its brace again. -/
theorem Step.isNested {s s' : Scan} {line : Nat} {raw : List Char} {fs : List Finding}
    (h : s.Step line raw fs s') (hs : s.IsNested) : s'.IsNested := by
  have hsame : ∀ found docs inDoc inComment header, IsNested { s with
      found := found, docs := docs, inDoc := inDoc, inComment := inComment, header := header } :=
    fun _ _ _ _ _ => ⟨⟨hs.block, hs.awaited⟩, hs.inside⟩
  cases h with
  | passes docs inDoc inComment => exact hsame s.found docs inDoc inComment s.header
  | givesUp h code docs inComment hheader =>
      exact (hsame s.found docs s.inDoc inComment none).trackBraces code
  | goesOn h code docs inComment hheader =>
      rw [take_eq]
      exact (hsame _ docs s.inDoc inComment _).trackBraces code
  | declares code doc inComment hheader =>
      rw [takeAll_eq]
      exact (hsame _ [] s.inDoc inComment _).start_trackBraces depth_of_declared code

theorem IsNested.scanLines {s : Scan} (hs : s.IsNested) (line : Nat) (ls : List (List Char)) :
    (s.scanLines line ls).IsNested := by
  induction ls generalizing s line with
  | nil => exact hs
  | cons raw rest ih => exact ih ((step_scanLine s line raw).isNested hs) (line + 1)

end Scan

/-! ## The scan of a text -/

/-- The state of the scan of a text after its first `n` lines. -/
def scanAfter (text : String) (n : Nat) : Scan := Scan.scanLines {} 0 ((lines text.toList).take n)

/-- The code of the first `n` lines of a text. -/
def codeAfter (text : String) (n : Nat) : List Char :=
  Scan.codeTrace {} 0 ((lines text.toList).take n)

theorem depth_scanAfter (text : String) (n : Nat) :
    (scanAfter text n).depth = (codeAfter text n).foldl Scan.braceDepth 0 :=
  Scan.depth_scanLines {} 0 _

theorem isNested_scanAfter (text : String) (n : Nat) : (scanAfter text n).IsNested :=
  Scan.isNested_empty.scanLines 0 _

theorem count_codeAfter_le (text : String) (n : Nat) :
    (codeAfter text n).count '\x7b' ≤ text.length := by
  have hlines : ((lines text.toList).take n).flatten.Sublist text.toList :=
    (List.take_sublist n _).flatten.trans (flatten_lines_sublist text.toList)
  calc (codeAfter text n).count '\x7b'
      ≤ ((lines text.toList).take n).flatten.count '\x7b' := Scan.count_codeTrace_le {} 0 _
    _ ≤ text.toList.count '\x7b' := hlines.count_le _
    _ ≤ text.toList.length := List.count_le_length
    _ = text.length := String.length_toList

/-- Whatever the braces of a text, the body of an open block stands inside one brace. -/
theorem depth_of_block_scanAfter {text : String} {n : Nat} {b : Block}
    (h : (scanAfter text n).block = some b) : b.depth = 1 :=
  (isNested_scanAfter text n).block b h

/-- After every line, the depth that is counted in a word with a sign is that of the open braces,
which is never negative, and an open block stands inside a brace that is open. The next line is
examined for what is declared outside blocks exactly if it has code, and no brace, no block and no
header is open. -/
theorem blocks_inside_braces (text : String) (n : Nat) :
    (text.length < 2 ^ 31 →
        ((codeAfter text n).foldl Scan.wordDepth 0).toInt = (scanAfter text n).depth) ∧
      (∀ b, (scanAfter text n).block = some b →
        1 ≤ b.depth ∧ b.depth ≤ (scanAfter text n).depth ∧ 0 < (scanAfter text n).depth) ∧
      ∀ raw, (scanAfter text n).IsExamined raw ↔
        ((scanAfter text n).depth = 0 ∧ (scanAfter text n).block = none ∧
            (scanAfter text n).header = none) ∧
          isBlank ((scanAfter text n).lineCode raw) = false := by
  refine ⟨fun hlength => ?_, fun b hb => ?_, fun raw => Scan.isExamined_iff⟩
  · have hcount : 0 + (codeAfter text n).count '\x7b' < 2 ^ 31 := by
      have hle := count_codeAfter_le text n
      omega
    rw [depth_scanAfter]
    exact Scan.toInt_foldl_wordDepth Int32.toInt_zero hcount
  · have hone := depth_of_block_scanAfter hb
    have hpos := (isNested_scanAfter text n).inside (by rw [hb]; rfl)
    omega

/-- A block is awaited when a line starts another one, which a brace closes before its own brace
comes. -/
def strayBraces : String := "methodmap Foo\nenum \x7d \x7b Red\n\x7d\nint g_Count;\n"

theorem blocks_inside_braces_stray :
    strayBraces.length < 2 ^ 31 ∧
      ((codeAfter strayBraces 2).foldl Scan.wordDepth 0).toInt = (scanAfter strayBraces 2).depth ∧
      (scanAfter strayBraces 2).block = some ⟨.methodmap "Foo", 1⟩ ∧
      1 ≤ (scanAfter strayBraces 2).depth ∧
      (scanAfter strayBraces 3).IsExamined "int g_Count;".toList := by
  have hlength : strayBraces.length < 2 ^ 31 := by decide
  have hblock : (scanAfter strayBraces 2).block = some ⟨.methodmap "Foo", 1⟩ := by decide +kernel
  obtain ⟨hword, hopen, -⟩ := blocks_inside_braces strayBraces 2
  obtain ⟨-, -, hexamined⟩ := blocks_inside_braces strayBraces 3
  exact ⟨hlength, hword hlength, hblock, (hopen _ hblock).2.1,
    (hexamined _).mpr (by decide +kernel)⟩

end PawnScope.Source
