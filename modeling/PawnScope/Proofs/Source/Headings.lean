import PawnScope.Proofs.Source.Directives
import PawnScope.Proofs.Source.Findings
import PawnScope.Proofs.Text.Identifiers

/-! # Headings of functions

The heading of a function ends with the parenthesis that opens its parameters. No reader of headings
looks beyond it, so that the heading is the same whatever follows on the line. A heading that
declares a function is nothing else, but for one that starts with the word of enumerations. -/

namespace PawnScope.Source

open Text

/-! ## Readers that stop before the parenthesis -/

/-- What is left of a text after something was read that does not reach the first parenthesis. -/
def LeavesParen (s rest : List Char) : Prop := ∃ front, s = front ++ rest ∧ '(' ∉ front

theorem LeavesParen.refl (s : List Char) : LeavesParen s s := ⟨[], rfl, List.not_mem_nil⟩

theorem LeavesParen.trans {s t u : List Char} (hst : LeavesParen s t) (htu : LeavesParen t u) :
    LeavesParen s u := by
  obtain ⟨front, rfl, hfront⟩ := hst
  obtain ⟨more, rfl, hmore⟩ := htu
  exact ⟨front ++ more, by rw [List.append_assoc], by simp [hfront, hmore]⟩

theorem LeavesParen.mem {s rest : List Char} (h : LeavesParen s rest) (hs : '(' ∈ s) :
    '(' ∈ rest := by
  obtain ⟨front, rfl, hfront⟩ := h
  exact (List.mem_append.mp hs).resolve_left hfront

theorem leavesParen_trimStart (s : List Char) : LeavesParen s (trimStart s) := by
  obtain ⟨a, ha, hs⟩ := exists_blank_append_trimStart s
  exact ⟨a, hs, notMem_of_isBlank ha (by decide)⟩

theorem trimStart_append_of_mem {s : List Char} (h : '(' ∈ s) (t : List Char) :
    trimStart (s ++ t) = trimStart s ++ t := by
  have hne : ¬(s.dropWhile isSpace).isEmpty = true := by
    rw [List.isEmpty_iff]
    exact List.ne_nil_of_mem ((leavesParen_trimStart s).mem h)
  rw [trimStart, List.dropWhile_append, if_neg hne]
  rfl

theorem leavesParen_of_name? {s name rest : List Char} (h : name? s = some (name, rest)) :
    LeavesParen s rest := by
  obtain ⟨hident, hs, -⟩ := name?_eq_some_iff.mp h
  exact ⟨name, hs, hident.notMem (by decide)⟩

theorem name?_append_of_mem {s : List Char} (h : '(' ∈ s) (t : List Char) :
    name? (s ++ t) = (name? s).map fun (name, rest) => (name, rest ++ t) := by
  cases hname : name? s with
  | some parts =>
      obtain ⟨name, rest⟩ := parts
      obtain ⟨hident, hs, hrest⟩ := name?_eq_some_iff.mp hname
      obtain ⟨c, tail, rfl⟩ := List.exists_cons_of_ne_nil
        (List.ne_nil_of_mem ((leavesParen_of_name? hname).mem h))
      exact name?_eq_some_iff.mpr ⟨hident, by rw [hs, List.append_assoc], by simpa using hrest⟩
  | none =>
      obtain ⟨c, tail, rfl⟩ := List.exists_cons_of_ne_nil (List.ne_nil_of_mem h)
      rw [name?] at hname
      split at hname
      · cases hname
      · rename_i hc
        rw [List.cons_append, name?, if_neg hc]
        rfl

theorem spaces?_append_of_mem {s : List Char} (h : '(' ∈ s) (t : List Char) :
    spaces? (s ++ t) = (spaces? s).map (· ++ t) := by
  obtain ⟨c, tail, rfl⟩ := List.exists_cons_of_ne_nil (List.ne_nil_of_mem h)
  rw [List.cons_append, spaces?, spaces?]
  by_cases hc : isSpace c = true
  · have htail : '(' ∈ tail := by
      rcases List.mem_cons.mp h with rfl | htail
      · exact absurd hc (by decide)
      · exact htail
    rw [if_pos hc, if_pos hc, trimStart_append_of_mem htail]
    rfl
  · rw [if_neg hc, if_neg hc]
    rfl

theorem eq_cons_of_spaces? {s rest : List Char} (h : spaces? s = some rest) :
    ∃ c tail, s = c :: tail ∧ isSpace c = true ∧ rest = trimStart tail := by
  cases s with
  | nil => cases h
  | cons c tail =>
      rw [spaces?] at h
      split at h
      · rename_i hc
        exact ⟨c, tail, rfl, hc, (Option.some.inj h).symm⟩
      · cases h

theorem leavesParen_of_spaces? {s rest : List Char} (h : spaces? s = some rest) :
    LeavesParen s rest := by
  obtain ⟨c, tail, rfl, hc, rfl⟩ := eq_cons_of_spaces? h
  have hspace : LeavesParen (c :: tail) tail :=
    ⟨[c], rfl, notMem_of_isBlank (by simpa [isBlank] using hc) (by decide)⟩
  exact hspace.trans (leavesParen_trimStart tail)

/-- What is read from the start of a text and does not reach the parenthesis is read from the part
up to the parenthesis alone. -/
theorem exists_of_append_eq {s t front rest : List Char} (h : '(' ∈ s) (hfront : '(' ∉ front)
    (heq : s ++ t = front ++ rest) : ∃ rest', s = front ++ rest' := by
  rcases List.append_eq_append_iff.mp heq with ⟨more, hmore, -⟩ | ⟨rest', hrest', -⟩
  · exact absurd (hmore ▸ List.mem_append_left more h) hfront
  · exact ⟨rest', hrest'⟩

theorem literal?_append_of_mem {w : String} (hw : '(' ∉ w.toList) {s : List Char} (h : '(' ∈ s)
    (t : List Char) : literal? w (s ++ t) = (literal? w s).map (· ++ t) := by
  cases hs : literal? w s with
  | some rest =>
      have heq := after?_eq_some_iff.mp hs
      exact after?_eq_some_iff.mpr (by rw [heq, List.append_assoc])
  | none =>
      rw [Option.map_none, Option.eq_none_iff_forall_ne_some]
      intro rest hst
      obtain ⟨rest', hrest'⟩ := exists_of_append_eq h hw (after?_eq_some_iff.mp hst)
      rw [literal?, after?_eq_some_iff.mpr hrest'] at hs
      cases hs

theorem leavesParen_of_literal? {w : String} (hw : '(' ∉ w.toList) {s rest : List Char}
    (h : literal? w s = some rest) : LeavesParen s rest :=
  ⟨w.toList, after?_eq_some_iff.mp h, hw⟩

theorem word?_append_of_mem {w : String} (hw : '(' ∉ w.toList) {s : List Char} (h : '(' ∈ s)
    (t : List Char) : word? w (s ++ t) = (word? w s).map (· ++ t) := by
  rw [word?, word?, literal?_append_of_mem hw h]
  cases hs : literal? w s with
  | none => rfl
  | some rest => exact spaces?_append_of_mem ((leavesParen_of_literal? hw hs).mem h) t

theorem leavesParen_of_word? {w : String} (hw : '(' ∉ w.toList) {s rest : List Char}
    (h : word? w s = some rest) : LeavesParen s rest := by
  obtain ⟨u, hu, hrest⟩ := Option.bind_eq_some_iff.mp h
  exact (leavesParen_of_literal? hw hu).trans (leavesParen_of_spaces? hrest)

theorem oneOf?_append_of_mem {words : List String} (hwords : ∀ w ∈ words, '(' ∉ w.toList)
    {s : List Char} (h : '(' ∈ s) (t : List Char) :
    oneOf? words (s ++ t) = (oneOf? words s).map (· ++ t) := by
  induction words with
  | nil => rfl
  | cons w words ih =>
      rw [List.forall_mem_cons] at hwords
      have htail := ih hwords.2
      rw [oneOf?, oneOf?] at htail ⊢
      rw [List.findSome?_cons, List.findSome?_cons, word?_append_of_mem hwords.1 h]
      cases word? w s with
      | none => exact htail
      | some rest => rfl

theorem leavesParen_of_oneOf? {words : List String} (hwords : ∀ w ∈ words, '(' ∉ w.toList)
    {s rest : List Char} (h : oneOf? words s = some rest) : LeavesParen s rest := by
  obtain ⟨w, hw, hrest⟩ := List.exists_of_findSome?_eq_some h
  exact leavesParen_of_word? (hwords w hw) hrest

theorem modifiers_of_none {words : List String} {s : List Char} (h : oneOf? words s = none)
    (read : Bool) : modifiers words s read = [(read, s)] := by
  rw [modifiers]
  split
  · rfl
  · rename_i hrest
    rw [h] at hrest
    cases hrest

theorem modifiers_of_some {words : List String} {s rest : List Char}
    (h : oneOf? words s = some rest) (read : Bool) :
    modifiers words s read = modifiers words rest true ++ [(read, s)] := by
  rw [modifiers]
  split
  · rename_i hnone
    rw [h] at hnone
    cases hnone
  · rename_i hrest
    rw [h] at hrest
    cases hrest
    rfl

theorem modifiers_append_of_mem {words : List String} (hwords : ∀ w ∈ words, '(' ∉ w.toList)
    {s : List Char} (h : '(' ∈ s) (read : Bool) (t : List Char) :
    modifiers words (s ++ t) read =
      (modifiers words s read).map fun (stored, rest) => (stored, rest ++ t) := by
  fun_induction modifiers words s read with
  | case1 s read hnone =>
      have happend := oneOf?_append_of_mem hwords h t
      rw [hnone] at happend
      exact modifiers_of_none happend read
  | case2 s read rest hsome ih =>
      have happend := oneOf?_append_of_mem hwords h t
      rw [hsome] at happend
      rw [modifiers_of_some happend, ih ((leavesParen_of_oneOf? hwords hsome).mem h),
        List.map_append]
      rfl

theorem leavesParen_of_mem_modifiers {words : List String} (hwords : ∀ w ∈ words, '(' ∉ w.toList)
    (s : List Char) (read : Bool) : ∀ m ∈ modifiers words s read, LeavesParen s m.2 := by
  fun_induction modifiers words s read with
  | case1 s read hnone => simpa using LeavesParen.refl s
  | case2 s read rest hsome ih =>
      rw [List.forall_mem_append]
      refine ⟨fun m hm => (leavesParen_of_oneOf? hwords hsome).trans (ih m hm), ?_⟩
      simpa using LeavesParen.refl s

theorem emptyBrackets?_eq_some_iff {s brackets rest : List Char} :
    emptyBrackets? s = some (brackets, rest) ↔
      s = brackets ++ rest ∧
        ∃ a b, isBlank a = true ∧ isBlank b = true ∧ brackets = a ++ '[' :: b ++ [']'] := by
  constructor
  · intro h
    unfold emptyBrackets? at h
    split at h
    · rename_i inner hinner
      split at h
      · rename_i rest' hrest
        cases h
        refine ⟨?_, _, _, List.all_takeWhile, List.all_takeWhile, rfl⟩
        have hs : s = s.takeWhile isSpace ++ trimStart s := List.takeWhile_append_dropWhile.symm
        have hinner' : inner = inner.takeWhile isSpace ++ trimStart inner :=
          List.takeWhile_append_dropWhile.symm
        rw [hrest] at hinner'
        rw [hinner, hinner'] at hs
        simpa using hs
      · cases h
    · cases h
  · rintro ⟨rfl, a, b, ha, hb, rfl⟩
    have hopen : isSpace '[' = false := by decide
    have hclose : isSpace ']' = false := by decide
    have htake : (a ++ '[' :: (b ++ ']' :: rest)).takeWhile isSpace = a :=
      takeWhile_append_eq_left (List.all_eq_true.mp ha) (by simpa using hopen)
    have htake' : (b ++ ']' :: rest).takeWhile isSpace = b :=
      takeWhile_append_eq_left (List.all_eq_true.mp hb) (by simpa using hclose)
    have hassoc : a ++ '[' :: b ++ [']'] ++ rest = a ++ '[' :: (b ++ ']' :: rest) := by simp
    rw [hassoc, emptyBrackets?]
    simp only [trimStart_append_cons ha hopen, trimStart_append_cons hb hclose, htake, htake']

theorem paren_notMem_brackets {a b : List Char} (ha : isBlank a = true) (hb : isBlank b = true) :
    '(' ∉ a ++ '[' :: b ++ [']'] := by
  have hspace : isSpace '(' = false := by decide
  simp [notMem_of_isBlank ha hspace, notMem_of_isBlank hb hspace]

theorem emptyBrackets?_append_of_mem {s : List Char} (h : '(' ∈ s) (t : List Char) :
    emptyBrackets? (s ++ t) =
      (emptyBrackets? s).map fun (brackets, rest) => (brackets, rest ++ t) := by
  cases hs : emptyBrackets? s with
  | some parts =>
      obtain ⟨heq, hbrackets⟩ := emptyBrackets?_eq_some_iff.mp hs
      exact emptyBrackets?_eq_some_iff.mpr ⟨by rw [heq, List.append_assoc], hbrackets⟩
  | none =>
      rw [Option.map_none, Option.eq_none_iff_forall_ne_some]
      rintro ⟨brackets, rest⟩ hst
      obtain ⟨heq, a, b, ha, hb, rfl⟩ := emptyBrackets?_eq_some_iff.mp hst
      obtain ⟨rest', hrest'⟩ := exists_of_append_eq h (paren_notMem_brackets ha hb) heq
      rw [emptyBrackets?_eq_some_iff.mpr ⟨hrest', a, b, ha, hb, rfl⟩] at hs
      cases hs

theorem leavesParen_of_emptyBrackets? {s brackets rest : List Char}
    (h : emptyBrackets? s = some (brackets, rest)) : LeavesParen s rest := by
  obtain ⟨hs, a, b, ha, hb, rfl⟩ := emptyBrackets?_eq_some_iff.mp h
  exact ⟨_, hs, paren_notMem_brackets ha hb⟩

theorem type?_append_of_mem {s : List Char} (h : '(' ∈ s) (t : List Char) :
    type? (s ++ t) = (type? s).map fun (type, rest) => (type, rest ++ t) := by
  rw [type?, type?, name?_append_of_mem h]
  cases hname : name? s with
  | none => rfl
  | some parts =>
      obtain ⟨name, rest⟩ := parts
      have hrest := (leavesParen_of_name? hname).mem h
      simp only [Option.map_some, Option.bind_eq_bind, Option.bind_some,
        emptyBrackets?_append_of_mem hrest]
      cases emptyBrackets? rest with
      | none => rfl
      | some brackets => rfl

theorem leavesParen_of_type? {s type rest : List Char} (h : type? s = some (type, rest)) :
    LeavesParen s rest := by
  obtain ⟨⟨name, rest'⟩, hname, htype⟩ := Option.bind_eq_some_iff.mp h
  have hrest' := leavesParen_of_name? hname
  simp only at htype
  split at htype
  · rename_i brackets rest'' hbrackets
    cases htype
    exact hrest'.trans (leavesParen_of_emptyBrackets? hbrackets)
  · cases htype
    exact hrest'

/-! ## Callables -/

/-- The same callable with more text after it. -/
def Callable.extend (t : List Char) (c : Callable) : Callable := { c with tail := c.tail ++ t }

theorem mark?_append_of_mem {s : List Char} (h : '(' ∈ s) (t : List Char) :
    mark? '(' (s ++ t) = (mark? '(' s).map (· ++ t) := by
  obtain ⟨c, tail, htail⟩ := List.exists_cons_of_ne_nil
    (List.ne_nil_of_mem ((leavesParen_trimStart s).mem h))
  rw [mark?, mark?, trimStart_append_of_mem h, htail]
  simp only [List.cons_append]
  split
  · rfl
  · rfl

theorem callee?_append_of_mem (returnType : Option (List Char)) {s : List Char} (h : '(' ∈ s)
    (t : List Char) :
    callee? returnType (s ++ t) = (callee? returnType s).map (Callable.extend t) := by
  rw [callee?, callee?, name?_append_of_mem h]
  cases hname : name? s with
  | none => rfl
  | some parts =>
      obtain ⟨name, rest⟩ := parts
      simp only [Option.map_some, Option.bind_eq_bind, Option.bind_some,
        mark?_append_of_mem ((leavesParen_of_name? hname).mem h)]
      cases mark? '(' rest with
      | none => rfl
      | some inner => rfl

theorem typedCallee?_append_of_mem {s : List Char} (h : '(' ∈ s) (t : List Char) :
    typedCallee? (s ++ t) = (typedCallee? s).map (Callable.extend t) := by
  rw [typedCallee?, typedCallee?, type?_append_of_mem h]
  cases htype : type? s with
  | none => rfl
  | some parts =>
      obtain ⟨type, rest⟩ := parts
      have hrest := (leavesParen_of_type? htype).mem h
      simp only [Option.map_some, Option.bind_eq_bind, Option.bind_some, spaces?_append_of_mem hrest]
      cases hspaces : spaces? rest with
      | none => rfl
      | some name => exact callee?_append_of_mem _ ((leavesParen_of_spaces? hspaces).mem hrest) t

theorem taggedCallee?_append_of_mem {s : List Char} (h : '(' ∈ s) (t : List Char) :
    taggedCallee? (s ++ t) = (taggedCallee? s).map (Callable.extend t) := by
  rw [taggedCallee?, taggedCallee?, name?_append_of_mem h]
  cases hname : name? s with
  | none => rfl
  | some parts =>
      obtain ⟨tag, rest⟩ := parts
      have hrest := (leavesParen_of_name? hname).mem h
      obtain ⟨c, tail, rfl⟩ := List.exists_cons_of_ne_nil (List.ne_nil_of_mem hrest)
      simp only [Option.map_some, Option.bind_eq_bind, Option.bind_some, List.cons_append]
      by_cases hc : c = ':'
      · subst hc
        exact callee?_append_of_mem _ (by simpa using hrest) t
      · simp [hc]

/-- A callable after its storage classes: with a type, with a tag, or with neither. -/
def anyCallee? (s : List Char) : Option Callable :=
  ((typedCallee? s).or (taggedCallee? s)).or (callee? none s)

theorem anyCallee?_append_of_mem {s : List Char} (h : '(' ∈ s) (t : List Char) :
    anyCallee? (s ++ t) = (anyCallee? s).map (Callable.extend t) := by
  simp only [anyCallee?, typedCallee?_append_of_mem h, taggedCallee?_append_of_mem h,
    callee?_append_of_mem none h, Option.map_or]

/-- The words that may stand before a function. -/
def storageClasses : List String := ["public", "stock", "static", "native", "forward"]

theorem isIdentifier_of_mem_storageClasses : ∀ w ∈ storageClasses, IsIdentifier w.toList := by decide

theorem spaceless_storageClasses : ∀ w ∈ storageClasses, ∀ c ∈ w.toList, isSpace c = false :=
  fun w hw => (isIdentifier_of_mem_storageClasses w hw).isSpace

theorem function?_eq (code : List Char) :
    function? code =
      (modifiers storageClasses (trimStart code)).findSome? fun m =>
        (anyCallee? m.2).map fun c => (m.1, c) :=
  rfl

/-- The heading of a function is the same whatever follows its parenthesis. -/
theorem function?_append_of_mem {s : List Char} (h : '(' ∈ s) (t : List Char) :
    function? (s ++ t) = (function? s).map fun (stored, c) => (stored, c.extend t) := by
  have hwords : ∀ w ∈ storageClasses, '(' ∉ w.toList := by decide
  have hmem : ∀ m ∈ modifiers storageClasses (trimStart s), '(' ∈ m.2 := fun m hm =>
    (leavesParen_of_mem_modifiers hwords _ false m hm).mem ((leavesParen_trimStart s).mem h)
  rw [function?_eq, function?_eq, trimStart_append_of_mem h,
    modifiers_append_of_mem hwords ((leavesParen_trimStart s).mem h)]
  generalize modifiers storageClasses (trimStart s) false = ms at hmem ⊢
  induction ms with
  | nil => rfl
  | cons m ms ih =>
      rw [List.forall_mem_cons] at hmem
      rw [List.map_cons, List.findSome?_cons, List.findSome?_cons,
        anyCallee?_append_of_mem hmem.1]
      cases anyCallee? m.2 with
      | none => exact ih hmem.2
      | some c => rfl

theorem enum?_append_of_mem {s : List Char} (h : '(' ∈ s) (henum : enum? s = none)
    (t : List Char) : enum? (s ++ t) = none := by
  have htrim := (leavesParen_trimStart s).mem h
  have hword : '(' ∉ "enum".toList := by decide
  cases hliteral : literal? "enum" (trimStart s) with
  | none =>
      simp [enum?, trimStart_append_of_mem h, literal?_append_of_mem hword htrim, hliteral]
  | some rest =>
      obtain ⟨c, tail, rfl⟩ := List.exists_cons_of_ne_nil
        (List.ne_nil_of_mem ((leavesParen_of_literal? hword hliteral).mem htrim))
      have hc : isWord c = true := by
        by_contra hc
        simp only [enum?, hliteral, Option.bind_eq_bind, Option.bind_some, List.head?_cons,
          Option.map_some, Option.getD_some, hc] at henum
        rw [if_false] at henum
        split at henum
        · cases henum
        · cases henum
      simp [enum?, trimStart_append_of_mem h, literal?_append_of_mem hword htrim, hliteral, hc]

/-! ## Where the parameters start -/

/-- A text whose first parenthesis is where another starts. -/
def StartsParen (s tail : List Char) : Prop := LeavesParen s tail ∧ tail.head? = some '('

theorem StartsParen.dropWhile_eq {s tail : List Char} (h : StartsParen s tail) (t : List Char) :
    (s ++ t).dropWhile (· != '(') = tail ++ t := by
  obtain ⟨⟨front, rfl, hfront⟩, hhead⟩ := h
  obtain ⟨inner, rfl⟩ := List.head?_eq_some_iff.mp hhead
  rw [List.append_assoc, List.dropWhile_append_of_pos]
  · rfl
  · intro c hc
    rw [bne_iff_ne]
    rintro rfl
    exact hfront hc

theorem startsParen_of_callee? {returnType : Option (List Char)} {s : List Char} {c : Callable}
    (h : callee? returnType s = some c) : StartsParen s c.tail := by
  obtain ⟨⟨name, rest⟩, hname, hrest⟩ := Option.bind_eq_some_iff.mp h
  obtain ⟨inner, hmark, hc⟩ := Option.bind_eq_some_iff.mp hrest
  cases hc
  obtain ⟨a, ha, hinner⟩ := (mark?_eq_some_iff (by decide)).mp hmark
  exact ⟨(leavesParen_of_name? hname).trans ⟨a, hinner, notMem_of_isBlank ha (by decide)⟩, rfl⟩

theorem startsParen_of_anyCallee? {s : List Char} {c : Callable} (h : anyCallee? s = some c) :
    StartsParen s c.tail := by
  rw [anyCallee?, Option.or_eq_some_iff, Option.or_eq_some_iff] at h
  rcases h with (htyped | ⟨-, htagged⟩) | ⟨-, hbare⟩
  · obtain ⟨⟨type, rest⟩, htype, hrest⟩ := Option.bind_eq_some_iff.mp htyped
    obtain ⟨name, hspaces, hcallee⟩ := Option.bind_eq_some_iff.mp hrest
    obtain ⟨htail, hhead⟩ := startsParen_of_callee? hcallee
    exact ⟨((leavesParen_of_type? htype).trans (leavesParen_of_spaces? hspaces)).trans htail, hhead⟩
  · obtain ⟨⟨tag, rest⟩, hname, hrest⟩ := Option.bind_eq_some_iff.mp htagged
    simp only at hrest
    split at hrest
    · rename_i rest'
      obtain ⟨htail, hhead⟩ := startsParen_of_callee? hrest
      have hcolon : LeavesParen (':' :: rest') rest' := ⟨[':'], rfl, by decide⟩
      exact ⟨((leavesParen_of_name? hname).trans hcolon).trans htail, hhead⟩
    · cases hrest
  · exact startsParen_of_callee? hbare

theorem startsParen_of_function? {code : List Char} {stored : Bool} {c : Callable}
    (h : function? code = some (stored, c)) : StartsParen code c.tail := by
  have hwords : ∀ w ∈ storageClasses, '(' ∉ w.toList := by decide
  rw [function?_eq] at h
  obtain ⟨m, hm, hcallee⟩ := List.exists_of_findSome?_eq_some h
  obtain ⟨callee, hcallee, hpair⟩ := Option.map_eq_some_iff.mp hcallee
  cases hpair
  obtain ⟨htail, hhead⟩ := startsParen_of_anyCallee? hcallee
  have hcode := (leavesParen_trimStart code).trans (leavesParen_of_mem_modifiers hwords _ _ m hm)
  exact ⟨hcode.trans htail, hhead⟩

theorem paren_mem_of_function? {code : List Char} {stored : Bool} {c : Callable}
    (h : function? code = some (stored, c)) : '(' ∈ code := by
  obtain ⟨⟨front, hcode, -⟩, hhead⟩ := startsParen_of_function? h
  rw [hcode]
  exact List.mem_append_right front (List.mem_of_mem_head? hhead)

/-! ## The first word of a line -/

theorem eq_of_word? {w : String} (hw : ∀ c ∈ w.toList, isSpace c = false) {word rest after : List Char}
    (hword : ∀ c ∈ word, isSpace c = false) {c : Char} (hc : isSpace c = true)
    (h : word? w (word ++ c :: rest) = some after) : w.toList = word := by
  obtain ⟨u, hu, hafter⟩ := Option.bind_eq_some_iff.mp h
  obtain ⟨d, tail, rfl, hd, -⟩ := eq_cons_of_spaces? hafter
  -- Both are what comes before the first white space.
  have htake : ∀ {x : List Char} {e : Char} {y : List Char}, (∀ a ∈ x, isSpace a = false) →
      isSpace e = true → (x ++ e :: y).takeWhile (!isSpace ·) = x := by
    intro x e y hx he
    apply takeWhile_append_eq_left
    · simpa using hx
    · simpa using he
  have heq := congrArg (List.takeWhile (!isSpace ·)) (after?_eq_some_iff.mp hu)
  rw [htake hword hc, htake hw hd] at heq
  exact heq.symm

theorem oneOf?_eq_none {words : List String}
    (hwords : ∀ w ∈ words, ∀ c ∈ w.toList, isSpace c = false) {word rest : List Char}
    (hword : ∀ c ∈ word, isSpace c = false) (hother : ∀ w ∈ words, w.toList ≠ word) {c : Char}
    (hc : isSpace c = true) : oneOf? words (word ++ c :: rest) = none := by
  rw [oneOf?, List.findSome?_eq_none_iff]
  intro w hw
  rw [Option.eq_none_iff_forall_ne_some]
  intro after hafter
  exact hother w hw (eq_of_word? (hwords w hw) hword hc hafter)

theorem word?_append_cons (w : String) {c : Char} (hc : isSpace c = true) (rest : List Char) :
    word? w (w.toList ++ c :: rest) = some (trimStart rest) := by
  have hliteral : literal? w (w.toList ++ c :: rest) = some (c :: rest) :=
    after?_eq_some_iff.mpr rfl
  simp [word?, hliteral, spaces?, hc]

theorem oneOf?_append_cons {words : List String}
    (hwords : ∀ w ∈ words, ∀ c ∈ w.toList, isSpace c = false) {w : String} (hw : w ∈ words)
    {c : Char} (hc : isSpace c = true) (rest : List Char) :
    oneOf? words (w.toList ++ c :: rest) = some (trimStart rest) := by
  cases hone : oneOf? words (w.toList ++ c :: rest) with
  | none =>
      have hnone := List.findSome?_eq_none_iff.mp hone w hw
      rw [word?_append_cons w hc] at hnone
      cases hnone
  | some after =>
      obtain ⟨v, hv, hafter⟩ := List.exists_of_findSome?_eq_some hone
      have hvw := eq_of_word? (hwords v hv) (hwords w hw) hc hafter
      rw [← hvw, word?_append_cons v hc] at hafter
      exact hafter.symm

theorem isNameStart_of_anyCallee? {s : List Char} {c : Callable} (h : anyCallee? s = some c) :
    ∃ d ∈ s.head?, isNameStart d = true := by
  cases hname : name? s with
  | some parts => exact isNameStart_of_name? hname
  | none => simp [anyCallee?, typedCallee?, taggedCallee?, callee?, type?, hname] at h

theorem isNameStart_of_function? {code : List Char} {stored : Bool} {c : Callable}
    (h : function? code = some (stored, c)) :
    ∃ d ∈ (trimStart code).head?, isNameStart d = true := by
  rw [function?_eq] at h
  obtain ⟨m, hm, hcallee⟩ := List.exists_of_findSome?_eq_some h
  obtain ⟨callee, hcallee, -⟩ := Option.map_eq_some_iff.mp hcallee
  cases hone : oneOf? storageClasses (trimStart code) with
  | none =>
      rw [modifiers_of_none hone, List.mem_singleton] at hm
      rw [hm] at hcallee
      exact isNameStart_of_anyCallee? hcallee
  | some rest =>
      obtain ⟨w, hw, hrest⟩ := List.exists_of_findSome?_eq_some hone
      obtain ⟨u, hu, -⟩ := Option.bind_eq_some_iff.mp hrest
      obtain ⟨d, tail, hd, hname, -⟩ := isIdentifier_of_mem_storageClasses w hw
      refine ⟨d, ?_, hname⟩
      rw [after?_eq_some_iff.mp hu, hd]
      rfl

/-- A name that white space and another name follow is read as a type. -/
theorem anyCallee?_of_name {word tail : List Char} (hword : IsIdentifier word) {c : Char}
    (hc : isSpace c = true) {d : Char} (hd : d ∈ (trimStart tail).head?)
    (hstart : isNameStart d = true) :
    anyCallee? (word ++ c :: tail) = callee? (some word) (trimStart tail) := by
  have hname := name?_append_cons hword (isWord_of_isSpace hc) tail
  obtain ⟨rest, htail⟩ := List.head?_eq_some_iff.mp hd
  have htrim : trimStart (c :: tail) = d :: rest := by simpa [trimStart, hc] using htail
  have hne : ∀ e, isNameStart e = false → d ≠ e := by
    rintro e he rfl
    rw [hstart] at he
    cases he
  have hbrackets : emptyBrackets? (c :: tail) = none := by
    have hbracket : d ≠ '[' := hne '[' (by decide)
    simp [emptyBrackets?, htrim, hbracket]
  have htyped : typedCallee? (word ++ c :: tail) = callee? (some word) (trimStart tail) := by
    simp [typedCallee?, type?, hname, hbrackets, spaces?, hc]
  have htagged : taggedCallee? (word ++ c :: tail) = none := by
    have hcolon : c ≠ ':' := by
      rintro rfl
      exact absurd hc (by decide)
    simp [taggedCallee?, hname, hcolon]
  have hbare : callee? none (word ++ c :: tail) = none := by
    have hparen : d ≠ '(' := hne '(' (by decide)
    simp [callee?, hname, mark?, htrim, hparen]
  rw [anyCallee?, htyped, htagged, hbare, Option.or_none, Option.or_none]

theorem returnType_of_callee? {returnType : Option (List Char)} {s : List Char} {c : Callable}
    (h : callee? returnType s = some c) : c.returnType = returnType := by
  obtain ⟨parts, -, hparts⟩ := Option.bind_eq_some_iff.mp h
  obtain ⟨inner, -, hinner⟩ := Option.bind_eq_some_iff.mp hparts
  cases hinner
  rfl

/-- The words that a name follows in declarations of other kinds. -/
def otherWords : List String := ["methodmap", "typedef", "typeset", "funcenum", "functag"]

/-- A declaration of a function does not start like one of another kind. -/
theorem isDeclared_eq_false_of_word? {w : String} {code after : List Char} (hw : w ∈ otherWords)
    (hword : word? w (trimStart code) = some after) {d : Char} (hd : d ∈ after.head?)
    (hstart : isNameStart d = true) {stored : Bool} {c : Callable}
    (h : function? code = some (stored, c)) : Scan.isDeclared stored c = false := by
  have hident : ∀ w ∈ otherWords, IsIdentifier w.toList := by decide
  have hother : ∀ w ∈ otherWords, ∀ v ∈ storageClasses, v.toList ≠ w.toList := by decide
  have hkeyword : ∀ w ∈ otherWords,
      isKeyword (w.toList.reverse.dropWhile (· == ':')).reverse = true := by decide
  obtain ⟨u, hu, hafter⟩ := Option.bind_eq_some_iff.mp hword
  obtain ⟨space, tail, rfl, hc, rfl⟩ := eq_cons_of_spaces? hafter
  have hnone : oneOf? storageClasses (w.toList ++ space :: tail) = none :=
    oneOf?_eq_none spaceless_storageClasses (hident w hw).isSpace (hother w hw) hc
  rw [function?_eq, after?_eq_some_iff.mp hu, modifiers_of_none hnone,
    List.findSome?_singleton] at h
  obtain ⟨callee, hcallee, hpair⟩ := Option.map_eq_some_iff.mp h
  rw [anyCallee?_of_name (hident w hw) hc hd hstart] at hcallee
  cases hpair
  simp [Scan.isDeclared, returnType_of_callee? hcallee, hkeyword w hw]

/-! ## Declarations of functions -/

/-- A line of code with the heading of a function, which has a storage class or a type and no
keyword for its name or its type, and which is not taken for the start of an enumeration. -/
structure IsFunctionLine (code : List Char) (stored : Bool) (c : Callable) : Prop where
  heading : function? code = some (stored, c)
  declared : Scan.isDeclared stored c = true
  notEnum : enum? code = none

/-- Such a line declares a function and nothing else. -/
theorem IsFunctionLine.topLevel_eq {code : List Char} {stored : Bool} {c : Callable}
    (h : IsFunctionLine code stored c) (line : Nat) (doc : Option String) :
    topLevel line code code doc =
      (some (.header (Scan.headerOf c line .function none doc)), none) := by
  obtain ⟨d, hd, hstart⟩ := isNameStart_of_function? h.heading
  obtain ⟨rest, hrest⟩ := List.head?_eq_some_iff.mp hd
  have hhash : d ≠ '#' := by
    rintro rfl
    exact absurd hstart (by decide)
  have hdefine : define? code = none := by simp [define?, mark?, hrest, hhash]
  have hother : ∀ w ∈ otherWords, ∀ after, word? w (trimStart code) = some after →
      name? after = none := by
    intro w hw after hafter
    by_contra hsome
    obtain ⟨parts, hparts⟩ := Option.ne_none_iff_exists'.mp hsome
    obtain ⟨e, he, hename⟩ := isNameStart_of_name? hparts
    have hdeclared := h.declared
    rw [isDeclared_eq_false_of_word? hw hafter he hename h.heading] at hdeclared
    cases hdeclared
  have hmethodmap : methodmap? code = none := by
    cases hword : word? "methodmap" (trimStart code) with
    | none => simp [methodmap?, hword]
    | some after => simp [methodmap?, hword, hother "methodmap" (by decide) after hword]
  have htypedef : typedef? code = none := by
    cases hword : oneOf? ["typedef", "typeset", "funcenum", "functag"] (trimStart code) with
    | none => simp [typedef?, hword]
    | some after =>
        obtain ⟨w, hw, hafter⟩ := List.exists_of_findSome?_eq_some hword
        have hname := hother w (List.mem_cons_of_mem _ hw) after hafter
        simp [typedef?, hword, hname]
  have hcallable : callableOrGlobal? line code doc =
      some (.header (Scan.headerOf c line .function none doc)) := by
    simp [callableOrGlobal?, h.heading, Option.filter, h.declared]
  simp [topLevel, hdefine, hrest, hhash, hmethodmap, h.notEnum, htypedef, hcallable]

/-- No reader of headings looks beyond the parenthesis, so more text makes no difference. -/
theorem IsFunctionLine.append {code : List Char} {stored : Bool} {c : Callable}
    (h : IsFunctionLine code stored c) (t : List Char) :
    IsFunctionLine (code ++ t) stored (c.extend t) := by
  have hmem := paren_mem_of_function? h.heading
  refine ⟨?_, h.declared, enum?_append_of_mem hmem h.notEnum t⟩
  rw [function?_append_of_mem hmem, h.heading]
  rfl

/-- A type, a name and what comes from the parenthesis on. -/
def typedHeading (type name inner : List Char) : List Char := type ++ ' ' :: (name ++ '(' :: inner)

theorem notMem_typedHeading {type name inner : List Char} (htype : IsIdentifier type)
    (hname : IsIdentifier name) {c : Char} (hc : isWord c = false) (hother : c ∉ [' ', '('])
    (hinner : c ∉ inner) : c ∉ typedHeading type name inner := by
  simp only [typedHeading, List.mem_append, List.mem_cons, List.not_mem_nil, or_false,
    not_or] at hother ⊢
  exact ⟨htype.notMem hc, hother.1, hname.notMem hc, hother.2, hinner⟩

theorem anyCallee?_typedHeading {type name : List Char} (htype : IsIdentifier type)
    (hname : IsIdentifier name) (inner : List Char) :
    anyCallee? (typedHeading type name inner) = some ⟨some type, name, '(' :: inner⟩ := by
  have htrim := hname.trimStart_append ('(' :: inner)
  have hcallee : callee? (some type) (name ++ '(' :: inner) =
      some ⟨some type, name, '(' :: inner⟩ := by
    simp [callee?, name?_append_cons hname (by decide : isWord '(' = false), mark?,
      trimStart_cons (by decide : isSpace '(' = false)]
  obtain ⟨c, tail, rfl, hc, -⟩ := hname
  have hhead : c ∈ (trimStart (c :: tail ++ '(' :: inner)).head? := by
    rw [htrim]
    rfl
  rw [typedHeading, anyCallee?_of_name htype (by decide) hhead hc, htrim, hcallee]

theorem modifiers_typedHeading {type : List Char} (htype : IsIdentifier type)
    (hkeyword : isKeyword type = false) (name inner : List Char) (read : Bool) :
    modifiers storageClasses (typedHeading type name inner) read =
      [(read, typedHeading type name inner)] := by
  apply modifiers_of_none
  apply oneOf?_eq_none spaceless_storageClasses htype.isSpace ?_ (by decide)
  rintro w hw rfl
  have hclass : ∀ w ∈ storageClasses, isKeyword w.toList = true := by decide
  rw [hclass w hw] at hkeyword
  cases hkeyword

theorem function?_typedHeading {type name : List Char} (htype : IsIdentifier type)
    (hkeyword : isKeyword type = false) (hname : IsIdentifier name) (inner : List Char) :
    function? (typedHeading type name inner) =
      some (false, ⟨some type, name, '(' :: inner⟩) := by
  have htrim : trimStart (typedHeading type name inner) = typedHeading type name inner :=
    htype.trimStart_append _
  rw [function?_eq, htrim, modifiers_typedHeading htype hkeyword, List.findSome?_singleton,
    anyCallee?_typedHeading htype hname]
  rfl

theorem function?_stored {w : String} (hw : w ∈ storageClasses) {type name : List Char}
    (htype : IsIdentifier type) (hkeyword : isKeyword type = false) (hname : IsIdentifier name)
    (inner : List Char) :
    function? (w.toList ++ ' ' :: typedHeading type name inner) =
      some (true, ⟨some type, name, '(' :: inner⟩) := by
  have hident := isIdentifier_of_mem_storageClasses
  have htrim : trimStart (typedHeading type name inner) = typedHeading type name inner :=
    htype.trimStart_append _
  have hone := oneOf?_append_cons spaceless_storageClasses hw (by decide : isSpace ' ' = true)
    (typedHeading type name inner)
  rw [htrim] at hone
  rw [function?_eq, (hident w hw).trimStart_append, modifiers_of_some hone,
    modifiers_typedHeading htype hkeyword, List.singleton_append, List.findSome?_cons,
    anyCallee?_typedHeading htype hname]
  rfl

theorem isDeclared_typed {type name inner : List Char} (hident : IsIdentifier type)
    (htype : isKeyword type = false) (hname : isKeyword name = false) (stored : Bool) :
    Scan.isDeclared stored ⟨some type, name, inner⟩ = true := by
  have hcolon : type.reverse.dropWhile (· == ':') = type.reverse := by
    cases hreverse : type.reverse with
    | nil => rfl
    | cons c rest =>
        have hc : c ∈ type := List.mem_reverse.mp (hreverse ▸ List.mem_cons_self)
        have hne : c ≠ ':' := by
          rintro rfl
          exact hident.notMem (by decide) hc
        simp [hne]
  simp [Scan.isDeclared, htype, hname, hcolon]

theorem isFunctionLine_stock {type name : List Char} (htype : IsIdentifier type)
    (htypeKeyword : isKeyword type = false) (hname : IsIdentifier name)
    (hnameKeyword : isKeyword name = false) (inner : List Char) :
    IsFunctionLine ("stock".toList ++ ' ' :: typedHeading type name inner) true
      ⟨some type, name, '(' :: inner⟩ :=
  ⟨function?_stored (by decide) htype htypeKeyword hname inner,
    isDeclared_typed htype htypeKeyword hnameKeyword true, rfl⟩

end PawnScope.Source
