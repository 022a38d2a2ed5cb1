import PawnScope.Index.Query
import PawnScope.Proofs.Symbol.Declarations
import PawnScope.Proofs.Visibility.Reachability

/-! # Looking up names

A name is looked for among the symbols of all visible files, one file after another. This finds what
the tables say: the declaration of the name in the first visible file that has one. Each table must
hold its symbols under their own names for this, as every table does that is made from declarations,
so that it holds in every index that comes about by edits. -/

namespace PawnScope

/-! ## One table -/

namespace SymbolTable.Named

variable {t : SymbolTable}

/-- Searching through a table for a name is looking the name up. -/
theorem find?_toList (h : Named t) (name : String) :
    t.toList.find? (·.name = name) = t.symbol? name := by
  have hsame : ∀ e ∈ t.symbols.entries, decide (e.2.name = name) = decide (e.1 = name) := by
    intro e he
    rw [h e.1 e.2 (Catalog.mem_entries_iff.mp he)]
  rw [toList, Catalog.values, List.find?_map, symbol?, Catalog.get?, ← List.head?_filter,
    ← List.head?_filter]
  congr 2
  exact List.filter_congr hsame

theorem mem_toList_iff (h : Named t) {s : Symbol} :
    s ∈ t.toList ↔ t.symbol? s.name = some s := by
  rw [toList, Catalog.mem_values_iff]
  constructor
  · rintro ⟨name, hs⟩
    rwa [h name s hs]
  · intro hs
    exact ⟨s.name, hs⟩

theorem nodup_toList (h : Named t) : t.toList.Nodup := by
  apply List.Nodup.of_map (·.name)
  rw [h.map_name_toList]
  exact t.symbols.nodup

end SymbolTable.Named

namespace Index

open Visibility

/-! ## Edits -/

/-- What changes an index. A table is put in only if it was made from declarations. -/
inductive Edit where
  | inserted (l : Location) (symbols : List Symbol) (edges : List Edge)
  | updated (l : Location) (symbols : List Symbol) (includes : List Include)
  | removed (l : Location)
  | registered (l : Location)
  | unregistered (l : Location)
  | configured (config : Config)

def edit (x : Index) (disk : Disk) : Edit → Index
  | .inserted l symbols edges => x.insert (SymbolTable.ofSymbols l symbols edges)
  | .updated l symbols includes => x.update l symbols ((x.resolveAll disk includes).map (·.2))
  | .removed l => x.remove l
  | .registered l => x.register l
  | .unregistered l => x.unregister l
  | .configured config => { x with config := config }

/-- The index after some edits, each on the disk as it was then. -/
def built (edits : List (Disk × Edit)) : Index := edits.foldl (fun x e => x.edit e.1 e.2) {}

/-- Every table holds its symbols under their own names. -/
def Named (x : Index) : Prop := ∀ l t, x.table? l = some t → t.Named

variable {x : Index}

theorem Named.insert (h : Named x) (l : Location) (symbols : List Symbol) (edges : List Edge) :
    Named (x.insert (SymbolTable.ofSymbols l symbols edges)) := by
  intro k t ht
  rw [table?, Index.insert, Catalog.get?_insert] at ht
  split at ht
  · obtain rfl := Option.some.inj ht
    exact SymbolTable.named_ofSymbols l symbols edges
  · exact h k t ht

theorem Named.remove (h : Named x) (l : Location) : Named (x.remove l) := by
  intro k t ht
  rw [table?, Index.remove, Catalog.get?_erase] at ht
  split at ht
  · cases ht
  · exact h k t ht

theorem Named.edit (h : Named x) (disk : Disk) (e : Edit) : Named (x.edit disk e) := by
  cases e with
  | inserted l symbols edges => exact h.insert l symbols edges
  | updated l symbols includes => exact h.insert l symbols _
  | removed l => exact h.remove l
  | registered l => exact h
  | unregistered l => exact h
  | configured config => exact h

theorem named_built (edits : List (Disk × Edit)) : Named (built edits) := by
  refine List.foldlRecOn edits _ ?_ fun _ h e _ => h.edit e.1 e.2
  intro l t ht
  cases ht

/-! ## Visible symbols -/

/-- The declaration of a name in the table of a file. -/
def declared? (x : Index) (name : String) (l : Location) : Option Symbol :=
  (x.table? l).bind (·.symbol? name)

/-- The declaration of a name in the first of some files that has one. -/
def firstDeclared? (x : Index) (seen : List Location) (name : String) : Option Symbol :=
  seen.findSome? (x.declared? name)

/-- The symbols of a file, none if it has no table. -/
def symbolsAt (x : Index) (l : Location) : List Symbol :=
  ((x.table? l).map SymbolTable.toList).getD []

/-- The symbols of some files, file by file, each with the location of its file. -/
def declarations (x : Index) (seen : List Location) : List (Location × Symbol) :=
  seen.flatMap fun l => (x.symbolsAt l).map (Prod.mk l)

theorem flatMap_toList_eq (x : Index) (seen : List Location) :
    (seen.filterMap x.table?).flatMap SymbolTable.toList = seen.flatMap x.symbolsAt := by
  induction seen with
  | nil => rfl
  | cons l seen ih =>
      rw [List.flatMap_cons, ← ih]
      cases h : x.table? l with
      | none => simp [symbolsAt, h]
      | some t => simp [symbolsAt, h]

theorem map_snd_declarations (x : Index) (seen : List Location) :
    (x.declarations seen).map Prod.snd = seen.flatMap x.symbolsAt := by
  simp [declarations, List.map_flatMap, Function.comp_def]

theorem nodup_of_visible {disk : Disk} {l : Location} {seen : List Location}
    (hseen : x.visible disk l = .ok seen) : seen.Nodup := by
  cases hmain : x.config.resolveMainPath disk with
  | error e =>
      rw [visible_of_error hmain] at hseen
      cases hseen
  | ok path =>
      obtain ⟨seen', hseen', hnodup, -⟩ := exists_visible_of_ok hmain l
      rw [hseen] at hseen'
      obtain rfl := Except.ok.inj hseen'
      exact hnodup

theorem symbols_of_visible {disk : Disk} {l : Location} {seen : List Location}
    (hseen : x.visible disk l = .ok seen) :
    x.symbols disk l = .ok ((x.declarations seen).map Prod.snd) := by
  rw [map_snd_declarations, ← flatMap_toList_eq]
  simp [symbols, hseen, bind, Except.bind, pure, Except.pure]

namespace Named

theorem find?_symbolsAt (h : Named x) (name : String) (l : Location) :
    (x.symbolsAt l).find? (·.name = name) = x.declared? name l := by
  cases ht : x.table? l with
  | none => simp [symbolsAt, declared?, ht]
  | some t => simpa [symbolsAt, declared?, ht] using (h l t ht).find?_toList name

theorem nodup_symbolsAt (h : Named x) (l : Location) : (x.symbolsAt l).Nodup := by
  cases ht : x.table? l with
  | none => simp [symbolsAt, ht]
  | some t => simpa [symbolsAt, ht] using (h l t ht).nodup_toList

theorem mem_symbolsAt_iff (h : Named x) {l : Location} {s : Symbol} :
    s ∈ x.symbolsAt l ↔ x.declared? s.name l = some s := by
  cases ht : x.table? l with
  | none => simp [symbolsAt, declared?, ht]
  | some t => simpa [symbolsAt, declared?, ht] using (h l t ht).mem_toList_iff

theorem mem_declarations_iff (h : Named x) {seen : List Location} {l : Location} {s : Symbol} :
    (l, s) ∈ x.declarations seen ↔ l ∈ seen ∧ x.declared? s.name l = some s := by
  rw [← h.mem_symbolsAt_iff]
  simp [declarations]

theorem nodup_declarations (h : Named x) {seen : List Location} (hseen : seen.Nodup) :
    (x.declarations seen).Nodup := by
  rw [declarations, List.nodup_flatMap]
  constructor
  · intro l _
    exact (h.nodup_symbolsAt l).map (Prod.mk_right_injective l)
  · refine hseen.imp ?_
    -- Symbols of two files differ in the location.
    intro l k hne p hl hk
    obtain ⟨s, -, rfl⟩ := List.mem_map.mp hl
    obtain ⟨s', -, hs⟩ := List.mem_map.mp hk
    exact hne (Prod.mk.inj hs).1.symm

theorem find_of_visible (h : Named x) {disk : Disk} {l : Location} {seen : List Location}
    (hseen : x.visible disk l = .ok seen) (name : String) :
    x.find disk l name = .ok (x.firstDeclared? seen name) := by
  have hsearch : (seen.flatMap x.symbolsAt).find? (·.name = name) =
      x.firstDeclared? seen name := by
    rw [List.find?_flatMap, firstDeclared?]
    congr 1
    funext k
    exact h.find?_symbolsAt name k
  rw [find, symbols_of_visible hseen, map_snd_declarations, ← hsearch]
  rfl

end Named

/-- What an index answers after any edits about a file that sees some files. A name leads to its
declaration in the first of these that declares it, and to nothing if none does; this declaration is
what is shown for the name, and what comes with the call around the cursor. The symbols on offer are
those of the tables, file by file in the order in which the files are seen, each once. -/
theorem answers_built (edits : List (Disk × Edit)) (disk : Disk) (l : Location)
    {seen : List Location} (hseen : (built edits).visible disk l = .ok seen) :
    (∀ name, (built edits).find disk l name = .ok ((built edits).firstDeclared? seen name)) ∧
      (∀ name, (built edits).hover disk l name =
        .ok (((built edits).firstDeclared? seen name).map Symbol.markdown)) ∧
      (∀ line column, (built edits).callHelp disk l line column =
        .ok ((Cursor.call? line column).elim {} fun call =>
          ⟨some call.name, call.activeParameter, (built edits).firstDeclared? seen call.name⟩)) ∧
      (built edits).symbols disk l = .ok (((built edits).declarations seen).map Prod.snd) ∧
      ((built edits).declarations seen).Nodup ∧
      ∀ k s, (k, s) ∈ (built edits).declarations seen ↔
        k ∈ seen ∧ (built edits).declared? s.name k = some s := by
  have hnamed := named_built edits
  have hfind := hnamed.find_of_visible hseen
  refine ⟨hfind, ?_, ?_, symbols_of_visible hseen, ?_, fun k s => hnamed.mem_declarations_iff⟩
  · intro name
    rw [hover, hfind]
    rfl
  · intro line column
    rw [callHelp]
    cases Cursor.call? line column with
    | none => rfl
    | some call =>
        simp only [hfind]
        rfl
  · exact hnamed.nodup_declarations (nodup_of_visible hseen)

/-- A plugin and a header that include each other and declare one name, the header twice. -/
def cyclicEdits : List (Disk × Edit) :=
  [(.blank [], .inserted (.ofSegments ["plugin.sp"])
      [{ name := "OnStart", kind := .function }, { name := "Limit", kind := .variable }]
      [⟨.ofSegments ["limits.inc"], false⟩]),
    (.blank [], .registered (.ofSegments ["plugin.sp"])),
    (.blank [], .updated (.ofSegments ["limits.inc"])
      [{ name := "Limit", kind := .constant }, { name := "Limit", kind := .constant, line := 1 }]
      [{ reference := "plugin.sp" }])]

theorem visible_cyclicEdits :
    (built cyclicEdits).visible (.blank []) (.ofSegments ["plugin.sp"]) =
      .ok [.ofSegments ["limits.inc"], .ofSegments ["plugin.sp"]] := by
  have hplugin : leads (built cyclicEdits).tables (.ofSegments ["plugin.sp"]) =
      [.ofSegments ["limits.inc"]] := by decide +kernel
  have hheader : leads (built cyclicEdits).tables (.ofSegments ["limits.inc"]) =
      [.ofSegments ["plugin.sp"]] := by decide +kernel
  have hwalk : walk (built cyclicEdits).tables [.ofSegments ["limits.inc"]] [] =
      [.ofSegments ["limits.inc"], .ofSegments ["plugin.sp"]] := by
    rw [walk_cons_of_notMem _ _ (by decide), hheader, List.singleton_append,
      walk_cons_of_notMem _ _ (by decide), hplugin, List.singleton_append,
      walk_cons_of_mem _ _ (by decide), walk_nil]
    rfl
  have hmain : (built cyclicEdits).config.resolveMainPath (.blank []) = .ok none := rfl
  rw [visible_of_ok hmain, Option.bind_none, extend, walkFrom_eq_walk, hplugin, hwalk]
  rfl

/-- The name is found in the header, which the walk meets first, with its last declaration there. -/
theorem answers_built_cyclic :
    (built cyclicEdits).visible (.blank []) (.ofSegments ["plugin.sp"]) =
        .ok [.ofSegments ["limits.inc"], .ofSegments ["plugin.sp"]] ∧
      (built cyclicEdits).find (.blank []) (.ofSegments ["plugin.sp"]) "Limit" =
        .ok (some { name := "Limit", kind := .constant, line := 1 }) ∧
      (built cyclicEdits).find (.blank []) (.ofSegments ["plugin.sp"]) "Missing" = .ok none ∧
      (built cyclicEdits).callHelp (.blank []) (.ofSegments ["plugin.sp"]) "Limit(1, ".toList 9 =
        .ok ⟨some "Limit", 1, some { name := "Limit", kind := .constant, line := 1 }⟩ ∧
      (built cyclicEdits).symbols (.blank []) (.ofSegments ["plugin.sp"]) =
        .ok [{ name := "Limit", kind := .constant, line := 1 },
          { name := "OnStart", kind := .function }, { name := "Limit", kind := .variable }] := by
  obtain ⟨hfind, -, hcall, hsymbols, -⟩ :=
    answers_built cyclicEdits (.blank []) (.ofSegments ["plugin.sp"]) visible_cyclicEdits
  have hlimit : (built cyclicEdits).firstDeclared?
      [.ofSegments ["limits.inc"], .ofSegments ["plugin.sp"]] "Limit" =
        some { name := "Limit", kind := .constant, line := 1 } := by decide +kernel
  have hmissing : (built cyclicEdits).firstDeclared?
      [.ofSegments ["limits.inc"], .ofSegments ["plugin.sp"]] "Missing" = none := by decide +kernel
  refine ⟨visible_cyclicEdits, ?_, ?_, ?_, ?_⟩
  · rw [hfind, hlimit]
  · rw [hfind, hmissing]
  · have hcursor : Cursor.call? "Limit(1, ".toList 9 = some ⟨"Limit", 1⟩ := by decide +kernel
    rw [hcall, hcursor, Option.elim_some, hlimit]
  · rw [hsymbols]
    decide +kernel

end Index

end PawnScope
