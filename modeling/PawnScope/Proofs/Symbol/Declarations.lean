import PawnScope.Symbol.Table
import Mathlib.Data.Finset.Card
import Mathlib.Data.List.Induction

/-! # Declarations of a file

A table takes in the declarations of a file one after another. A name has its place from its first
declaration and its content from its last, and looking it up gives this content. -/

namespace PawnScope

namespace Catalog

variable {κ α : Type} [DecidableEq κ]

/-! ## Catalogs of pairs -/

theorem ofList_concat (es : List (κ × α)) (e : κ × α) :
    ofList (es ++ [e]) = (ofList es).insert e.1 e.2 := by
  simp [ofList]

/-- Of the pairs with a key, the last one wins. -/
theorem get?_ofList (es : List (κ × α)) (k : κ) :
    (ofList es).get? k = (es.filter fun e => e.1 = k).getLast?.map Prod.snd := by
  induction es using List.reverseRecOn with
  | nil => rfl
  | append_singleton es e ih =>
      rw [ofList_concat, get?_insert, List.filter_append]
      by_cases h : e.1 = k
      · simp [h]
      · simp [h, ih]

/-- A key has the place of the first pair with it. -/
theorem keys_ofList (es : List (κ × α)) : (ofList es).keys = (es.map Prod.fst).eraseDups := by
  induction es using List.reverseRecOn with
  | nil => rfl
  | append_singleton es e ih =>
      rw [ofList_concat, keys_insert, ih, List.map_append, List.eraseDups_append]
      by_cases h : e.1 ∈ es.map Prod.fst
      · simp [List.mem_eraseDups, List.removeAll, h]
      · simp [List.mem_eraseDups, List.removeAll, List.eraseDups_cons, h]

theorem map_some_values (m : Catalog κ α) : m.values.map some = m.keys.map m.get? := by
  rw [values, keys, List.map_map, List.map_map]
  apply List.map_congr_left
  intro e he
  exact (mem_entries_iff.mp he).symm

end Catalog

namespace SymbolTable

/-! ## Tables -/

/-- The last of some symbols with a given name. -/
def lastNamed? (symbols : List Symbol) (name : String) : Option Symbol :=
  (symbols.filter (·.name = name)).getLast?

/-- Every symbol of a table stands under its own name. -/
def Named (t : SymbolTable) : Prop :=
  ∀ name s, t.symbol? name = some s → s.name = name

variable (l : Location) (symbols : List Symbol) (includes : List Edge)

theorem symbol?_ofSymbols (name : String) :
    (ofSymbols l symbols includes).symbol? name = lastNamed? symbols name := by
  rw [symbol?, ofSymbols, Catalog.get?_ofList, lastNamed?, List.filter_map]
  simp [Function.comp_def, Option.map_map]

theorem named_ofSymbols : Named (ofSymbols l symbols includes) := by
  intro name s hs
  rw [symbol?_ofSymbols, lastNamed?] at hs
  have hmem := List.mem_of_getLast? hs
  simpa using (List.mem_filter.mp hmem).2

theorem keys_ofSymbols :
    (ofSymbols l symbols includes).symbols.keys = (symbols.map (·.name)).eraseDups := by
  rw [ofSymbols, Catalog.keys_ofList, List.map_map]
  rfl

theorem Named.map_name_toList {t : SymbolTable} (h : Named t) :
    t.toList.map (·.name) = t.symbols.keys := by
  rw [toList, Catalog.values, Catalog.keys, List.map_map]
  apply List.map_congr_left
  intro e he
  exact h e.1 e.2 (Catalog.mem_entries_iff.mp he)

/-- The symbols of a table have the distinct names of the declarations, in the order of first
occurrence, and each is the last declaration of its name. A name leads to its last declaration, and
to nothing if there is none, and the size is the number of distinct names. -/
theorem answers_ofSymbols :
    (ofSymbols l symbols includes).toList.map (·.name) = (symbols.map (·.name)).eraseDups ∧
      (ofSymbols l symbols includes).toList.map some =
        (symbols.map (·.name)).eraseDups.map (lastNamed? symbols) ∧
      (∀ name, (ofSymbols l symbols includes).symbol? name = lastNamed? symbols name) ∧
      (ofSymbols l symbols includes).size = (symbols.map (·.name)).toFinset.card := by
  have hkeys := keys_ofSymbols l symbols includes
  refine ⟨?_, ?_, symbol?_ofSymbols l symbols includes, ?_⟩
  · rw [(named_ofSymbols l symbols includes).map_name_toList, hkeys]
  · rw [toList, Catalog.map_some_values, hkeys]
    exact List.map_congr_left fun name _ => symbol?_ofSymbols l symbols includes name
  · -- The keys are the names, each once.
    have hnodup : (ofSymbols l symbols includes).symbols.keys.Nodup :=
      (ofSymbols l symbols includes).symbols.nodup
    have hnames : (ofSymbols l symbols includes).symbols.keys.toFinset =
        (symbols.map (·.name)).toFinset := by
      ext name
      rw [hkeys, List.mem_toFinset, List.mem_toFinset, List.mem_eraseDups]
    rw [← hnames, List.toFinset_card_of_nodup hnodup]
    exact (List.length_map _).symm

example : ((ofSymbols (.ofSegments ["a.sp"])
    [{ name := "A", kind := .variable, line := 0 }, { name := "B", kind := .variable, line := 1 },
      { name := "A", kind := .constant, line := 2 }] []).toList.map fun s => (s.name, s.line)) =
    [("A", 2), ("B", 1)] := by
  decide

end SymbolTable

end PawnScope
