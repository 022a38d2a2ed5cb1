import PawnScope.Config
import PawnScope.Json
import PawnScope.Text.Space

/-! # Settings

An editor sends settings as JSON, with a section for this tool. A section is taken as a whole or
not at all. -/

namespace PawnScope

/-- The settings of a section; an absent one changes nothing. -/
structure Settings where
  includeDirectories : Option (List String) := none
  mainPath : Option String := none
  implicitSourcemod : Option Bool := none
  deriving DecidableEq, Repr, Inhabited

namespace Settings

/-! ## Reading a section

A value of the wrong type makes the whole section unusable: a reader gives nothing for it, and
an absent setting for null. -/

def optional? {α : Type} (read : Json → Option α) : Json → Option (Option α)
  | .null => some none
  | v => (read v).map some

def bool? : Json → Option Bool
  | .bool b => some b
  | _ => none

def string? : Json → Option String
  | .str s => some s
  | _ => none

def strings? : Json → Option (List String)
  | .arr items => items.mapM string?
  | _ => none

/-- The names of the include directories, of which a section uses at most one. -/
def directoryKeys : List String := ["includeDirectories", "optionalIncludeDirsPaths"]

/-- The value under a key, where a key that is missing counts as null. -/
def fieldOrNull (fields : List (String × Json)) (key : String) : Json :=
  (fields.lookup key).getD .null

/-- Reads the three settings from their values. -/
def ofValues? (directories mainPath implicit : Json) : Option Settings := do
  return {
    includeDirectories := ← optional? strings? directories
    mainPath := ← optional? string? mainPath
    implicitSourcemod := ← optional? bool? implicit }

/-- A section is an object with known keys, others being ignored, or a list of the three values,
of which the last may be left out. -/
def ofSection? : Json → Option Settings
  | .obj fields =>
      match directoryKeys.filterMap (fun key => fields.lookup key) with
      | [] => ofFields fields .null
      | [directories] => ofFields fields directories
      | _ => none
  | .arr [] => ofValues? .null .null .null
  | .arr [a] => ofValues? a .null .null
  | .arr [a, b] => ofValues? a b .null
  | .arr [a, b, c] => ofValues? a b c
  | _ => none
where
  ofFields (fields : List (String × Json)) (directories : Json) : Option Settings :=
    ofValues? directories (fieldOrNull fields "mainPath")
      (fieldOrNull fields "implicitSourcemodInclude")

/-- The name of the section. -/
def sectionName : String := "sourcepawn"

/-- The settings of this tool among all that the editor sends. -/
def ofJson? (settings : Json) : Option Settings := do
  ofSection? (← settings.field? sectionName)

/-- Settings that come without the section's name are the section itself. -/
def wrap (options : Json) : Json :=
  if (options.field? sectionName).isSome then options else .obj [(sectionName, options)]

end Settings

namespace Config

/-- The include directories of a setting, without the blank ones. -/
def directoriesOf (c : Config) (names : List String) : List Path :=
  ((names.map fun s => Text.trim s.toList).filter (!·.isEmpty)).map
    fun s => c.absolutize ⟨Text.octets s⟩

/-- The configuration under new settings. A blank main path takes the main path away. -/
def update (c : Config) (s : Settings) : Config where
  includeDirectories := (s.includeDirectories.map c.directoriesOf).getD c.includeDirectories
  mainPath :=
    match s.mainPath with
    | none => c.mainPath
    | some path =>
        let path := Text.trim path.toList
        if path.isEmpty then none else some ⟨Text.octets path⟩
  workspaceRoots := c.workspaceRoots
  implicitSourcemod := s.implicitSourcemod.getD c.implicitSourcemod

/-- The configuration after the editor has sent settings, if they are usable. -/
def applySettings? (c : Config) (settings : Json) : Option Config :=
  (Settings.ofJson? settings).map c.update

end Config

end PawnScope
