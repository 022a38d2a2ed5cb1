import PawnScope.Json.Real
import PawnScope.Location.Reader
import PawnScope.Text.Quoted

/-! # Shapes of parameters

The parameters of a method have a shape: which fields they have and what these hold. Reading
parameters by their shape gives them in one form, or the reason why they do not have that shape.
Of several reasons it is the first in the order in which the parameters are written. -/

namespace PawnScope.Session

/-- The whole numbers from `low` to `high`, and how messages call them. -/
structure IntegerKind where
  name : String
  low : Int
  high : Int
  deriving DecidableEq, Repr

/-- What a JSON value has to be. Fields have a name, whether they may be left out at the end of a
list, and a shape. -/
inductive Shape where
  | anything
  | boolean
  | text
  | location
  | integer (kind : IntegerKind)
  | number
  /-- One of some words, given by itself or as the only key of an object, with nothing under it. -/
  | word (words : List String)
  | list (item : Shape)
  /-- A list of two. -/
  | pair (item : Shape)
  /-- Null, or as the shape says. -/
  | nullable (shape : Shape)
  /-- A flag in place of the value, or as the shape says. -/
  | orFlag (shape : Shape)
  /-- An object, or a list of the values of its fields in their order. -/
  | record (name : String) (fields : List (String × Bool × Shape))
  /-- An object whose fields have their shapes and whose other values have the shape `rest`. -/
  | object (name : String) (fields : List (String × Bool × Shape)) (rest : Shape)
  /-- An object with any keys, or with locations as keys. -/
  | table (located : Bool) (value : Shape)
  /-- An object whose shape depends on the word under a key. -/
  | tagged (key : String) (options : List (String × Shape))
  /-- The first of some shapes that the value has. -/
  | either (name : String) (options : List Shape)

/-- The name of a field, whether it may be left out at the end of a list, and its shape. -/
abbrev Field := String × Bool × Shape

/-- A value, or the reason why there is none. -/
abbrev Read (α : Type) := Except String α

/-! ## Reasons -/

/-- Names and numbers stand between marks. -/
def marked (s : String) : String := "\x60" ++ s ++ "\x60"

/-- How messages call a value. -/
def describe : Json → String
  | .null => "null"
  | .bool b => "boolean " ++ marked (if b then "true" else "false")
  | .int n => "integer " ++ marked n.repr
  | .real s => "floating point " ++ marked (((Json.Real.value? s.toList).map Json.Real.text).getD s)
  | .str s => "string " ++ Text.quoted s
  | .arr _ => "sequence"
  | .obj _ => "map"

/-- A value of the wrong type. -/
def wrongType {α : Type} (j : Json) (expected : String) : Read α :=
  .error ("invalid type: " ++ describe j ++ ", expected " ++ expected)

/-- A value of the right type that is not admitted. -/
def wrongValue {α : Type} (j : Json) (expected : String) : Read α :=
  .error ("invalid value: " ++ describe j ++ ", expected " ++ expected)

def wrongLength {α : Type} (length : Nat) (expected : String) : Read α :=
  .error ("invalid length " ++ length.repr ++ ", expected " ++ expected)

def missing {α : Type} (name : String) : Read α := .error ("missing field " ++ marked name)

/-- The words that are admitted. -/
def alternatives : List String → String
  | [] => "nothing"
  | [a] => marked a
  | [a, b] => marked a ++ " or " ++ marked b
  | words => "one of " ++ ", ".intercalate (words.map marked)

def unknownWord {α : Type} (word : String) (words : List String) : Read α :=
  .error ("unknown variant " ++ marked word ++ ", expected " ++ alternatives words)

def elements (name : String) (count : Nat) : String :=
  "struct " ++ name ++ " with " ++ count.repr ++ if count = 1 then " element" else " elements"

/-! ## Plain values -/

def readLocationText (s : String) : Read Location :=
  match Location.read s with
  | .ok l => .ok l
  | .error e => .error (e.message ++ ": " ++ Text.quoted s)

def readInteger (kind : IntegerKind) (j : Json) : Read Json :=
  match j with
  | .int n => if kind.low ≤ n ∧ n ≤ kind.high then .ok j else wrongValue j kind.name
  | _ => wrongType j kind.name

/-- A word stands for itself in either form. -/
def readWord (words : List String) (j : Json) : Read Json :=
  match j with
  | .str s => if words.contains s then .ok j else unknownWord s words
  | .obj [(key, v)] =>
      if words.contains key then if v.isNull then .ok (.str key) else wrongType v "unit"
      else unknownWord key words
  | .obj _ => wrongValue j "map with a single key"
  | _ => wrongType j "string or map"

/-! ## Reading -/

/-- Null may stand for the value. -/
def Shape.isNullable : Shape → Bool
  | .nullable _ => true
  | _ => false

/-- The fields that must be there and are not. -/
def missingField? (fields : List Field) (entries : List (String × Json)) : Option String :=
  (fields.find? fun (name, omissible, shape) =>
    !omissible && !shape.isNullable && !(entries.any (·.1 = name))).map (·.1)

/-- The entries of an object, unless a field is missing. -/
def complete (fields : List Field) (entries : List (String × Json)) : Read Json :=
  match missingField? fields entries with
  | some name => missing name
  | none => .ok (.obj entries)

mutual

/-- Reads a value by its shape: records become objects, and words stand by themselves. -/
def Shape.read : Shape → Json → Read Json
  | .anything, j => .ok j
  | .boolean, j =>
      match j with
      | .bool _ => .ok j
      | _ => wrongType j "a boolean"
  | .text, j =>
      match j with
      | .str _ => .ok j
      | _ => wrongType j "a string"
  | .location, j =>
      match j with
      | .str s => do
          let _ ← readLocationText s
          return j
      | _ => wrongType j "a string representing an URL"
  | .integer kind, j => readInteger kind j
  | .number, j =>
      match j with
      | .int _ => .ok j
      | .real _ => .ok j
      | _ => wrongType j "f32"
  | .word words, j => readWord words j
  | .list item, j =>
      match j with
      | .arr items => do return .arr (← items.mapM fun v => item.read v)
      | _ => wrongType j "a sequence"
  | .pair item, j =>
      match j with
      | .arr [a, b] => do return .arr [← item.read a, ← item.read b]
      | .arr items => wrongLength items.length "an array of length 2"
      | _ => wrongType j "an array of length 2"
  | .nullable shape, j => if j.isNull then .ok j else shape.read j
  | .orFlag shape, j =>
      match j with
      | .bool _ => .ok j
      | _ => shape.read j
  | .record name fields, j =>
      match j with
      | .obj entries => do
          let read ← entries.mapM fun (key, v) =>
            return (key, ← (readNamed? fields key v).getD (.ok v))
          complete fields read
      | .arr items => do
          let count := elements name fields.length
          return .obj (← readItems fields count items.length 0 items)
      | _ => wrongType j ("struct " ++ name)
  | .object name fields rest, j =>
      match j with
      | .obj entries => do
          let read ← entries.mapM fun (key, v) =>
            return (key, ← (readNamed? fields key v).getD (rest.read v))
          complete fields read
      | _ => wrongType j ("struct " ++ name)
  | .table located value, j =>
      match j with
      | .obj entries => do
          return .obj (← entries.mapM fun (key, v) => do
            if located then
              let _ ← readLocationText key
            return (key, ← value.read v))
      | _ => wrongType j "a map"
  | .tagged key options, j =>
      match j.field? key with
      | some (.str tag) => readTagged options tag j
      | _ => missing key
  | .either name options, j =>
      match readFirst? options j with
      | some v => .ok v
      | none => .error ("data did not match any variant of untagged enum " ++ name)

/-- Reads the value of a field by the field's shape, if there is such a field. -/
def readNamed? : List Field → String → Json → Option (Read Json)
  | [], _, _ => none
  | (name, _, shape) :: fields, key, j =>
      if name = key then some (shape.read j) else readNamed? fields key j

/-- Reads the items of a list as the values of fields, from the field at `index` on. -/
def readItems : List Field → String → Nat → Nat → List Json → Read (List (String × Json))
  | [], _, length, _, items =>
      if items.isEmpty then .ok [] else wrongLength length "fewer elements in array"
  | (name, omissible, shape) :: fields, count, length, index, items =>
      match items with
      | [] =>
          if omissible then readItems fields count length (index + 1) []
          else wrongLength index count
      | j :: items => do
          let v ← shape.read j
          return (name, v) :: (← readItems fields count length (index + 1) items)

def readTagged : List (String × Shape) → String → Json → Read Json
  | [], tag, _ => unknownWord tag []
  | (name, shape) :: options, tag, j =>
      if name = tag then shape.read j else readTagged options tag j

def readFirst? : List Shape → Json → Option Json
  | [], _ => none
  | shape :: options, j =>
      match shape.read j with
      | .ok v => some v
      | .error _ => readFirst? options j

end

/-! ## Fields -/

/-- A field that must be there. -/
def required (name : String) (shape : Shape) : Field := (name, false, shape)

/-- A field that may be missing or null. -/
def optional (name : String) (shape : Shape) : Field := (name, false, .nullable shape)

/-- A field that may be left out at the end of a list too. -/
def omissible (field : Field) : Field := (field.1, true, field.2.2)

/-- Fields that hold flags, all of which may be missing. -/
def flags (names : List String) : List Field :=
  names.map fun name => optional name .boolean

end PawnScope.Session
