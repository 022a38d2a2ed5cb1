/-! # JSON values

Settings and messages are JSON. A number keeps whether it is written as a whole number; an
object holds each of its keys once. -/

namespace PawnScope

/-- A JSON value. -/
inductive Json where
  | null
  | bool (value : Bool)
  /-- A whole number that 64 bits hold. -/
  | int (value : Int)
  /-- Any other number, as it is written. -/
  | real (text : String)
  | str (value : String)
  | arr (items : List Json)
  | obj (fields : List (String × Json))
  deriving Inhabited

namespace Json

/-- The value under a key of an object. -/
def field? (key : String) : Json → Option Json
  | obj fields => fields.lookup key
  | _ => none

def isNull : Json → Bool
  | null => true
  | _ => false

/-- The fields that are present, in the given order. -/
def ofFields (fields : List (String × Option Json)) : Json :=
  obj (fields.filterMap fun (key, value) => value.map fun v => (key, v))

def ofOption {α : Type} (f : α → Json) : Option α → Json
  | some a => f a
  | none => null

def nat (n : Nat) : Json := int n

end Json

end PawnScope
