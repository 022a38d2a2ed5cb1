import PawnScope.Path
import PawnScope.Text.Percent

/-! # Locations

A location names a file, or whatever else an editor holds, by a URL in its normal form: the
scheme is in lower case, dot segments are gone, and characters that a part does not admit are
percent-encoded. -/

namespace PawnScope

/-- The part of a location between `//` and the path. The host is in its written form, and
empty if there is none; credentials include the sign that ends them. -/
structure Authority where
  credentials : String := ""
  host : String := ""
  port : Option Nat := none
  deriving DecidableEq, Repr, Inhabited

/-- A path is a list of segments, each of which a slash precedes, or a text without structure. -/
inductive LocationPath where
  | segments (segments : List String)
  | rootless (text : String)
  deriving DecidableEq, Repr, Inhabited

/-- A URL, part by part. -/
structure Location where
  scheme : String
  authority : Option Authority
  path : LocationPath
  query : Option String := none
  fragment : Option String := none
  deriving DecidableEq, Repr, Inhabited

namespace Location

/-- The path as it is written. A path that would be taken for an authority is written with a
dot segment in front. -/
def pathText (l : Location) : String :=
  match l.path with
  | .rootless text => text
  | .segments segments =>
      let text := String.join (segments.map ("/" ++ ·))
      match l.authority, segments with
      | none, "" :: _ :: _ => "/." ++ text
      | _, _ => text

def authorityText (l : Location) : String :=
  match l.authority with
  | none => ""
  | some a =>
      "//" ++ a.credentials ++ a.host ++
        match a.port with
        | none => ""
        | some port => ":" ++ port.repr

/-- The location as it is written. -/
def text (l : Location) : String :=
  l.scheme ++ ":" ++ l.authorityText ++ l.pathText ++
    (match l.query with
      | none => ""
      | some query => "?" ++ query) ++
    match l.fragment with
    | none => ""
    | some fragment => "#" ++ fragment

instance : ToString Location := ⟨text⟩

/-- Locations are listed in the order of their texts. -/
def precedes (l m : Location) : Bool := l.text ≤ m.text

/-- The segments of a path that has structure and is not empty. -/
def segments? (l : Location) : Option (List String) :=
  match l.path with
  | .segments [] => none
  | .segments segments => some segments
  | .rootless _ => none

/-- The characters that are percent-encoded in a segment that comes from a file name. -/
def segmentReserved : List Char :=
  [' ', '"', '<', '>', '\x60', '#', '?', '\x7b', '\x7d', '/', '%', '\\']

/-- The location of the file with the given segments. -/
def ofSegments (segments : List String) : Location where
  scheme := "file"
  authority := some {}
  path := .segments segments

/-- The name by which a segment stands for a component. -/
def segmentOf : Path.Component → Option String
  | .root => none
  | .current => none
  | .parent => some ".."
  | .name n => some (String.ofList (Text.percentOctets segmentReserved n))

/-- The location of the file that an absolute path names. Its `..` components are kept. -/
def ofPath? (p : Path) : Option Location :=
  if p.isAbsolute then
    match p.components.filterMap segmentOf with
    | [] => some (ofSegments [""])
    | segments => some (ofSegments segments)
  else none

/-- A path that ends in a letter and a colon or bar is taken for a drive and ends in a slash. -/
def endDrive (octets : List UInt8) : List UInt8 :=
  match octets.reverse with
  | mark :: letter :: _ :: _ =>
      if (Char.ofNat letter.toNat).isAlpha && (mark == 58 || mark == 124) then
        octets ++ [Path.slash]
      else octets
  | _ => octets

/-- The path of the file that a location names, whatever its scheme, unless it names a host
other than `localhost`. -/
def filePath? (l : Location) : Option Path := do
  let segments ← l.segments?
  let host := (l.authority.map (·.host)).getD ""
  if host = "" ∨ host = "localhost" then
    some ⟨endDrive (segments.flatMap fun s => Path.slash :: Text.percentDecode s.toList)⟩
  else none

end Location

end PawnScope
