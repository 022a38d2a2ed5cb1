import PawnScope.Location.Reader
import PawnScope.Text.Space

/-! # Include references

What an include directive names: a relative path, usually without its extension. Either slash
divides its segments. -/

namespace PawnScope.Reference

open Text

def isSeparator (c : Char) : Bool := c == '/' || c == '\\'

/-- The text ends with `tail`. -/
def endsWith (s tail : List Char) : Bool := s.drop (s.length - tail.length) == tail

def hasExtension (s : List Char) : Bool := endsWith s ".sp".toList || endsWith s ".inc".toList

/-- The reference without white space at its end, and with the extension of a header unless it
has one of the two extensions of source files. -/
def inferExtension (s : List Char) : List Char :=
  let s := trimEnd s
  if hasExtension s then s else s ++ ".inc".toList

/-- What follows the last segment that is called `include` and has a separator after it. -/
def afterInclude? (s : List Char) : Option (List Char) :=
  match _h : s.dropWhile (!isSeparator ·) with
  | [] => none
  | _ :: rest =>
      (afterInclude? rest).or
        (if s.takeWhile (!isSeparator ·) = "include".toList then some rest else none)
termination_by s.length
decreasing_by
  have h := (List.dropWhile_suffix (!isSeparator ·) (l := s)).length_le
  rw [_h, List.length_cons] at h
  omega

/-- The reference without everything up to its last `include` segment. -/
def stripInclude (s : List Char) : List Char := (afterInclude? s).getD s

/-- The last segment. -/
def baseName (s : List Char) : List Char := (s.reverse.takeWhile (!isSeparator ·)).reverse

/-- The form in which references are looked up. -/
def normalize (s : List Char) : List Char := stripInclude (inferExtension s)

/-! ## Placeholders

An include that cannot be found still has a location: one in a directory of its own, which is no
directory of the disk. -/

/-- The directory of the placeholders. -/
def builtinNamespace : String := "__sourcemod_builtin"

/-- The segments after a segment of a reference. A segment is percent-encoded, without tabs and
line breaks; dots that come to light only then still count as dot segments. The path that is left
when all its segments are dropped is the root. -/
def appendSegment (segments : List (List Char)) (segment : List Char) : List (List Char) :=
  if segment = ['.'] ∨ segment = ['.', '.'] then segments
  else
    let done := if segments = [[]] then [] else segments
    let runs := Location.segmentRuns Location.segmentReserved segment
    Location.dropLeadingEmpty (Location.addSegment .file done runs true).1

/-- The placeholder of a reference. -/
def builtinLocation (s : List Char) : Location :=
  let segments := (s.splitOnP isSeparator).filter (!·.isEmpty)
  Location.ofSegments
    ((segments.foldl appendSegment [builtinNamespace.toList]).map String.ofList)

end PawnScope.Reference

namespace PawnScope

/-- A location in the directory of the placeholders. -/
def Location.isBuiltin (l : Location) : Bool :=
  l.scheme = "file" && (l.segments?.bind (·.head?)) = some Reference.builtinNamespace

end PawnScope
