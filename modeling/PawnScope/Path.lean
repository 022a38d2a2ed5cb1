import PawnScope.Text.Octets

/-! # File paths

A path is a sequence of octets in which slashes divide names, as on Linux. A backslash is an
ordinary octet. Paths are kept as written; their components are what counts when two paths are
compared or taken apart. -/

namespace PawnScope

/-- The name of a file or directory. -/
abbrev FileName := List UInt8

/-- A path as it is written. -/
structure Path where
  octets : List UInt8
  deriving DecidableEq, Repr, Inhabited

namespace Path

def slash : UInt8 := 47

def dot : FileName := [46]

def dotDot : FileName := [46, 46]

def ofString (s : String) : Path := ⟨Text.octets s.toList⟩

/-- The path as text, with replacement characters where it is no UTF-8. -/
def display (p : Path) : String := String.ofList (Text.ofOctetsLossy p.octets)

def isAbsolute (p : Path) : Bool := p.octets.head? == some slash

/-- What stands before, between and after the slashes. -/
def pieces (p : Path) : List FileName := p.octets.splitOn slash

/-- The steps that a path takes. -/
inductive Component where
  | root
  | current
  | parent
  | name (name : FileName)
  deriving DecidableEq, Repr

/-- The step of a piece other than a leading dot: empty pieces and inner dots take none. -/
def Component.ofPiece? (piece : FileName) : Option Component :=
  if piece = [] ∨ piece = dot then none
  else if piece = dotDot then some .parent
  else some (.name piece)

/-- The components of a path. Repeated slashes, a trailing slash and inner dots vanish; a dot
that starts a relative path stays. -/
def components (p : Path) : List Component :=
  if p.isAbsolute then .root :: p.pieces.filterMap Component.ofPiece?
  else
    match p.pieces with
    | [] => []
    | first :: rest =>
        (if first = dot then [.current] else (Component.ofPiece? first).toList) ++
          rest.filterMap Component.ofPiece?

/-- Two paths with the same components are the same path. -/
def same (p q : Path) : Bool := p.components = q.components

/-- A path read from inside another: an absolute path stands by itself. -/
def join (p q : Path) : Path :=
  if q.isAbsolute then q
  else if p.octets = [] ∨ p.octets.getLast? = some slash then ⟨p.octets ++ q.octets⟩
  else ⟨p.octets ++ slash :: q.octets⟩

/-- Takes one step lexically: a parent step undoes the name before it and is dropped where
there is none. The steps taken so far stand last first. -/
def takeStep (taken : List Component) : Component → List Component
  | .parent =>
      match taken with
      | .name _ :: earlier => earlier
      | _ => taken
  | .current => taken
  | c => c :: taken

/-- The steps that remain after each parent step has undone the name before it. -/
def resolvedSteps (steps : List Component) : List Component :=
  (steps.foldl takeStep []).reverse

/-- The names among some components. -/
def names (cs : List Component) : List FileName :=
  cs.filterMap fun
    | .name n => some n
    | _ => none

/-- The path that has the given names, from the root if `absolute`. -/
def ofNames (absolute : Bool) (ns : List FileName) : Path :=
  ⟨(if absolute then [slash] else []) ++ [slash].intercalate ns⟩

/-- The path with its `.` and `..` components resolved by their text alone, if anything is
left of it. -/
def normalize? (p : Path) : Option Path :=
  match resolvedSteps p.components with
  | [] => none
  | steps => some (ofNames (steps.head? = some .root) (names steps))

/-- The last component, if it is a name. -/
def fileName? (p : Path) : Option FileName :=
  match p.components.getLast? with
  | some (.name n) => some n
  | _ => none

/-- The part of the last component after its last dot, if something stands before that dot. -/
def extension? (p : Path) : Option FileName := do
  let n ← p.fileName?
  let tail := n.reverse.takeWhile (· != 46)
  if tail.length + 1 < n.length then some tail.reverse else none

end Path

end PawnScope
