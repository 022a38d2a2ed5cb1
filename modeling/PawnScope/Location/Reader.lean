import PawnScope.Location
import PawnScope.Location.Host

/-! # Reading locations

A location is read by the rules for URLs: white space and controls around it are dropped, tabs
and line breaks inside it are ignored, and every part is brought into its normal form. Text
without a scheme is no location. -/

namespace PawnScope.Location

open Text

/-! ## What is ignored -/

/-- A control or a blank, which is dropped at either end. -/
def isPadding (c : Char) : Bool := c.toNat ≤ 0x20

/-- A tab or a line break, which is ignored everywhere. -/
def isIgnored (c : Char) : Bool := c == '\t' || c == '\n' || c == '\r'

/-- The text without what is dropped at its ends. -/
def trimPadding (s : List Char) : List Char :=
  ((s.dropWhile isPadding).reverse.dropWhile isPadding).reverse

/-- The text without what is ignored in it. -/
def visible (s : List Char) : List Char := s.filter (!isIgnored ·)

/-- The first character that is not ignored, and the text after it. -/
def visibleHead? (s : List Char) : Option (Char × List Char) :=
  match s.dropWhile isIgnored with
  | [] => none
  | c :: rest => some (c, rest)

/-! ## Schemes -/

/-- How the rest of a location is read. -/
inductive SchemeKind where
  | file
  | web
  | other
  deriving DecidableEq, Repr

/-- The schemes that have an authority and a path by rule. -/
def webSchemes : List String := ["http", "https", "ws", "wss", "ftp"]

def SchemeKind.ofScheme (scheme : String) : SchemeKind :=
  if scheme = "file" then .file else if webSchemes.contains scheme then .web else .other

/-- The port that a scheme implies. -/
def defaultPort? (scheme : String) : Option Nat :=
  if scheme = "http" ∨ scheme = "ws" then some 80
  else if scheme = "https" ∨ scheme = "wss" then some 443
  else if scheme = "ftp" then some 21
  else none

/-- Schemes with known rules take a backslash for a slash. -/
def SchemeKind.isSpecial (kind : SchemeKind) : Bool := kind != .other

def SchemeKind.isSlash (kind : SchemeKind) (c : Char) : Bool :=
  c == '/' || (kind.isSpecial && c == '\\')

def isSchemeChar (c : Char) : Bool := c.isAlphanum || c == '+' || c == '-' || c == '.'

/-- The scheme in lower case and the text after its colon. -/
def scheme? (s : List Char) : Option (String × List Char) :=
  match s.dropWhile (· != ':') with
  | [] => none
  | _ :: rest =>
      let scheme := visible (s.takeWhile (· != ':'))
      if scheme.head?.any Char.isAlpha && scheme.all isSchemeChar then
        some (String.ofList (scheme.map Char.toLower), rest)
      else none

/-! ## Paths -/

/-- The characters that are percent-encoded in a path. -/
def pathReserved : List Char := [' ', '"', '<', '>', '\x60', '#', '?', '\x7b', '\x7d']

/-- The spellings of the segment that stays where it is. -/
def singleDots : List (List Char) := [".", "%2e", "%2E"].map String.toList

/-- The spellings of the segment that goes one level up. -/
def doubleDots : List (List Char) :=
  ["..", "%2e%2e", "%2e%2E", "%2E%2e", "%2E%2E", "%2e.", "%2E.", ".%2e", ".%2E"].map String.toList

/-- A letter and a colon or bar name a drive. -/
def isDrive : List Char → Bool
  | [letter, mark] => letter.isAlpha && (mark == ':' || mark == '|')
  | _ => false

/-- A segment that is a drive, or starts with one that a backslash ends, is never dropped. -/
def isAnchor (segment : List Char) : Bool := isDrive (segment.takeWhile (· != '\\'))

/-- The runs of a segment between the characters that are ignored, percent-encoded. -/
def segmentRuns (reserved : List Char) (s : List Char) : List (List Char) :=
  ((s.splitOnP isIgnored).filter (!·.isEmpty)).map (percentEncode reserved)

/-- A drive that an ignored character separates from what follows it. -/
def cutDrive? : List (List Char) → Option (List Char × List Char)
  | [letter, ':'] :: run :: rest =>
      if letter.isAlpha then some ([letter, ':'], (run :: rest).flatten) else none
  | [letter] :: [':'] :: run :: rest =>
      if letter.isAlpha then some ([letter, ':'], (run :: rest).flatten) else none
  | _ => none

/-- The segments after one more, and whether it was a drive at the root of a file's path. A
single dot adds nothing, and a double dot drops the last segment unless that is an anchor. When
dots are the last segment of a path, `last`, they leave an empty one behind. At the root of a
file's path, what an ignored character separates from a drive is a segment of its own, in which
dots have no meaning. -/
def addSegment (kind : SchemeKind) (done : List (List Char)) (runs : List (List Char))
    (last : Bool) : List (List Char) × Bool :=
  let segment := runs.flatten
  let ending := if last then [[]] else []
  match if kind = .file ∧ done = [] then cutDrive? runs else none with
  | some (drive, rest) => ([drive, rest], false)
  | none =>
      if doubleDots.contains segment then
        ((if done.getLast?.any isAnchor then done else done.dropLast) ++ ending, false)
      else if singleDots.contains segment then (done ++ ending, false)
      else if kind = .file ∧ done = [] ∧ isDrive segment then
        (done ++ [segment.take 1 ++ [':']], true)
      else (done ++ [segment], false)

/-- The segments of a path, which slashes divide, up to the query or the fragment. -/
def pathSegments (kind : SchemeKind) (s : List Char) : List (List Char) × Bool :=
  let raw := s.splitOnP kind.isSlash
  let runs := segmentRuns pathReserved
  let (done, drive) := raw.dropLast.foldl (fun (done, drive) segment =>
    let (done', drive') := addSegment kind done (runs segment) false
    (done', drive || drive')) ([], false)
  let (all, drive') := addSegment kind done (runs (raw.getLast?.getD [])) true
  (all, drive || drive')

/-- A file's path does not start with empty segments. -/
def dropLeadingEmpty : List (List Char) → List (List Char)
  | [] :: segment :: rest => dropLeadingEmpty (segment :: rest)
  | segments => segments

def toPath (segments : List (List Char)) : LocationPath := .segments (segments.map String.ofList)

/-! ## Authorities -/

/-- The characters that are percent-encoded in credentials. -/
def credentialsReserved : List Char :=
  pathReserved ++ ['/', ':', ';', '=', '@', '[', '\\', ']', '^', '|']

/-- Credentials in their normal form. A password that is empty is dropped with its colon. -/
def credentialsText (s : List Char) : List Char :=
  let encode := percentEncode credentialsReserved
  let user := s.takeWhile (· != ':')
  let password := (s.dropWhile (· != ':')).drop 1
  if password.isEmpty then if user.isEmpty then [] else encode user ++ ['@']
  else encode user ++ ':' :: encode password ++ ['@']

/-- The part of an authority before its last at sign, if it has one, and the part after it. -/
def cutCredentials (s : List Char) : Option (List Char) × List Char :=
  if s.contains '@' then
    let host := (s.reverse.takeWhile (· != '@')).reverse
    (some (s.take (s.length - host.length - 1)), host)
  else (none, s)

/-- The part of a host and port before the first colon outside brackets, and the rest. -/
def cutHost : Bool → List Char → List Char × List Char
  | _, [] => ([], [])
  | inside, c :: s =>
      if c = ':' ∧ ¬inside then ([], c :: s)
      else
        let (host, rest) := cutHost (if c = '[' then true else if c = ']' then false else inside) s
        (c :: host, rest)

/-- A port in decimal, absent if it is empty or the one that the scheme implies. -/
def readPort (scheme : String) (digits : List Char) : Except LocationError (Option Nat) :=
  if digits.isEmpty then .ok none
  else
    match Host.number? 10 digits with
    | none => .error .invalidPort
    | some port =>
        if 65535 < port then .error .invalidPort
        else .ok (if defaultPort? scheme = some port then none else some port)

/-- The host of an authority. -/
def readHost (kind : SchemeKind) (host : List Char) : Except LocationError String :=
  if kind.isSpecial then if host.isEmpty then .error .emptyHost else Host.read host
  else Host.readRaw host

/-- The digits of a port, and what follows them from a backslash on. In schemes with no known
rules the path may start there. -/
def cutPort (s : List Char) : List Char × List Char :=
  match s.dropWhile Char.isDigit with
  | '\\' :: rest => (s.takeWhile Char.isDigit, '\\' :: rest)
  | _ => (s, [])

/-- The authority that stands between `//` and the path, and the start of the path if that
follows the port directly. -/
def readAuthority (kind : SchemeKind) (scheme : String) (s : List Char) (atEnd : Bool) :
    Except LocationError (Authority × List Char) := do
  let (credentials, hostPort) := cutCredentials s
  if credentials = some [] ∧ hostPort = [] ∧ ¬atEnd then .error .emptyHost
  else
    let (hostText, portText) := cutHost false hostPort
    let host ← readHost kind hostText
    if host = "" ∧ portText ≠ [] then .error .emptyHost
    else
      let (digits, rest) := cutPort (portText.drop 1)
      let port ← readPort scheme digits
      let written := credentialsText (credentials.getD [])
      if host = "" ∧ written ≠ [] then .error .emptyHost
      else .ok (⟨String.ofList written, host, port⟩, rest)

/-! ## Queries and fragments -/

def queryReserved (kind : SchemeKind) : List Char :=
  [' ', '"', '#', '<', '>'] ++ if kind.isSpecial then ['\''] else []

def fragmentReserved : List Char := [' ', '"', '<', '>', '\x60']

/-- What a fragment sign or question mark starts, and the text before it. -/
structure Parts where
  hierarchy : List Char
  query : Option (List Char)
  fragment : Option (List Char)

/-- Divides the text after the scheme at its first `#`, and what precedes that at its first `?`. -/
def Parts.ofText (s : List Char) : Parts :=
  let front := s.takeWhile (· != '#')
  { hierarchy := front.takeWhile (· != '?')
    query := (front.dropWhile (· != '?')).tail?
    fragment := (s.dropWhile (· != '#')).tail? }

/-! ## Whole locations -/

/-- A location whose hierarchical part has been read. -/
def assemble (scheme : String) (kind : SchemeKind) (parts : Parts) (authority : Option Authority)
    (path : LocationPath) : Location where
  scheme := scheme
  authority := authority
  path := path
  query := parts.query.map fun q => String.ofList (percentEncode (queryReserved kind) (visible q))
  fragment := parts.fragment.map fun f => String.ofList (percentEncode fragmentReserved (visible f))

/-- The segments of a file's path. -/
def fileSegments (s : List Char) : List (List Char) × Bool :=
  let (segments, drive) := pathSegments .file s
  (dropLeadingEmpty segments, drive)

/-- The authority and path of a file after two slashes. They start a host, which `localhost` and
a drive stand for none; a path that starts with a drive drops the host. -/
def readFileHost (s : List Char) : Except LocationError (Authority × LocationPath) :=
  let isSlash := SchemeKind.isSlash .file
  let hostText := visible (s.takeWhile (!isSlash ·))
  if hostText.isEmpty || isDrive hostText then .ok ({}, toPath (fileSegments s).1)
  else do
    let host ← Host.read hostText
    let afterHost := s.dropWhile (!isSlash ·)
    if host = "localhost" then .ok ({}, toPath (fileSegments afterHost).1)
    else
      let (segments, drive) := fileSegments (afterHost.drop 1)
      .ok (⟨"", if drive then "" else host, none⟩, toPath segments)

/-- The authority and path of a file. -/
def readFile (s : List Char) : Except LocationError (Authority × LocationPath) :=
  let slash? := fun t => (visibleHead? t).filter fun (c, _) => SchemeKind.isSlash .file c
  match slash? s with
  | none => .ok ({}, toPath (fileSegments s).1)
  | some (_, afterOne) =>
      match slash? afterOne with
      | none => .ok ({}, toPath (fileSegments afterOne).1)
      | some (_, afterTwo) => readFileHost afterTwo

/-- An authority and the path after it. -/
def readWithAuthority (kind : SchemeKind) (scheme : String) (s : List Char) (atEnd : Bool) :
    Except LocationError (Authority × LocationPath) := do
  let authority := s.takeWhile (!kind.isSlash ·)
  let rest := s.dropWhile (!kind.isSlash ·)
  let (a, early) ← readAuthority kind scheme authority (atEnd && rest.isEmpty)
  let path :=
    if early.isEmpty then
      match rest with
      | [] => if kind.isSpecial then toPath [[]] else toPath []
      | _ :: afterSlash => toPath (pathSegments kind afterSlash).1
    else toPath (pathSegments kind (early ++ rest)).1
  .ok (a, path)

/-- The authority and path of a location that is no file. -/
def readHierarchy (kind : SchemeKind) (scheme : String) (s : List Char) (atEnd : Bool) :
    Except LocationError (Option Authority × LocationPath) :=
  match kind, s with
  | .other, '/' :: '/' :: rest => do
      let (authority, path) ← readWithAuthority kind scheme rest atEnd
      .ok (some authority, path)
  | .other, '/' :: rest => .ok (none, toPath (pathSegments kind rest).1)
  | .other, _ => .ok (none, .rootless (String.ofList (percentEncode [] s)))
  | _, _ => do
      let (authority, path) ← readWithAuthority kind scheme (s.dropWhile kind.isSlash) atEnd
      .ok (some authority, path)

/-- Reads a location. -/
def read (s : String) : Except LocationError Location :=
  match scheme? (trimPadding s.toList) with
  | none => .error .relative
  | some (scheme, rest) =>
      let kind := SchemeKind.ofScheme scheme
      let parts := Parts.ofText rest
      let atEnd := parts.query.isNone && parts.fragment.isNone
      if kind = .file then do
        let (authority, path) ← readFile parts.hierarchy
        .ok (assemble scheme kind parts (some authority) path)
      else do
        let (authority, path) ← readHierarchy kind scheme (visible parts.hierarchy) atEnd
        .ok (assemble scheme kind parts authority path)

end PawnScope.Location
