import PawnScope.Json.Printer
import PawnScope.Json.Reader
import PawnScope.Session

/-! # Framed messages

On a stream, each message follows a header that tells its length in octets. Header lines end with
a line feed, before which a carriage return may stand, and an empty line ends the header. -/

namespace PawnScope.Frame

/-- A message with its header. -/
def write (j : Json) : String :=
  let body := j.text
  "Content-Length: " ++ body.utf8ByteSize.repr ++ "\r\n\r\n" ++ body

/-- What the start of a stream holds. -/
inductive Next where
  /-- The stream ends before the message does; `broken` if it ends inside a part of it. -/
  | partly (broken : Bool)
  /-- A message and the rest of the stream. -/
  | body (octets : List UInt8) (rest : List UInt8)
  /-- A header without a usable length. -/
  | garbage

/-- The text up to a line feed, without a carriage return before it, and what follows. -/
def cutLine (s : List UInt8) : Option (List UInt8 × List UInt8) :=
  match s.dropWhile (· != 10) with
  | [] => none
  | _ :: rest =>
      let line := s.takeWhile (· != 10)
      some (if line.getLast? = some 13 then line.dropLast else line, rest)

/-- A line takes at least its line feed from the stream. -/
theorem length_lt_of_cutLine {s line rest : List UInt8} (h : cutLine s = some (line, rest)) :
    rest.length < s.length := by
  have hs := (List.dropWhile_suffix (· != 10) (l := s)).length_le
  unfold cutLine at h
  cases hd : s.dropWhile (· != 10) with
  | nil =>
      rw [hd] at h
      nomatch h
  | cons b tail =>
      rw [hd] at h hs
      have ht : tail = rest := congrArg Prod.snd (Option.some.inj h)
      rw [← ht]
      exact hs

/-- The lines of a header, and what follows the empty line at its end. -/
def headerLines (s : List UInt8) : Option (List (List UInt8) × List UInt8) :=
  match _h : cutLine s with
  | none => none
  | some ([], rest) => some ([], rest)
  | some (line, rest) => (headerLines rest).map fun (lines, rest) => (line :: lines, rest)
termination_by s.length
decreasing_by exact length_lt_of_cutLine _h

/-! ## Headers -/

/-- A line of a header. -/
structure Entry where
  name : List Char
  value : List UInt8

/-- The characters of which names are made. -/
def isNameChar (c : Char) : Bool := c.isAlphanum || "!#$%&'*+-.^_\x60|~".toList.contains c

/-- The octets that values may hold: no controls but the tab. -/
def isValueOctet (b : UInt8) : Bool := (0x20 ≤ b && b != 0x7F) || b == 9

def isBlankOctet (b : UInt8) : Bool := b == 32 || b == 9

/-- A name, a colon and a value, of which blanks at the ends do not count. -/
def Entry.ofLine? (line : List UInt8) : Option Entry :=
  let name := (line.takeWhile (· != 58)).map fun b => Char.ofNat b.toNat
  match line.dropWhile (· != 58) with
  | [] => none
  | _ :: rest =>
      if !name.isEmpty && name.all isNameChar && rest.all isValueOctet then
        let value := ((rest.dropWhile isBlankOctet).reverse.dropWhile isBlankOctet).reverse
        some ⟨name, value⟩
      else none

/-- The most entries that a header may have. -/
def maxEntries : Nat := 2

/-- Lengths stay below this. -/
def lengthLimit : Nat := 0x10000000000000000

/-- A length in decimal digits, before which a plus sign may stand. -/
def length? (value : List UInt8) : Option Nat := do
  let digits :=
    match ← Text.ofOctets? value with
    | '+' :: digits => digits
    | digits => digits
  let n := Json.Real.digitsValue digits
  if !digits.isEmpty && digits.all Char.isDigit && n < lengthLimit then some n else none

/-- The text after the start of another. -/
def after? (start s : List Char) : Option (List Char) :=
  if start.isPrefixOf s then some (s.drop start.length) else none

/-- A type of content has a parameter that tells its character set, which must be UTF-8. -/
def isContentType (value : List UInt8) : Bool :=
  match Text.ofOctets? value with
  | none => false
  | some text =>
      let charset := ((text.splitOn ';').drop 1).findSome? fun parameter =>
        after? "charset=".toList (Text.trim parameter)
      charset = some "utf-8".toList || charset = some "utf8".toList

/-- The length that a header tells, after the one that earlier entries told. Entries with other
names do not count. -/
def contentLength? : Option Nat → List Entry → Option Nat
  | told, [] => told
  | told, e :: entries =>
      if e.name = "Content-Length".toList then
        (length? e.value).bind fun n => contentLength? (some n) entries
      else if e.name = "Content-Type".toList then
        if isContentType e.value then contentLength? told entries else none
      else contentLength? told entries

/-- The length that the lines of a header tell. -/
def lengthOf? (lines : List (List UInt8)) : Option Nat := do
  let entries ← lines.mapM Entry.ofLine?
  if entries.length ≤ maxEntries then contentLength? none entries else none

/-! ## Messages -/

/-- The first message of a stream. -/
def next (s : List UInt8) : Next :=
  match headerLines s with
  | none => .partly (!s.isEmpty)
  | some (lines, rest) =>
      match lengthOf? lines with
      | none => .garbage
      | some n =>
          if rest.length < n then .partly (!rest.isEmpty) else .body (rest.take n) (rest.drop n)

/-- The request in the body of a message, if the message is one. -/
def request? (octets : List UInt8) : Except Session.Fault (Option Session.Request) :=
  match (Text.ofOctets? octets).bind fun text => Json.readWritten? (String.ofList text) with
  | none => if octets.isEmpty then .ok none else .error .parse
  | some j =>
      if Session.isResponse j then .ok none
      else
        match Session.Request.ofJson? j with
        | none => .error .invalidRequest
        | some r => .ok (some r)

/-- The answer to a message that cannot be read. -/
def faultText (fault : Session.Fault) : String :=
  write (Session.Response.mk .null (.error fault)).toJson

/-- What is written after a message is handled. -/
def stepTexts (step : Session.Step) : List String :=
  step.notices.map (write ·.toJson) ++ (step.response.map (write ·.toJson)).toList

/-- A stream as it is served: the session, and what has come in and waits to be handled. -/
structure Feed where
  session : Session := {}
  waiting : List UInt8 := []
  /-- A message could not be read, or the session is over: nothing more is handled. -/
  closed : Bool := false

/-- Handles the first message that waits, if it is there as a whole. -/
def Feed.step? (f : Feed) (disk : Disk) : Option (Feed × List String) :=
  if f.closed then none
  else
    match next f.waiting with
    | .partly _ => none
    | .garbage => some ({ f with closed := true }, [faultText .parse])
    | .body octets rest =>
        let f := { f with waiting := rest }
        match request? octets with
        | .error fault => some ({ f with closed := true }, [faultText fault])
        | .ok none => some (f, [])
        | .ok (some r) =>
            match f.session.handle disk r with
            | none => some ({ f with closed := true }, [])
            | some step => some ({ f with session := step.session }, stepTexts step)

/-- Handles all messages that wait. Each takes something from the stream or closes it, so the
length of the stream bounds their number. -/
def Feed.drain (f : Feed) (disk : Disk) : Nat → Feed × List String
  | 0 => (f, [])
  | fuel + 1 =>
      match f.step? disk with
      | none => (f, [])
      | some (f', out) =>
          let (g, more) := f'.drain disk fuel
          (g, out ++ more)

/-- What is written when the stream ends: an error if it ends inside a message. -/
def Feed.finish (f : Feed) : List String :=
  match f.closed, next f.waiting with
  | false, .partly true => [faultText .parse]
  | _, _ => []

/-- All that is written in answer to a whole stream. -/
def serve (disk : Disk) (stream : List UInt8) : List String :=
  let (f, out) := Feed.drain { waiting := stream } disk (stream.length + 1)
  out ++ f.finish

end PawnScope.Frame
