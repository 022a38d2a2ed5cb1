/-! # Lines of a source text -/

namespace PawnScope.Text

/-- A line without the carriage return that a line feed left behind. -/
def dropReturn (line : List Char) : List Char :=
  if line.getLast? = some '\r' then line.dropLast else line

/-- The lines of a text, each ended by a line feed or by a carriage return and a line feed.
What follows the last line feed is a line of its own unless it is empty, and keeps a carriage
return at its end. -/
def lines (s : List Char) : List (List Char) :=
  let pieces := s.splitOn '\n'
  let ended := pieces.dropLast.map dropReturn
  match pieces.getLast? with
  | none => ended
  | some last => if last.isEmpty then ended else ended ++ [last]

end PawnScope.Text
