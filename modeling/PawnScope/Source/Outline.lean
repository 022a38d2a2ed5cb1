import PawnScope.Source.Include
import PawnScope.Source.Scan

/-! # Outlines

All that the index needs to know of a source text. -/

namespace PawnScope

/-- The symbols that a text declares and the files that it includes. -/
structure Outline where
  symbols : List Symbol := []
  includes : List Include := []
  deriving DecidableEq, Repr, Inhabited

def Outline.ofText (text : String) : Outline where
  symbols := Source.declarations text
  includes := Source.includes text

end PawnScope
