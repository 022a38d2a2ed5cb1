import PawnScope.Catalog
import PawnScope.Symbol
import PawnScope.Include.Edge

/-! # Symbol tables

The symbols and include edges of one file. Where a file declares a name twice, the place of the
first declaration holds the content of the last. -/

namespace PawnScope

/-- What one file declares and includes. -/
structure SymbolTable where
  location : Location
  symbols : Catalog String Symbol
  includes : List Edge
  deriving Inhabited

namespace SymbolTable

/-- The table of a file with the given declarations. -/
def ofSymbols (location : Location) (symbols : List Symbol) (includes : List Edge) :
    SymbolTable where
  location := location
  symbols := Catalog.ofList (symbols.map fun s => (s.name, s))
  includes := includes

/-- The symbols in the order of their names' first declarations. -/
def toList (t : SymbolTable) : List Symbol := t.symbols.values

def symbol? (t : SymbolTable) (name : String) : Option Symbol := t.symbols.get? name

def size (t : SymbolTable) : Nat := t.symbols.size

end SymbolTable

end PawnScope
