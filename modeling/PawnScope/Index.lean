import PawnScope.Config
import PawnScope.Source.Include
import PawnScope.Symbol.Table

/-! # The index

The index holds a symbol table for each known file, the registry of base names and the
configuration. A table is replaced as a whole. -/

namespace PawnScope

/-- Tables, registered names and configuration. -/
structure Index where
  tables : Catalog Location SymbolTable := {}
  registry : Registry := {}
  config : Config := {}
  deriving Inhabited

namespace Index

def table? (x : Index) (l : Location) : Option SymbolTable := x.tables.get? l

/-- Where a reference leads under the current registry and include directories. -/
def resolve (x : Index) (disk : Disk) (reference : String) (isBuiltin : Bool) : Edge :=
  Reference.resolve disk x.registry x.config.includeDirectories reference isBuiltin

/-- Each directive with the edge that it makes. -/
def resolveAll (x : Index) (disk : Disk) (includes : List Include) : List (Include × Edge) :=
  includes.map fun i => (i, x.resolve disk i.reference i.isBuiltin)

/-- Puts a table in the place of the file's former one. -/
def insert (x : Index) (t : SymbolTable) : Index :=
  { x with tables := x.tables.insert t.location t }

/-- Builds the table of a file from its symbols and edges. -/
def update (x : Index) (l : Location) (symbols : List Symbol) (edges : List Edge) : Index :=
  x.insert (SymbolTable.ofSymbols l symbols edges)

def remove (x : Index) (l : Location) : Index := { x with tables := x.tables.erase l }

def register (x : Index) (l : Location) : Index := { x with registry := x.registry.register l }

def unregister (x : Index) (l : Location) : Index :=
  { x with registry := x.registry.unregister l }

end Index

end PawnScope
