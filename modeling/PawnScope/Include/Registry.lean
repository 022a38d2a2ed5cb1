import PawnScope.Catalog
import PawnScope.Include.Reference

/-! # The registry

The registry knows files by their base names, so that an include need not say where a file is.
Of two files with one base name, the one registered last has it. -/

namespace PawnScope

/-- The base name of the file at a location, if it has one that is text. -/
def Location.baseName? (l : Location) : Option String := do
  let p ← l.filePath?
  let n ← p.fileName?
  let text ← Text.ofOctets? n
  return String.ofList (Reference.baseName text)

/-- Base names and the files that have them. -/
structure Registry where
  owners : Catalog String Location := {}
  deriving Inhabited

namespace Registry

/-- The file that has a base name. -/
def resolve? (r : Registry) (name : String) : Option Location := r.owners.get? name

/-- Gives a file its base name. -/
def register (r : Registry) (l : Location) : Registry :=
  match l.baseName? with
  | some name => ⟨r.owners.insert name l⟩
  | none => r

/-- The other file that loses its base name when a file is registered. -/
def replaced? (r : Registry) (l : Location) : Option Location := do
  let owner ← r.resolve? (← l.baseName?)
  if owner = l then none else some owner

/-- Takes a file's base name away, unless another file has it. -/
def unregister (r : Registry) (l : Location) : Registry :=
  match l.baseName? with
  | some name => if r.resolve? name = some l then ⟨r.owners.erase name⟩ else r
  | none => r

def size (r : Registry) : Nat := r.owners.size

/-! ## Laws -/

theorem resolve?_register (r : Registry) (l : Location) (name : String) :
    (r.register l).resolve? name =
      if l.baseName? = some name then some l else r.resolve? name := by
  cases h : l.baseName? with
  | none => simp [register, h]
  | some own => simp [register, h, resolve?, Catalog.get?_insert]

theorem resolve?_unregister (r : Registry) (l : Location) (name : String) :
    (r.unregister l).resolve? name =
      if l.baseName? = some name ∧ r.resolve? name = some l then none else r.resolve? name := by
  cases h : l.baseName? with
  | none => simp [unregister, h]
  | some own =>
      by_cases hl : r.resolve? own = some l
      · have herase : r.unregister l = ⟨r.owners.erase own⟩ := by simp [unregister, h, hl]
        rw [herase, resolve?, Catalog.get?_erase]
        by_cases ho : own = name
        · subst ho
          simp [hl]
        · simp [ho, resolve?]
      · have hsame : r.unregister l = r := by simp [unregister, h, hl]
        rw [hsame, if_neg]
        rintro ⟨ho, hname⟩
        obtain rfl := Option.some.inj ho
        exact hl hname

end Registry

end PawnScope
