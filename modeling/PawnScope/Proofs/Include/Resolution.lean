import PawnScope.Index
import PawnScope.Proofs.Disk.Lookup

/-! # What resolution depends on

A reference is looked up by its base name first. Registering a file leads the references of its
base name to it and leaves all others alone. Unregistering it matters only to the same references,
and only if the file has the name: then they lead where they lead when nothing is registered.
Include directories count only through their components. -/

namespace PawnScope.Reference

/-- The base name by which a reference is looked up among the registered files. -/
def lookupName (reference : String) : String :=
  String.ofList (baseName (normalize reference.toList))

/-! ## Registration -/

/-- A reference leads to the owner of its base name, or else where it leads when nothing is
registered. -/
theorem resolve_eq_owner (disk : Disk) (registry : Registry) (directories : List Path)
    (reference : String) (isBuiltin : Bool) :
    resolve disk registry directories reference isBuiltin =
      match registry.resolve? (lookupName reference) with
      | some owner => ⟨owner, isBuiltin⟩
      | none => resolve disk {} directories reference isBuiltin := by
  have hempty : ({} : Registry).resolve? (lookupName reference) = none := rfl
  rw [lookupName] at hempty ⊢
  cases h : registry.resolve? (String.ofList (baseName (normalize reference.toList))) with
  | none => simp only [resolve, target?, h, hempty]
  | some owner => simp only [resolve, target?, h, Option.some_or, Option.getD_some]

theorem resolve_register (disk : Disk) (registry : Registry) (directories : List Path)
    (reference : String) (isBuiltin : Bool) (l : Location) :
    resolve disk (registry.register l) directories reference isBuiltin =
      if l.baseName? = some (lookupName reference) then ⟨l, isBuiltin⟩
      else resolve disk registry directories reference isBuiltin := by
  rw [resolve_eq_owner, Registry.resolve?_register]
  by_cases h : l.baseName? = some (lookupName reference)
  · simp only [if_pos h]
  · simp only [if_neg h]
    exact (resolve_eq_owner disk registry directories reference isBuiltin).symm

theorem resolve_unregister (disk : Disk) (registry : Registry) (directories : List Path)
    (reference : String) (isBuiltin : Bool) (l : Location) :
    resolve disk (registry.unregister l) directories reference isBuiltin =
      if l.baseName? = some (lookupName reference) ∧
          registry.resolve? (lookupName reference) = some l then
        resolve disk {} directories reference isBuiltin
      else resolve disk registry directories reference isBuiltin := by
  rw [resolve_eq_owner, Registry.resolve?_unregister]
  by_cases h : l.baseName? = some (lookupName reference) ∧
      registry.resolve? (lookupName reference) = some l
  · simp only [if_pos h]
  · simp only [if_neg h]
    exact (resolve_eq_owner disk registry directories reference isBuiltin).symm

/-- What it means for any reference that a file is registered or unregistered. Registering the file
leads all references of its base name to it, in either form of the directive, and no others.
Unregistering it counts only if it is the owner of its base name: then references of this name lead
where they lead when nothing is registered, and all others where they led before. -/
theorem resolve_registration (disk : Disk) (registry : Registry) (directories : List Path)
    {u : Location} {name : String} (hname : u.baseName? = some name) (reference : String)
    (isBuiltin : Bool) :
    (resolve disk (registry.register u) directories reference isBuiltin =
        if lookupName reference = name then ⟨u, isBuiltin⟩
        else resolve disk registry directories reference isBuiltin) ∧
      resolve disk (registry.unregister u) directories reference isBuiltin =
        if registry.resolve? name = some u ∧ lookupName reference = name then
          resolve disk {} directories reference isBuiltin
        else resolve disk registry directories reference isBuiltin := by
  rw [resolve_register, resolve_unregister, hname]
  by_cases hlookup : lookupName reference = name
  · subst hlookup
    simp only [true_and, and_true, if_true]
  · have hne : some name ≠ some (lookupName reference) :=
      fun h => hlookup (Option.some.inj h).symm
    simp only [hlookup, hne, false_and, and_false, if_false, and_self]

/-- A header takes its name over from another and gives it up again. A reference with separators of
both kinds leads to it, and then to a third header, in the include directory. -/
theorem resolve_registration_util :
    let disk : Disk := ⟨.dir [(Text.octets "util.inc".toList, .file (some ""))], []⟩
    let registry := ({} : Registry).register (.ofSegments ["a", "util.inc"])
    let u := Location.ofSegments ["b", "util.inc"]
    u.baseName? = some "util.inc" ∧
      resolve disk (registry.register u) [⟨[47]⟩] "lib\\include/util" false = ⟨u, false⟩ ∧
      resolve disk ((registry.register u).unregister u) [⟨[47]⟩] "lib\\include/util" false =
        ⟨.ofSegments ["util.inc"], false⟩ := by
  intro disk registry u
  have hname : u.baseName? = some "util.inc" := by decide +kernel
  have hlookup : lookupName "lib\\include/util" = "util.inc" := by decide +kernel
  have howner : (registry.register u).resolve? "util.inc" = some u := by decide +kernel
  have hregister :=
    (resolve_registration disk registry [⟨[47]⟩] hname "lib\\include/util" false).1
  have hunregister :=
    (resolve_registration disk (registry.register u) [⟨[47]⟩] hname "lib\\include/util" false).2
  rw [if_pos hlookup] at hregister
  rw [if_pos ⟨howner, hlookup⟩] at hunregister
  exact ⟨hname, hregister, hunregister.trans (by decide +kernel)⟩

/-- Only look-ups in the registry count. -/
theorem resolve_eq_of_resolve? (disk : Disk) {r r' : Registry}
    (h : ∀ name, r'.resolve? name = r.resolve? name) (directories : List Path)
    (reference : String) (isBuiltin : Bool) :
    resolve disk r' directories reference isBuiltin =
      resolve disk r directories reference isBuiltin := by
  rw [resolve, resolve, target?, target?, h]

/-! ## Include directories -/

theorem inDirectory?_eq_of_same (disk : Disk) (reference : List Char) {p q : Path}
    (h : p.same q = true) : inDirectory? disk reference p = inDirectory? disk reference q := by
  have hnormal : (p.join ⟨Text.octets reference⟩).normalize? =
      (q.join ⟨Text.octets reference⟩).normalize? := by
    cases hr : (⟨Text.octets reference⟩ : Path).isAbsolute with
    | true => simp [Path.join, hr]
    | false =>
        rcases Path.eq_or_alike_of_same h with rfl | ⟨hp, hq, halike⟩
        · rfl
        · exact (halike.join hr hp hq).normalize?_eq
  simp only [inDirectory?, disk.has_join_eq_of_same h, hnormal]

theorem findSome?_inDirectory?_eq (disk : Disk) (reference : List Char) {ps qs : List Path}
    (h : Config.samePaths ps qs = true) :
    ps.findSome? (inDirectory? disk reference) = qs.findSome? (inDirectory? disk reference) := by
  fun_induction Config.samePaths ps qs with
  | case1 => rfl
  | case2 p ps q qs ih =>
      rw [Bool.and_eq_true] at h
      rw [List.findSome?_cons, List.findSome?_cons, inDirectory?_eq_of_same disk reference h.1,
        ih h.2]
  | case3 ps qs hnil hcons => cases h

theorem resolve_eq_of_samePaths (disk : Disk) (registry : Registry) {ps qs : List Path}
    (h : Config.samePaths ps qs = true) (reference : String) (isBuiltin : Bool) :
    resolve disk registry ps reference isBuiltin = resolve disk registry qs reference isBuiltin := by
  rw [resolve, resolve, target?, target?, findSome?_inDirectory?_eq disk _ h]

end PawnScope.Reference
