import PawnScope.Include.Registry
import Mathlib.Data.Set.Card

/-! # Registration in the course of time

The registry keeps one owner for each base name: the file that was registered last under it. When
this file is unregistered the name has no owner, also if another file was registered under it
before, and it has none until a file is registered under it again. All that the registry answers
can be read off the calls that led to it. -/

namespace PawnScope.Registry

/-- What can be asked of a registry. -/
inductive Call where
  | register (l : Location)
  | unregister (l : Location)
  deriving DecidableEq

def apply (r : Registry) : Call → Registry
  | .register l => r.register l
  | .unregister l => r.unregister l

def applyAll (r : Registry) (calls : List Call) : Registry := calls.foldl apply r

theorem applyAll_append (r : Registry) (calls calls' : List Call) :
    r.applyAll (calls ++ calls') = (r.applyAll calls).applyAll calls' :=
  List.foldl_append

/-- No file is registered under a name. -/
def NoneUnder (name : String) (calls : List Call) : Prop :=
  ∀ l, .register l ∈ calls → l.baseName? ≠ some name

variable {name : String} {calls : List Call} {r : Registry} {l : Location}

theorem NoneUnder.of_cons {c : Call} (h : NoneUnder name (c :: calls)) : NoneUnder name calls :=
  fun l hl => h l (List.mem_cons_of_mem c hl)

theorem resolve?_applyAll_of_none (h : NoneUnder name calls) (hr : r.resolve? name = none) :
    (r.applyAll calls).resolve? name = none := by
  induction calls generalizing r with
  | nil => exact hr
  | cons c calls ih =>
      apply ih h.of_cons
      cases c with
      | register k => rw [apply, resolve?_register, if_neg (h k List.mem_cons_self), hr]
      | unregister k => simp [apply, resolve?_unregister, hr]

/-- As long as no file is registered under a name, its owner has it until it is unregistered. -/
theorem resolve?_applyAll_of_owner (h : NoneUnder name calls) (hl : l.baseName? = some name)
    (hr : r.resolve? name = some l) :
    (r.applyAll calls).resolve? name = if .unregister l ∈ calls then none else some l := by
  induction calls generalizing r with
  | nil => simpa [applyAll] using hr
  | cons c calls ih =>
      have hstep : r.applyAll (c :: calls) = (r.apply c).applyAll calls := rfl
      rw [hstep]
      by_cases hc : c = .unregister l
      · subst hc
        rw [if_pos List.mem_cons_self]
        apply resolve?_applyAll_of_none h.of_cons
        rw [apply, resolve?_unregister, if_pos ⟨hl, hr⟩]
      · have hkept : (r.apply c).resolve? name = some l := by
          cases c with
          | register k => rw [apply, resolve?_register, if_neg (h k List.mem_cons_self), hr]
          | unregister k =>
              have hne : l ≠ k := fun hlk => hc (congrArg Call.unregister hlk.symm)
              rw [apply, resolve?_unregister, hr, if_neg]
              exact fun hk => hne (Option.some.inj hk.2)
        rw [ih h.of_cons hkept]
        simp [Ne.symm hc]

/-- The last file to be registered under a name, and what was asked of the registry since. -/
structure LastUnder (name : String) (calls : List Call) (l : Location) (since : List Call) :
    Prop where
  baseName? : l.baseName? = some name
  noneUnder : NoneUnder name since
  split : ∃ before, calls = before ++ .register l :: since

theorem exists_lastUnder (h : ¬NoneUnder name calls) :
    ∃ l since, LastUnder name calls l since := by
  induction calls with
  | nil => exact absurd (fun l hl => by cases hl) h
  | cons c calls ih =>
      by_cases hcalls : NoneUnder name calls
      · -- The first call is the last registration under the name.
        obtain ⟨l, hl, hname⟩ : ∃ l, .register l ∈ c :: calls ∧ l.baseName? = some name := by
          simpa [NoneUnder] using h
        rcases List.mem_cons.mp hl with rfl | hl
        · exact ⟨l, calls, hname, hcalls, [], rfl⟩
        · exact absurd hname (hcalls l hl)
      · obtain ⟨l, since, hname, hsince, before, rfl⟩ := ih hcalls
        exact ⟨l, since, hname, hsince, c :: before, rfl⟩

/-- The file that was registered last under a name has it until it is unregistered. -/
theorem LastUnder.resolve? {since : List Call} (h : LastUnder name calls l since) (r : Registry) :
    (r.applyAll calls).resolve? name = if .unregister l ∈ since then none else some l := by
  obtain ⟨before, rfl⟩ := h.split
  have hstep : r.applyAll (before ++ .register l :: since) =
      ((r.applyAll before).register l).applyAll since := applyAll_append r before _
  rw [hstep]
  apply resolve?_applyAll_of_owner h.noneUnder h.baseName?
  rw [resolve?_register, if_pos h.baseName?]

/-! ## Answers of the registry -/

/-- The file was registered last under the name and has not been unregistered since. -/
def Owns (calls : List Call) (name : String) (l : Location) : Prop :=
  ∃ since, LastUnder name calls l since ∧ .unregister l ∉ since

theorem resolve?_applyAll_iff :
    ((Registry.mk {}).applyAll calls).resolve? name = some l ↔ Owns calls name l := by
  constructor
  · intro h
    have hunder : ¬NoneUnder name calls := by
      intro hnone
      rw [resolve?_applyAll_of_none hnone rfl] at h
      cases h
    obtain ⟨k, since, hlast⟩ := exists_lastUnder hunder
    rw [hlast.resolve?] at h
    split at h
    · cases h
    · rename_i hsince
      obtain rfl := Option.some.inj h
      exact ⟨since, hlast, hsince⟩
  · rintro ⟨since, hlast, hsince⟩
    rw [hlast.resolve?, if_neg hsince]

theorem Owns.baseName? (h : Owns calls name l) : l.baseName? = some name := by
  obtain ⟨since, hlast, -⟩ := h
  exact hlast.baseName?

theorem replaced?_eq_some_iff {owner : Location} :
    r.replaced? l = some owner ↔
      owner ≠ l ∧ ∃ name, l.baseName? = some name ∧ r.resolve? name = some owner := by
  simp only [replaced?, Option.bind_eq_bind, Option.bind_eq_some_iff]
  constructor
  · rintro ⟨name, hname, k, hk, hif⟩
    split at hif
    · cases hif
    · rename_i hne
      obtain rfl := Option.some.inj hif
      exact ⟨hne, name, hname, hk⟩
  · rintro ⟨hne, name, hname, hk⟩
    exact ⟨name, hname, owner, hk, if_neg hne⟩

/-- The size counts the names that resolve. -/
theorem encard_resolve? (r : Registry) : {name | r.resolve? name ≠ none}.encard = r.size := by
  have hkeys : {name | r.resolve? name ≠ none} = ↑r.owners.keys.toFinset := by
    ext name
    simp [resolve?, Catalog.get?_eq_none_iff]
  have hnodup : r.owners.keys.Nodup := r.owners.nodup
  have hlength : r.owners.keys.length = r.size := List.length_map _
  rw [hkeys, Set.encard_coe_eq_coe_finsetCard, List.toFinset_card_of_nodup hnodup, hlength]

/-- What a registry answers after any calls, from the empty registry on. A name leads to the file
that was registered last under it and has not been unregistered since, and to none if there is no
such file; a file that is registered next replaces the owner of its base name, if that is another
file; and the size is the number of names that lead somewhere. -/
theorem answers_applyAll (calls : List Call) :
    (∀ name l, ((Registry.mk {}).applyAll calls).resolve? name = some l ↔ Owns calls name l) ∧
      (∀ name, (∀ l, ¬Owns calls name l) →
        ((Registry.mk {}).applyAll calls).resolve? name = none) ∧
      (∀ l owner, ((Registry.mk {}).applyAll calls).replaced? l = some owner ↔
        owner ≠ l ∧ ∃ name, l.baseName? = some name ∧ Owns calls name owner) ∧
      {name | ((Registry.mk {}).applyAll calls).resolve? name ≠ none}.encard =
        ((Registry.mk {}).applyAll calls).size := by
  refine ⟨fun name l => resolve?_applyAll_iff, ?_, ?_, encard_resolve? _⟩
  · intro name hnone
    rw [Option.eq_none_iff_forall_ne_some]
    exact fun l hl => hnone l (resolve?_applyAll_iff.mp hl)
  · intro l owner
    simp only [replaced?_eq_some_iff, resolve?_applyAll_iff]

end PawnScope.Registry
