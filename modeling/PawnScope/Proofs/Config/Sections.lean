import PawnScope.Proofs.Disk.Normalization
import PawnScope.Proofs.Text.Trimming
import PawnScope.Session
import Mathlib.Data.List.Forall2

/-! # Sections of settings

A section gives each setting a value or none, by key or by position. It is taken in as a whole, and
only if every value has the type of its setting. A configuration that has taken it in does not
change when the same section comes again. -/

namespace PawnScope

namespace Settings

/-! ## What a section says -/

/-- The values that a section gives the settings, null where it gives none. -/
structure Values where
  directories : Json
  mainPath : Json
  implicit : Json

/-- The values are those under the keys of an object, which has only one of the two keys for include
directories. -/
structure Values.AreUnderKeys (x : Values) (fields : List (String × Json)) : Prop where
  single : fields.lookup "includeDirectories" = none ∨
    fields.lookup "optionalIncludeDirsPaths" = none
  directories_eq : x.directories = ((fields.lookup "includeDirectories").or
    (fields.lookup "optionalIncludeDirsPaths")).getD .null
  mainPath_eq : x.mainPath = (fields.lookup "mainPath").getD .null
  implicit_eq : x.implicit = (fields.lookup "implicitSourcemodInclude").getD .null

/-- What a section gives, by key or by position in a list that may leave out the last values. -/
inductive Gives : Json → Values → Prop
  | byKey {fields : List (String × Json)} {x : Values} (h : x.AreUnderKeys fields) :
      Gives (.obj fields) x
  | byPosition {items : List Json} (h : items.length ≤ 3) :
      Gives (.arr items) ⟨items.getD 0 .null, items.getD 1 .null, items.getD 2 .null⟩

/-- The settings have the section, and it gives these values. -/
def Say (settings : Json) (x : Values) : Prop :=
  ∃ values, settings.field? sectionName = some values ∧ Gives values x

/-- The values that make settings. -/
def toValues (s : Settings) : Values where
  directories := (s.includeDirectories.map fun names => Json.arr (names.map .str)).getD .null
  mainPath := (s.mainPath.map Json.str).getD .null
  implicit := (s.implicitSourcemod.map Json.bool).getD .null

/-! ## Reading a section -/

theorem string?_eq_some_iff {v : Json} {s : String} : string? v = some s ↔ v = .str s := by
  cases v
  all_goals simp [string?]

theorem bool?_eq_some_iff {v : Json} {b : Bool} : bool? v = some b ↔ v = .bool b := by
  cases v
  all_goals simp [bool?]

theorem mapM_string?_eq_some_iff {items : List Json} {names : List String} :
    items.mapM string? = some names ↔ items = names.map .str := by
  induction items generalizing names with
  | nil =>
      cases names with
      | nil => simp
      | cons name names => simp
  | cons item items ih =>
      cases names with
      | nil => simp [List.mapM_cons, Option.bind_eq_some_iff]
      | cons name names =>
          simp [List.mapM_cons, Option.bind_eq_some_iff, string?_eq_some_iff, ih]

theorem strings?_eq_some_iff {v : Json} {names : List String} :
    strings? v = some names ↔ v = .arr (names.map .str) := by
  cases v
  case arr items => simp [strings?, mapM_string?_eq_some_iff]
  all_goals simp [strings?]

/-- Reading a setting gives its value, or nothing for null. -/
theorem optional?_eq_some_iff {α : Type} {read : Json → Option α} {write : α → Json}
    (hread : ∀ v a, read v = some a ↔ v = write a) (hnull : ∀ a, write a ≠ .null) {v : Json}
    {setting : Option α} :
    optional? read v = some setting ↔ v = (setting.map write).getD .null := by
  cases setting with
  | none =>
      unfold optional?
      split
      · simp
      · rename_i hv
        simpa using hv
  | some a =>
      unfold optional?
      split
      · simpa using (hnull a).symm
      · simp [hread]

theorem ofValues?_eq_some_iff {x : Values} {s : Settings} :
    ofValues? x.directories x.mainPath x.implicit = some s ↔ x = s.toValues := by
  obtain ⟨directories, mainPath, implicit⟩ := x
  obtain ⟨names, path, flag⟩ := s
  have hdirectories : optional? strings? directories = some names ↔
      directories = (names.map fun names => Json.arr (names.map .str)).getD .null :=
    optional?_eq_some_iff (fun v _ => strings?_eq_some_iff) (by simp)
  have hmainPath : optional? string? mainPath = some path ↔ mainPath = (path.map .str).getD .null :=
    optional?_eq_some_iff (fun v _ => string?_eq_some_iff) (by simp)
  have himplicit : optional? bool? implicit = some flag ↔ implicit = (flag.map .bool).getD .null :=
    optional?_eq_some_iff (fun v _ => bool?_eq_some_iff) (by simp)
  simp only [toValues, Values.mk.injEq, ← hdirectories, ← hmainPath, ← himplicit]
  simp only [ofValues?, Option.pure_def, Option.bind_eq_bind, Option.bind_eq_some_iff,
    Option.some.injEq, mk.injEq]
  constructor
  · rintro ⟨_, h₁, _, h₂, _, h₃, rfl, rfl, rfl⟩
    exact ⟨h₁, h₂, h₃⟩
  · rintro ⟨h₁, h₂, h₃⟩
    exact ⟨_, h₁, _, h₂, _, h₃, rfl, rfl, rfl⟩

/-- No section gives other values than these. -/
theorem Gives.ofSection?_eq {values : Json} {x : Values} (h : Gives values x) :
    ofSection? values = ofValues? x.directories x.mainPath x.implicit := by
  cases h with
  | byPosition h =>
      rename_i items
      match items, h with
      | [], _ => rfl
      | [a], _ => rfl
      | [a, b], _ => rfl
      | [a, b, c], _ => rfl
  | byKey h =>
      rename_i fields
      obtain ⟨hsingle, hdirectories, hmainPath, himplicit⟩ := h
      rw [hdirectories, hmainPath, himplicit]
      simp only [ofSection?, directoryKeys, List.filterMap_cons, List.filterMap_nil]
      rcases hsingle with hnone | hnone
      · rw [hnone]
        cases fields.lookup "optionalIncludeDirsPaths" with
        | none => rfl
        | some v => rfl
      · rw [hnone]
        cases fields.lookup "includeDirectories" with
        | none => rfl
        | some v => rfl

theorem exists_gives_of_ofSection? {values : Json} {s : Settings}
    (h : ofSection? values = some s) : ∃ x, Gives values x := by
  cases values with
  | arr items =>
      by_cases hlength : items.length ≤ 3
      · exact ⟨_, .byPosition hlength⟩
      · match items with
        | [] | [_] | [_, _] | [_, _, _] => simp at hlength
        | _ :: _ :: _ :: _ :: _ => cases h
  | obj fields =>
      refine ⟨⟨_, _, _⟩, .byKey ⟨?_, rfl, rfl, rfl⟩⟩
      by_contra hboth
      rw [not_or, ← Ne, ← Ne, Option.ne_none_iff_exists', Option.ne_none_iff_exists'] at hboth
      obtain ⟨⟨first, hfirst⟩, second, hsecond⟩ := hboth
      simp [ofSection?, directoryKeys, hfirst, hsecond] at h
  | _ => cases h

/-- The settings are read from the values that make them, and from no others. -/
theorem Say.ofJson?_eq_some_iff {settings : Json} {x : Values} (h : Say settings x)
    {s : Settings} : ofJson? settings = some s ↔ x = s.toValues := by
  obtain ⟨values, hvalues, hgives⟩ := h
  rw [ofJson?, hvalues, ← ofValues?_eq_some_iff, ← hgives.ofSection?_eq]
  rfl

theorem ofJson?_eq_some_iff {settings : Json} {s : Settings} :
    ofJson? settings = some s ↔ Say settings s.toValues := by
  constructor
  · intro h
    obtain ⟨values, hvalues, hsection⟩ := Option.bind_eq_some_iff.mp h
    obtain ⟨x, hgives⟩ := exists_gives_of_ofSection? hsection
    have hsay : Say settings x := ⟨values, hvalues, hgives⟩
    rwa [← hsay.ofJson?_eq_some_iff.mp h]
  · intro h
    exact h.ofJson?_eq_some_iff.mpr rfl

end Settings

namespace Config

/-! ## Include directories -/

theorem samePaths_self (ps : List Path) : samePaths ps ps = true := by
  induction ps with
  | nil => rfl
  | cons p ps ih => simp [samePaths, Path.same, ih]

/-- An include directory as it is given, without the white space around it. -/
def given (name : String) : Path := ⟨Text.octets (Text.trim name.toList)⟩

/-- The directory that a name stands for: an absolute one itself, any other one the normal form of
what it leads to from the root. -/
structure StandsFor (root : Path) (name : String) (dir : Path) : Prop where
  absolute : dir.isAbsolute = true
  outright : (given name).isAbsolute = true → dir = given name
  below : (given name).isAbsolute = false → (root.join (given name)).normalize? = some dir

theorem standsFor_absolutize {c : Config} {root : Path} (hroot : c.workspaceRoots.head? = some root)
    (habsolute : root.isAbsolute = true) (name : String) :
    StandsFor root name (c.absolutize (given name)) := by
  cases hgiven : (given name).isAbsolute with
  | true =>
      rw [absolutize, if_pos hgiven]
      exact ⟨hgiven, fun _ => rfl, fun h => absurd (hgiven.symm.trans h) (by decide)⟩
  | false =>
      have hjoin := Path.isAbsolute_join_of_isAbsolute habsolute (given name)
      have hnormal := Path.normalize?_of_isAbsolute hjoin
      have hdir : c.absolutize (given name) =
          Path.ofNames true (root.join (given name)).normalNames := by
        simp [absolutize, hgiven, hroot, hnormal]
      rw [hdir]
      exact ⟨rfl, fun h => absurd (hgiven.symm.trans h) (by decide), fun _ => hnormal⟩

/-- The names that are not blank become directories, in order. -/
theorem directoriesOf_eq (c : Config) (names : List String) :
    c.directoriesOf names =
      (names.filter fun name => !Text.isBlank name.toList).map fun name =>
        c.absolutize (given name) := by
  have hblank : ∀ name : String,
      (Text.trim name.toList).isEmpty = Text.isBlank name.toList := by
    intro name
    rw [Bool.eq_iff_iff, List.isEmpty_iff, Text.trim_eq_nil_iff]
  simp only [directoriesOf, List.filter_map, List.map_map]
  congr 1
  exact List.filter_congr fun name _ => by simp [hblank]

theorem forall₂_directoriesOf {c : Config} {root : Path}
    (hroot : c.workspaceRoots.head? = some root) (habsolute : root.isAbsolute = true)
    (names : List String) :
    List.Forall₂ (StandsFor root) (names.filter fun name => !Text.isBlank name.toList)
      (c.directoriesOf names) := by
  rw [directoriesOf_eq, List.forall₂_map_right_iff, List.forall₂_same]
  exact fun name _ => standsFor_absolutize hroot habsolute name

/-! ## Taking in a section -/

/-- Only the workspace roots count for what names stand for, and no settings change them. -/
theorem update_update (c : Config) (s : Settings) : (c.update s).update s = c.update s := by
  obtain ⟨_ | names, _ | path, _ | flag⟩ := s
  all_goals rfl

/-- What taking in settings with the given values makes of a configuration. -/
structure Takes (c : Config) (x : Settings.Values) (c' : Config) : Prop where
  roots : c'.workspaceRoots = c.workspaceRoots
  directories_null : x.directories = .null → c'.includeDirectories = c.includeDirectories
  mainPath_null : x.mainPath = .null → c'.mainPath = c.mainPath
  implicit_null : x.implicit = .null → c'.implicitSourcemod = c.implicitSourcemod
  directories_given : ∀ root, c.workspaceRoots.head? = some root → root.isAbsolute = true →
    ∀ names : List String, x.directories = .arr (names.map .str) →
      List.Forall₂ (StandsFor root) (names.filter fun name => !Text.isBlank name.toList)
        c'.includeDirectories

theorem takes_update (c : Config) (s : Settings) : Takes c s.toValues (c.update s) := by
  obtain ⟨names, path, flag⟩ := s
  refine ⟨rfl, fun h => ?_, fun h => ?_, fun h => ?_, fun root hroot habsolute given h => ?_⟩
  · cases names with
    | none => rfl
    | some names => cases h
  · cases path with
    | none => rfl
    | some path => cases h
  · cases flag with
    | none => rfl
    | some flag => cases h
  · cases names with
    | none => cases h
    | some names =>
        have hinjective : Function.Injective (List.map Json.str) :=
          List.map_injective_iff.mpr fun _ _ => Json.str.inj
        obtain rfl := hinjective (Json.arr.inj h)
        exact forall₂_directoriesOf hroot habsolute names

/-- Settings are refused exactly if their section does not give the values of any settings, and then
the editor's message changes nothing. Settings that are taken in keep what they give no value, and
change nothing when they come again. -/
theorem applySettings?_wholly (c : Config) (settings : Json) :
    (c.applySettings? settings = none ↔ ∀ s : Settings, ¬Settings.Say settings s.toValues) ∧
      (c.applySettings? settings = none → ∀ (w : Workspace) (disk : Disk), w.index.config = c →
        Session.didChangeConfiguration disk settings w = (w, [])) ∧
      ∀ x c', Settings.Say settings x → c.applySettings? settings = some c' →
        Takes c x c' ∧ c'.applySettings? settings = some c' ∧ c'.includesDiffer c' = false := by
  refine ⟨?_, ?_, ?_⟩
  · rw [applySettings?, Option.map_eq_none_iff, Option.eq_none_iff_forall_ne_some]
    exact forall_congr' fun s => not_congr Settings.ofJson?_eq_some_iff
  · intro hnone w disk hconfig
    have hworkspace : w.applySettings? disk settings = none := by
      rw [Workspace.applySettings?, hconfig, hnone]
      rfl
    rw [Session.didChangeConfiguration, hworkspace]
  · intro x c' hsay hsome
    obtain ⟨s, hs, rfl⟩ := Option.map_eq_some_iff.mp hsome
    obtain rfl := hsay.ofJson?_eq_some_iff.mp hs
    refine ⟨takes_update c s, ?_, ?_⟩
    · rw [applySettings?, hs, Option.map_some, update_update]
    · simp [includesDiffer, samePaths_self]

/-- A relative, an absolute and a blank directory under the second key. -/
def vendorValues : Settings.Values where
  directories := .arr (["vendor/../inc ", "/opt//sm/", "  "].map .str)
  mainPath := .null
  implicit := .null

def vendorSettings : Json :=
  .obj [("sourcepawn", .obj [("optionalIncludeDirsPaths", vendorValues.directories),
    ("mainPath", .null), ("trace", .int 1)])]

def projectConfig : Config where
  mainPath := some (.ofString "main.sp")
  workspaceRoots := [.ofString "/project"]

/-- Only the include directories are other ones. -/
def vendorConfig : Config :=
  { projectConfig with includeDirectories := [.ofString "/project/inc", .ofString "/opt//sm/"] }

theorem applySettings?_wholly_vendor :
    Settings.Say vendorSettings vendorValues ∧
      projectConfig.applySettings? vendorSettings = some vendorConfig ∧
      Takes projectConfig vendorValues vendorConfig ∧
      vendorConfig.applySettings? vendorSettings = some vendorConfig ∧
      vendorConfig.includesDiffer vendorConfig = false := by
  have hsay : Settings.Say vendorSettings vendorValues :=
    ⟨_, rfl, .byKey ⟨Or.inl rfl, rfl, rfl, rfl⟩⟩
  have hsome : projectConfig.applySettings? vendorSettings = some vendorConfig := by
    decide +kernel
  exact ⟨hsay, hsome, (applySettings?_wholly projectConfig vendorSettings).2.2 _ _ hsay hsome⟩

end Config

end PawnScope
