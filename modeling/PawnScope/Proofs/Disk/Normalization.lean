import PawnScope.Config
import PawnScope.Proofs.Disk.Lookup

/-! # Normal forms name the same file

A path is normalized by its text alone, while the disk follows it from directory to directory. On a
tree without links both go the same way: whenever a path leads somewhere, the entries that were
entered and not left again are the names of its normal form. So the normal form of a path that
exists exists too and names the same place. -/

namespace PawnScope

namespace Path

/-- Whatever is read from inside an absolute path is absolute. -/
theorem isAbsolute_join_of_isAbsolute {p : Path} (hp : p.isAbsolute = true) (q : Path) :
    (p.join q).isAbsolute = true := by
  cases hq : q.isAbsolute with
  | true => rwa [join, if_pos hq]
  | false => rwa [isAbsolute_join hq (octets_ne_nil_of_isAbsolute hp)]

theorem join_of_isAbsolute (p : Path) {q : Path} (hq : q.isAbsolute = true) : p.join q = q :=
  if_pos hq

/-! ## Normal forms of absolute paths -/

/-- Takes one step by names alone: two dots undo the last name, if there is one. The names taken so
far stand last first. -/
def takeName (taken : List FileName) (step : FileName) : List FileName :=
  if step = dotDot then taken.tail else step :: taken

theorem foldl_takeStep_root (steps taken : List FileName) :
    (steps.map Component.ofStep).foldl takeStep (taken.map .name ++ [.root]) =
      (steps.foldl takeName taken).map .name ++ [.root] := by
  induction steps generalizing taken with
  | nil => rfl
  | cons step steps ih =>
      have hstep : takeStep (taken.map .name ++ [.root]) (Component.ofStep step) =
          (takeName taken step).map .name ++ [.root] := by
        by_cases hup : step = dotDot
        · cases taken with
          | nil => simp [takeStep, Component.ofStep, takeName, hup]
          | cons n taken => simp [takeStep, Component.ofStep, takeName, hup]
        · simp [takeStep, Component.ofStep, takeName, hup]
      rw [List.map_cons, List.foldl_cons, hstep, ih, List.foldl_cons]

/-- What is left of an absolute path: the root, and the names that no step undoes. -/
theorem resolvedSteps_of_isAbsolute {p : Path} (hp : p.isAbsolute = true) :
    resolvedSteps p.components = .root :: (p.steps.foldl takeName []).reverse.map .name := by
  rw [resolvedSteps, components_eq, List.foldl_append, foldl_takeStep_start, if_pos hp]
  have h := foldl_takeStep_root p.steps []
  rw [List.map_nil, List.nil_append] at h
  rw [h, List.reverse_append, List.map_reverse]
  rfl

theorem normalNames_of_isAbsolute {p : Path} (hp : p.isAbsolute = true) :
    p.normalNames = (p.steps.foldl takeName []).reverse := by
  rw [normalNames, resolvedSteps_of_isAbsolute hp]
  exact names_map_name _

theorem normalize?_of_isAbsolute {p : Path} (hp : p.isAbsolute = true) :
    p.normalize? = some (ofNames true p.normalNames) := by
  rw [normalNames, normalize?, resolvedSteps_of_isAbsolute hp]
  rfl

theorem eq_nil_or_mem_of_mem_pieces_ofNames {ns : List FileName} (h : ∀ n ∈ ns, slash ∉ n)
    {piece : FileName} (hmem : piece ∈ (ofNames true ns).pieces) : piece = [] ∨ piece ∈ ns := by
  rw [pieces_ofNames h, List.mem_cons] at hmem
  rcases hmem with hnil | hmem
  · exact Or.inl hnil
  · split at hmem
    · exact Or.inl (List.mem_singleton.mp hmem)
    · exact Or.inr hmem

theorem slash_notMem_of_mem_normalNames {p : Path} {n : FileName} (h : n ∈ p.normalNames) :
    slash ∉ n :=
  slash_notMem_of_mem_pieces (List.mem_filter.mp (mem_normalNames h).1).1

end Path

namespace Node

/-! ## Places in a tree -/

/-- Follows pieces of a path as `follow` does, and gives the names of the entries that lead from the
root to where the path ends. The trail holds the entries that were entered, innermost first, each
with the directory that it is in. -/
def place : List FileName → List (FileName × Node) → Node → Option (List FileName)
  | [], trail, _ => some (trail.map (·.1)).reverse
  | _ :: _, _, .file _ => none
  | piece :: rest, trail, .dir entries =>
      if piece = [] ∨ piece = Path.dot then place rest trail (.dir entries)
      else if piece = Path.dotDot then
        match trail with
        | [] => place rest [] (.dir entries)
        | (_, parent) :: higher => place rest higher parent
      else
        match entry? entries piece with
        | none => none
        | some node => place rest ((piece, .dir entries) :: trail) node

/-- A trail leads from the root to a node. -/
inductive Leads (root : Node) : List (FileName × Node) → Node → Prop where
  | start : Leads root [] root
  | enter {trail : List (FileName × Node)} {entries : List (FileName × Node)} {n : FileName}
      {node : Node} (earlier : Leads root trail (.dir entries)) (step : Path.isStep n = true)
      (down : n ≠ Path.dotDot) (found : entry? entries n = some node) :
      Leads root ((n, .dir entries) :: trail) node

/-- The names of a trail lead from the root to its end. -/
theorem Leads.follow_append {root here : Node} {trail : List (FileName × Node)}
    (h : Leads root trail here) (rest : List FileName) :
    follow ((trail.map (·.1)).reverse ++ rest) [] root =
      follow rest (trail.map (·.2)) here := by
  induction h generalizing rest with
  | start => rfl
  | @enter trail entries n node earlier step down found ih =>
      have hskip : ¬(n = [] ∨ n = Path.dot) := of_decide_eq_true step
      rw [List.map_cons, List.reverse_cons, List.append_assoc, List.singleton_append, ih]
      simp [follow, hskip, down, found]

/-- Wherever a path leads, there is a trail, and its names are what the steps of the path leave of
the names before. -/
theorem Leads.exists_of_follow {root here node : Node} {trail : List (FileName × Node)}
    {pieces : List FileName} (hleads : Leads root trail here)
    (h : follow pieces (trail.map (·.2)) here = some node) :
    ∃ trail', Leads root trail' node ∧
      place pieces trail here = some (trail'.map (·.1)).reverse ∧
      trail'.map (·.1) = (pieces.filter Path.isStep).foldl Path.takeName (trail.map (·.1)) := by
  induction pieces generalizing trail here with
  | nil =>
      obtain rfl := Option.some.inj h
      exact ⟨trail, hleads, rfl, rfl⟩
  | cons piece pieces ih =>
      cases here with
      | file text => cases h
      | dir entries =>
          by_cases hskip : piece = [] ∨ piece = Path.dot
          · have hs : Path.isStep piece = false := decide_eq_false (not_not_intro hskip)
            simp only [follow, if_pos hskip] at h
            simp only [place, if_pos hskip, List.filter_cons, hs]
            exact ih hleads h
          · have hs : Path.isStep piece = true := decide_eq_true hskip
            simp only [follow, if_neg hskip] at h
            simp only [place, if_neg hskip, List.filter_cons_of_pos hs, List.foldl_cons,
              Path.takeName]
            by_cases hup : piece = Path.dotDot
            · rw [if_pos hup] at h
              rw [if_pos hup, if_pos hup]
              -- Above the root there is only the root, and elsewhere the trail is one shorter.
              cases hleads with
              | start => exact ih .start h
              | enter earlier _ _ _ => exact ih earlier h
            · rw [if_neg hup] at h
              rw [if_neg hup, if_neg hup]
              cases hentry : entry? entries piece with
              | none =>
                  rw [hentry] at h
                  cases h
              | some next =>
                  rw [hentry] at h
                  exact ih (.enter hleads hs hup hentry) h

end Node

namespace Disk

variable {d : Disk} {p : Path} {node : Node}

/-- The pieces that are followed from the root to look a path up. -/
def route (d : Disk) (p : Path) : List FileName :=
  if p.isAbsolute then p.pieces else d.cwd ++ p.pieces

/-- The names of the entries that lead from the root to what a path names. -/
def place? (d : Disk) (p : Path) : Option (List FileName) :=
  if p.octets = [] then none else Node.place (d.route p) [] d.root

theorem find?_eq_follow_route (hp : p.octets ≠ []) :
    d.find? p = Node.follow (d.route p) [] d.root := by
  rw [find?, if_neg hp, route]
  split
  · rfl
  · rfl

theorem octets_ne_nil_of_find? (h : d.find? p = some node) : p.octets ≠ [] := by
  intro hnil
  rw [find?, if_pos hnil] at h
  cases h

/-- What a path names is found under the names that its steps leave. -/
theorem place?_of_find? (h : d.find? p = some node) :
    d.place? p = some (((d.route p).filter Path.isStep).foldl Path.takeName []).reverse ∧
      Node.follow (((d.route p).filter Path.isStep).foldl Path.takeName []).reverse [] d.root =
        some node := by
  have hp := octets_ne_nil_of_find? h
  rw [find?_eq_follow_route hp] at h
  have hstart : Node.Leads d.root [] d.root := .start
  obtain ⟨trail, hleads, hplace, hnames⟩ := hstart.exists_of_follow h
  have hfollow := hleads.follow_append []
  rw [List.append_nil] at hfollow
  rw [List.map_nil] at hnames
  rw [place?, if_neg hp, hplace, ← hnames, hfollow]
  exact ⟨rfl, rfl⟩

/-! ## Normal forms -/

/-- The second path is a normal form of the first and names the same file or directory: the same
node, at the same place. -/
structure IsNormalForm (d : Disk) (p q : Path) : Prop where
  isAbsolute : q.isAbsolute = true
  noDots : ∀ piece ∈ q.pieces, piece ≠ Path.dot ∧ piece ≠ Path.dotDot
  normalize?_eq : q.normalize? = some q
  has : d.has q = true
  find?_eq : d.find? q = d.find? p
  place?_eq : d.place? q = d.place? p

theorem filter_route (hp : p.isAbsolute = true) : (d.route p).filter Path.isStep = p.steps := by
  rw [route, if_pos hp]
  rfl

/-- Plain names are followed from the root, where the root is a directory. -/
theorem find?_ofNames {ns : List FileName} {entries : List (FileName × Node)}
    (hroot : d.root = .dir entries) (h : ∀ n ∈ ns, Path.slash ∉ n) :
    d.find? (Path.ofNames true ns) = Node.follow ns [] d.root := by
  have habs : (Path.ofNames true ns).isAbsolute = true := rfl
  rw [find?_of_isAbsolute d habs, Path.pieces_ofNames h, hroot, Node.follow, if_pos (Or.inl rfl)]
  by_cases hns : ns = []
  · rw [if_pos hns, hns]
    rfl
  · rw [if_neg hns]

theorem isNormalForm_ofNames (hp : p.isAbsolute = true) (h : d.find? p = some node) :
    d.IsNormalForm p (Path.ofNames true p.normalNames) := by
  have hnormal := Path.normalize?_of_isAbsolute hp
  have hslash : ∀ n ∈ p.normalNames, Path.slash ∉ n :=
    fun _ hn => Path.slash_notMem_of_mem_normalNames hn
  have habs : (Path.ofNames true p.normalNames).isAbsolute = true := rfl
  have hsteps : (Path.ofNames true p.normalNames).steps = p.normalNames :=
    Path.steps_of_normalize? hnormal
  have hdown : Path.dotDot ∉ p.normalNames := fun hmem => (Path.mem_normalNames hmem).2 rfl
  have hkept : (Path.ofNames true p.normalNames).normalNames = p.normalNames := by
    rw [Path.normalNames_of_dotDot_notMem (by rwa [hsteps]), hsteps]
  have hnames := Path.normalNames_of_isAbsolute hp
  obtain ⟨hplace, hfollow⟩ := place?_of_find? h
  rw [filter_route hp, ← hnames] at hplace hfollow
  obtain ⟨entries, hroot, -⟩ := follow_steps_of_find? hp h
  have hfind : d.find? (Path.ofNames true p.normalNames) = some node := by
    rw [find?_ofNames hroot hslash, hfollow]
  refine
    { isAbsolute := habs
      noDots := ?_
      normalize?_eq := ?_
      has := ?_
      find?_eq := ?_
      place?_eq := ?_ }
  · intro piece hmem
    rcases Path.eq_nil_or_mem_of_mem_pieces_ofNames hslash hmem with rfl | hname
    · decide
    · have hstep := (List.mem_filter.mp (Path.mem_normalNames hname).1).2
      exact ⟨fun hdot => of_decide_eq_true hstep (Or.inr hdot), (Path.mem_normalNames hname).2⟩
  · rw [Path.normalize?_of_isAbsolute habs, hkept]
  · rw [Disk.has, hfind]
    rfl
  · rw [hfind, h]
  · rw [hplace, (place?_of_find? hfind).1, filter_route habs,
      ← Path.normalNames_of_isAbsolute habs, hkept]

/-- The normal form of an absolute path that exists. -/
theorem exists_isNormalForm (hp : p.isAbsolute = true) (h : d.has p = true) :
    ∃ q, p.normalize? = some q ∧ d.IsNormalForm p q := by
  obtain ⟨node, hnode⟩ := Option.isSome_iff_exists.mp h
  exact ⟨_, Path.normalize?_of_isAbsolute hp, isNormalForm_ofNames hp hnode⟩

/-! ## Relative paths -/

theorem isAbsolute_cwdPath (d : Disk) : d.cwdPath.isAbsolute = true := rfl

theorem steps_cwdPath (hcwd : ∀ n ∈ d.cwd, Path.slash ∉ n) :
    d.cwdPath.steps = d.cwd.filter Path.isStep := by
  have hnil : Path.isStep [] = false := by decide
  rw [cwdPath, Path.steps, Path.pieces_ofNames hcwd, List.filter_cons, hnil]
  by_cases h : d.cwd = []
  · rw [if_pos h, h]
    decide
  · rw [if_neg h]
    rfl

/-- A relative path and the path below the directory in which it starts are looked up by the same
steps. -/
theorem filter_route_join_cwdPath (hcwd : ∀ n ∈ d.cwd, Path.slash ∉ n) (hp : p.isAbsolute = false) :
    (d.route (d.cwdPath.join p)).filter Path.isStep = (d.route p).filter Path.isStep := by
  rw [filter_route (Path.isAbsolute_join_of_isAbsolute d.isAbsolute_cwdPath p),
    Path.steps_join hp, steps_cwdPath hcwd, route, hp, if_neg Bool.false_ne_true,
    List.filter_append]
  rfl

theorem find?_join_cwdPath (hcwd : ∀ n ∈ d.cwd, Path.slash ∉ n) (hp : p.isAbsolute = false)
    (hne : p.octets ≠ []) : d.find? (d.cwdPath.join p) = d.find? p := by
  have habs := d.isAbsolute_cwdPath
  rw [find?_join_eq_follow d hp (Path.octets_ne_nil_of_isAbsolute habs), if_pos habs,
    List.nil_append, steps_cwdPath hcwd, ← Node.follow_append_eq _ (Path.pieces_ne_nil p),
    find?_eq_follow_route hne, route, hp, if_neg Bool.false_ne_true]

/-- A path that exists has a normal form, which is that of the absolute path to it. -/
theorem exists_isNormalForm_join (hcwd : ∀ n ∈ d.cwd, Path.slash ∉ n) (h : d.has p = true) :
    ∃ q, (d.cwdPath.join p).normalize? = some q ∧ d.IsNormalForm p q := by
  cases hp : p.isAbsolute with
  | true =>
      rw [Path.join_of_isAbsolute _ hp]
      exact exists_isNormalForm hp h
  | false =>
      obtain ⟨node, hnode⟩ := Option.isSome_iff_exists.mp h
      have hfind := find?_join_cwdPath hcwd hp (octets_ne_nil_of_find? hnode)
      have hhas : d.has (d.cwdPath.join p) = true := by rwa [Disk.has, hfind]
      obtain ⟨q, hq, hform⟩ :=
        exists_isNormalForm (Path.isAbsolute_join_of_isAbsolute d.isAbsolute_cwdPath p) hhas
      have hplace : d.place? (d.cwdPath.join p) = d.place? p := by
        rw [(place?_of_find? (hfind.trans hnode)).1, (place?_of_find? hnode).1,
          filter_route_join_cwdPath hcwd hp]
      exact ⟨q, hq, { hform with
        find?_eq := hform.find?_eq.trans hfind
        place?_eq := hform.place?_eq.trans hplace }⟩

end Disk

namespace Config

/-! ## The main file -/

/-- The paths under which the main file is looked for, in order. -/
def mainCandidates (c : Config) : List Path :=
  match c.mainPath with
  | none => []
  | some path => path :: (c.workspaceRoots.head?.map (·.join path)).toList

variable {c : Config} {d : Disk}

/-- The main file is the first candidate that exists, in its normal form. -/
theorem resolveMainPath_eq (hroots : ∀ root ∈ c.workspaceRoots, root.isAbsolute = true) :
    c.resolveMainPath d =
      match c.mainPath, c.mainCandidates.find? d.has with
      | none, _ => .ok none
      | some _, some tested => .ok (d.cwdPath.join tested).normalize?
      | some path, none => .error (.mainPathNotFound path c.workspaceRoots.head?) := by
  cases hmain : c.mainPath with
  | none => simp only [resolveMainPath, hmain]
  | some path =>
      simp only [resolveMainPath, mainCandidates, hmain, List.find?_cons]
      cases hhas : d.has path with
      | true => rfl
      | false =>
          cases hroot : c.workspaceRoots.head? with
          | none => rfl
          | some root =>
              have habs := Path.isAbsolute_join_of_isAbsolute
                (hroots root (List.mem_of_mem_head? hroot)) path
              simp only [Option.map_some, Option.toList_some, List.find?_cons]
              cases hbelow : d.has (root.join path) with
              | true => simp [Path.join_of_isAbsolute _ habs]
              | false => simp

/-- A candidate that exists is found in its normal form. -/
theorem exists_resolveMainPath_eq (hroots : ∀ root ∈ c.workspaceRoots, root.isAbsolute = true)
    (hcwd : ∀ n ∈ d.cwd, Path.slash ∉ n) {tested : Path}
    (h : c.mainCandidates.find? d.has = some tested) :
    ∃ q, c.resolveMainPath d = .ok (some q) ∧ d.IsNormalForm tested q := by
  obtain ⟨q, hq, hform⟩ := Disk.exists_isNormalForm_join hcwd (List.find?_some h)
  refine ⟨q, ?_, hform⟩
  rw [resolveMainPath_eq hroots, h]
  cases hmain : c.mainPath with
  | none => simp [mainCandidates, hmain] at h
  | some path => exact congrArg Except.ok hq

theorem exists_candidate_of_resolveMainPath
    (hroots : ∀ root ∈ c.workspaceRoots, root.isAbsolute = true) {q : Path}
    (h : c.resolveMainPath d = .ok (some q)) :
    ∃ tested, c.mainCandidates.find? d.has = some tested := by
  rw [resolveMainPath_eq hroots] at h
  cases htested : c.mainCandidates.find? d.has with
  | some tested => exact ⟨tested, rfl⟩
  | none =>
      rw [htested] at h
      cases hmain : c.mainPath with
      | none =>
          rw [hmain] at h
          cases h
      | some path =>
          rw [hmain] at h
          cases h

end Config

/-- The normal form of an absolute path that exists is absolute and its own normal form, has neither
`.` nor `..` in it, and names what the path names. Therefore the main file, wherever it is found, is
found under an absolute normal form of the first candidate that exists, as long as the workspace
folders are absolute. -/
theorem Disk.normalize?_keeps_file (d : Disk) :
    (∀ p : Path, p.isAbsolute = true → d.has p = true →
        ∃ q, p.normalize? = some q ∧ d.IsNormalForm p q) ∧
      ((∀ n ∈ d.cwd, Path.slash ∉ n) →
        ∀ c : Config, (∀ root ∈ c.workspaceRoots, root.isAbsolute = true) →
          (∀ q, c.resolveMainPath d = .ok (some q) →
            ∃ tested, c.mainCandidates.find? d.has = some tested ∧ d.IsNormalForm tested q) ∧
          ∀ tested, c.mainCandidates.find? d.has = some tested →
            ∃ q, c.resolveMainPath d = .ok (some q) ∧ d.IsNormalForm tested q) := by
  refine ⟨fun p hp h => exists_isNormalForm hp h, ?_⟩
  intro hcwd c hroots
  refine ⟨?_, fun tested h => Config.exists_resolveMainPath_eq hroots hcwd h⟩
  intro q hq
  obtain ⟨tested, htested⟩ := Config.exists_candidate_of_resolveMainPath hroots hq
  obtain ⟨q', hq', hform⟩ := Config.exists_resolveMainPath_eq hroots hcwd htested
  rw [hq] at hq'
  obtain rfl : q = q' := Option.some.inj (Except.ok.inj hq')
  exact ⟨tested, htested, hform⟩

/-- A path that goes up and down and the relative main path both come to the file next to the
directory they pass. -/
theorem Disk.normalize?_keeps_file_past_directory :
    let f : FileName := Text.octets "f.sp".toList
    let d : Disk := ⟨.dir [([97], .dir [([98], .dir []), (f, .file (some ""))])], [[97]]⟩
    let p : Path := .ofString "/../a//b/.././f.sp"
    let c : Config := { mainPath := some (.ofString "b/../f.sp") }
    (p.isAbsolute = true ∧ d.has p = true ∧
        ∃ q, p.normalize? = some q ∧ d.IsNormalForm p q) ∧
      (∀ n ∈ d.cwd, Path.slash ∉ n) ∧ (∀ root ∈ c.workspaceRoots, root.isAbsolute = true) ∧
      ∃ tested, c.mainCandidates.find? d.has = some tested ∧
        ∃ q, c.resolveMainPath d = .ok (some q) ∧ d.IsNormalForm tested q := by
  intro f d p c
  have hp : p.isAbsolute = true := by decide
  have hhas : d.has p = true := by decide
  have hcwd : ∀ n ∈ d.cwd, Path.slash ∉ n := by decide
  have hroots : ∀ root ∈ c.workspaceRoots, root.isAbsolute = true := by simp [c]
  have htested : c.mainCandidates.find? d.has = some (.ofString "b/../f.sp") := by decide
  obtain ⟨habsolute, hmain⟩ := d.normalize?_keeps_file
  exact ⟨⟨hp, hhas, habsolute p hp hhas⟩, hcwd, hroots, _, htested,
    (hmain hcwd c hroots).2 _ htested⟩

end PawnScope
