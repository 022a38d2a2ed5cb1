import PawnScope.Proofs.Disk.Normalization
import Mathlib.Data.List.Induction

/-! # Writing files into a directory

A write changes the disk at one place, found by the names that a path leaves when its parent steps
are resolved. Where files are written into an empty directory, every directory of the disk stays
what it is, so a path still goes through the same directories. So whoever looks the directory up, by
its own path or by another with the same steps, finds the files that were written and no others. -/

namespace PawnScope

namespace Node

/-! ## Names alone -/

/-- The node to which a chain of names leads. -/
def descend : List FileName → Node → Option Node
  | [], here => some here
  | _ :: _, .file _ => none
  | n :: rest, .dir entries => entry? entries n |>.bind (descend rest)

theorem descend_append (front back : List FileName) (here : Node) :
    descend (front ++ back) here = (descend front here).bind (descend back) := by
  induction front generalizing here with
  | nil => rfl
  | cons n front ih =>
      cases here with
      | file text => rfl
      | dir entries =>
          simp only [List.cons_append, descend, Option.bind_assoc]
          exact congrArg (Option.bind _) (funext ih)

/-- Names that do not go up are followed as they stand. -/
theorem follow_eq_descend {ns : List FileName}
    (h : ∀ n ∈ ns, Path.isStep n = true ∧ n ≠ Path.dotDot) (above : List Node) (here : Node) :
    follow ns above here = descend ns here := by
  induction ns generalizing above here with
  | nil => rfl
  | cons n ns ih =>
      rw [List.forall_mem_cons] at h
      have hskip : ¬(n = [] ∨ n = Path.dot) := of_decide_eq_true h.1.1
      cases here with
      | file text => rfl
      | dir entries =>
          simp only [follow, if_neg hskip, if_neg h.1.2, descend]
          cases entry? entries n with
          | none => rfl
          | some node => exact ih h.2 _ node

theorem Leads.descend_eq {root here : Node} {trail : List (FileName × Node)}
    (h : Leads root trail here) : descend (trail.map (·.1)).reverse root = some here := by
  induction h with
  | start => rfl
  | @enter trail entries n node earlier step down found ih =>
      rw [List.map_cons, List.reverse_cons, descend_append, ih, Option.bind_some, descend, found]
      rfl

/-! ## Changes at a place -/

/-- Changes the node at the end of a chain of names and makes the directories on the way. -/
def alter (change : Option Node → Node) : List FileName → Option Node → Node
  | [], node => change node
  | n :: rest, some (.dir entries) => .dir (modifyEntry entries n (alter change rest))
  | n :: rest, _ => .dir [(n, alter change rest none)]

/-- A family of changes that goes down a path as `alter` does makes its last change at the end. -/
theorem eq_alter (change : List FileName → Option Node → Node)
    (hnone : ∀ n rest, change (n :: rest) none = .dir [(n, change rest none)])
    (hfile : ∀ n rest text, change (n :: rest) (some (.file text)) = .dir [(n, change rest none)])
    (hdir : ∀ n rest entries, change (n :: rest) (some (.dir entries)) =
      .dir (modifyEntry entries n (change rest))) (ns : List FileName) :
    change ns = alter (change []) ns := by
  induction ns with
  | nil => rfl
  | cons n ns ih =>
      funext node
      cases node with
      | none => simp only [hnone, alter, ih]
      | some node =>
          cases node with
          | file text => simp only [hfile, alter, ih]
          | dir entries => simp only [hdir, alter, ih]

theorem put_append (front back : List FileName) (content : Node) :
    put (front ++ back) content = alter (put back content) front :=
  eq_alter (fun ns => put (ns ++ back) content) (fun _ _ => rfl) (fun _ _ _ => rfl)
    (fun _ _ _ => rfl) front

theorem makeDir_eq_alter (ns : List FileName) : makeDir ns = alter (makeDir []) ns :=
  eq_alter makeDir (fun _ _ => rfl) (fun _ _ _ => rfl) (fun _ _ _ => rfl) ns

theorem modifyEntry_modifyEntry (entries : List (FileName × Node)) (n : FileName)
    (first second : Option Node → Node) :
    modifyEntry (modifyEntry entries n first) n second =
      modifyEntry entries n fun node => second (some (first node)) := by
  induction entries with
  | nil => simp [modifyEntry]
  | cons e entries ih =>
      by_cases h : e.1 = n
      · simp [modifyEntry, h]
      · simp [modifyEntry, h, ih]

/-- Two changes at one place are one change. -/
theorem alter_alter (first second : Option Node → Node) (ns : List FileName) (node : Option Node) :
    alter second ns (some (alter first ns node)) =
      alter (fun node => second (some (first node))) ns node := by
  induction ns generalizing node with
  | nil => rfl
  | cons n ns ih =>
      have hnew : alter second (n :: ns) (some (.dir [(n, alter first ns none)])) =
          .dir [(n, alter (fun node => second (some (first node))) ns none)] := by
        simp [alter, modifyEntry, ih]
      cases node with
      | none => exact hnew
      | some node =>
          cases node with
          | file text => exact hnew
          | dir entries => simp only [alter, modifyEntry_modifyEntry, ih]

theorem entry?_modifyEntry (entries : List (FileName × Node)) (n m : FileName)
    (change : Option Node → Node) :
    entry? (modifyEntry entries n change) m =
      if n = m then some (change <| entry? entries n) else entry? entries m := by
  induction entries with
  | nil => simp [modifyEntry, entry?]
  | cons e entries ih =>
      by_cases hen : e.1 = n
      · by_cases hnm : n = m
        · simp [modifyEntry, entry?, hen, hnm]
        · simp [modifyEntry, entry?, hen, hnm]
      · by_cases hnm : n = m
        · subst hnm
          simp [modifyEntry, entry?, hen, ih]
        · simp [modifyEntry, entry?, hen, ih, hnm]

variable {change : Option Node → Node} {root root' : Node} {ns : List FileName}

/-- A node that is changed is found changed. -/
theorem descend_alter {old : Node} (h : descend ns root = some old) :
    descend ns (alter change ns (some root)) = some (change (some old)) := by
  induction ns generalizing root with
  | nil =>
      obtain rfl := Option.some.inj h
      rfl
  | cons n ns ih =>
      cases root with
      | file text => cases h
      | dir entries =>
          obtain ⟨node, hnode, hrest⟩ := Option.bind_eq_some_iff.mp h
          rw [alter, descend, entry?_modifyEntry, if_pos rfl, hnode, Option.bind_some, ih hrest]

/-- Every directory of one tree is a directory of the other under the same names. -/
def KeepsDirectories (root root' : Node) : Prop :=
  ∀ ns entries, descend ns root = some (.dir entries) →
    ∃ entries', descend ns root' = some (.dir entries')

/-- What is made of an empty directory hides no other directory. -/
theorem keepsDirectories_alter {entries : List (FileName × Node)}
    (h : descend ns root = some (.dir [])) (hchange : change (some (.dir [])) = .dir entries) :
    KeepsDirectories root (alter change ns (some root)) := by
  induction ns generalizing root with
  | nil =>
      obtain rfl := Option.some.inj h
      intro ms inner hms
      cases ms with
      | nil => exact ⟨entries, by rw [alter, hchange]; rfl⟩
      | cons m ms => cases hms
  | cons n ns ih =>
      cases root with
      | file text => cases h
      | dir siblings =>
          obtain ⟨node, hnode, hrest⟩ := Option.bind_eq_some_iff.mp h
          intro ms inner hms
          cases ms with
          | nil => exact ⟨_, rfl⟩
          | cons m ms =>
              obtain ⟨next, hnext, hms⟩ := Option.bind_eq_some_iff.mp hms
              rw [alter, descend, entry?_modifyEntry]
              by_cases hnm : n = m
              · subst hnm
                rw [hnode] at hnext
                obtain rfl := Option.some.inj hnext
                rw [if_pos rfl, hnode, Option.bind_some]
                exact ih hrest ms inner hms
              · rw [if_neg hnm, hnext, Option.bind_some]
                exact ⟨inner, hms⟩

theorem KeepsDirectories.exists_of_leads (h : KeepsDirectories root root')
    {trail trail' : List (FileName × Node)} {entries : List (FileName × Node)} {here' : Node}
    (hleads : Leads root trail (.dir entries)) (hleads' : Leads root' trail' here')
    (hnames : trail'.map (·.1) = trail.map (·.1)) : ∃ entries', here' = .dir entries' := by
  obtain ⟨entries', hentries'⟩ := h _ _ hleads.descend_eq
  rw [← hnames, hleads'.descend_eq] at hentries'
  exact ⟨entries', Option.some.inj hentries'⟩

theorem exists_dir_of_follow {pieces : List FileName} {above : List Node} {here : Node}
    {entries : List (FileName × Node)} (h : follow pieces above here = some (.dir entries)) :
    ∃ inner, here = .dir inner := by
  cases here with
  | dir inner => exact ⟨inner, rfl⟩
  | file text =>
      cases pieces with
      | nil => cases h
      | cons piece pieces => cases h

/-- A path that leads to a directory goes through directories only, and through the same ones where
they are kept. -/
theorem KeepsDirectories.exists_follow (h : KeepsDirectories root root')
    {pieces : List FileName} {trail trail' : List (FileName × Node)} {here here' : Node}
    {entries : List (FileName × Node)} (hleads : Leads root trail here)
    (hleads' : Leads root' trail' here') (hnames : trail'.map (·.1) = trail.map (·.1))
    (hfollow : follow pieces (trail.map (·.2)) here = some (.dir entries)) :
    ∃ entries', follow pieces (trail'.map (·.2)) here' = some (.dir entries') := by
  induction pieces generalizing trail trail' here here' with
  | nil =>
      obtain rfl := Option.some.inj hfollow
      obtain ⟨entries', rfl⟩ := h.exists_of_leads hleads hleads' hnames
      exact ⟨entries', rfl⟩
  | cons piece pieces ih =>
      obtain ⟨inner, rfl⟩ := exists_dir_of_follow hfollow
      obtain ⟨inner', rfl⟩ := h.exists_of_leads hleads hleads' hnames
      simp only [follow] at hfollow ⊢
      by_cases hskip : piece = [] ∨ piece = Path.dot
      · rw [if_pos hskip] at hfollow ⊢
        exact ih hleads hleads' hnames hfollow
      · rw [if_neg hskip] at hfollow ⊢
        by_cases hup : piece = Path.dotDot
        · rw [if_pos hup] at hfollow ⊢
          cases hleads with
          | start =>
              cases hleads' with
              | start => exact ih .start .start rfl hfollow
              | enter _ _ _ _ => cases hnames
          | enter earlier _ _ _ =>
              cases hleads' with
              | start => cases hnames
              | enter earlier' _ _ _ =>
                  exact ih earlier earlier' (List.cons.inj hnames).2 hfollow
        · rw [if_neg hup] at hfollow ⊢
          cases hentry : entry? inner piece with
          | none =>
              rw [hentry] at hfollow
              cases hfollow
          | some next =>
              rw [hentry] at hfollow
              have hstep : Path.isStep piece = true := decide_eq_true hskip
              have hnext := Leads.enter hleads hstep hup hentry
              obtain ⟨deeper, rfl⟩ := exists_dir_of_follow hfollow
              -- The directory that was entered is kept, so its name leads to one now.
              obtain ⟨deeper', hdeeper'⟩ := h _ _ hnext.descend_eq
              rw [List.map_cons, List.reverse_cons, ← hnames, descend_append, hleads'.descend_eq,
                Option.bind_some, descend] at hdeeper'
              obtain ⟨node, hnode, hend⟩ := Option.bind_eq_some_iff.mp hdeeper'
              obtain rfl := Option.some.inj hend
              rw [hnode]
              have hnext' := Leads.enter hleads' hstep hup hnode
              exact ih hnext hnext' (by simp [hnames]) hfollow

/-! ## A new directory -/

/-- Adds entries to a directory, one after the other. -/
def withFiles (files : List (FileName × Node)) (node : Option Node) : Node :=
  files.foldl (fun here f => put [f.1] f.2 (some here)) (makeDir [] node)

theorem modifyEntry_of_notMem {entries : List (FileName × Node)} {n : FileName}
    (h : n ∉ entries.map (·.1)) (change : Option Node → Node) :
    modifyEntry entries n change = entries ++ [(n, change none)] := by
  induction entries with
  | nil => rfl
  | cons e entries ih =>
      rw [List.map_cons, List.mem_cons, not_or] at h
      rw [modifyEntry, if_neg (Ne.symm h.1), ih h.2, List.cons_append]

theorem foldl_put_dir {entries files : List (FileName × Node)}
    (h : ((entries ++ files).map (·.1)).Nodup) :
    files.foldl (fun here f => put [f.1] f.2 (some here)) (.dir entries) =
      .dir (entries ++ files) := by
  induction files generalizing entries with
  | nil => rw [List.foldl_nil, List.append_nil]
  | cons f files ih =>
      have hnew : f.1 ∉ entries.map (·.1) := by
        rw [List.map_append, List.nodup_append] at h
        exact fun hmem => h.2.2 f.1 hmem f.1 List.mem_cons_self rfl
      have hput : put [f.1] f.2 (some (.dir entries)) = .dir (entries ++ [f]) := by
        rw [put, modifyEntry_of_notMem hnew]
        rfl
      rw [List.foldl_cons, hput, ih (by simpa using h), List.append_assoc, List.singleton_append]

theorem withFiles_empty {files : List (FileName × Node)} (h : (files.map (·.1)).Nodup) :
    withFiles files (some (.dir [])) = .dir files :=
  foldl_put_dir (by simpa using h)

theorem entry?_of_mem {entries : List (FileName × Node)} (h : (entries.map (·.1)).Nodup)
    {e : FileName × Node} (he : e ∈ entries) : entry? entries e.1 = some e.2 := by
  induction entries with
  | nil => cases he
  | cons d entries ih =>
      rw [List.map_cons, List.nodup_cons] at h
      unfold entry?
      rcases List.mem_cons.mp he with rfl | he
      · rw [if_pos rfl]
      · have hne : d.1 ≠ e.1 := fun heq => h.1 (heq ▸ List.mem_map_of_mem he)
        rw [if_neg hne, ih h.2 he]

/-! ## Paths to directories -/

/-- Pieces that go nowhere do not matter on the way to a directory. -/
theorem follow_of_filter {pieces : List FileName} {above : List Node} {here : Node}
    {entries : List (FileName × Node)}
    (h : follow (pieces.filter Path.isStep) above here = some (.dir entries)) :
    follow pieces above here = some (.dir entries) := by
  induction pieces generalizing above here with
  | nil => exact h
  | cons piece pieces ih =>
      obtain ⟨inner, rfl⟩ := exists_dir_of_follow h
      by_cases hskip : piece = [] ∨ piece = Path.dot
      · have hs : Path.isStep piece = false := decide_eq_false (not_not_intro hskip)
        rw [List.filter_cons_of_neg (by simp [hs])] at h
        simp only [follow, if_pos hskip]
        exact ih h
      · have hs : Path.isStep piece = true := decide_eq_true hskip
        rw [List.filter_cons_of_pos hs] at h
        simp only [follow, if_neg hskip] at h ⊢
        by_cases hup : piece = Path.dotDot
        · rw [if_pos hup] at h ⊢
          cases above with
          | nil => exact ih h
          | cons parent higher => exact ih h
        · rw [if_neg hup] at h ⊢
          cases hentry : entry? inner piece with
          | none =>
              rw [hentry] at h
              cases h
          | some next =>
              rw [hentry] at h
              exact ih h

/-- The entry to which a path leads that goes on from a directory by a name. -/
theorem follow_concat {pieces : List FileName} {above : List Node} {here : Node}
    {entries : List (FileName × Node)} {n : FileName}
    (h : follow pieces above here = some (.dir entries)) (hstep : Path.isStep n = true)
    (hdown : n ≠ Path.dotDot) : follow (pieces ++ [n]) above here = entry? entries n := by
  have hskip : ¬(n = [] ∨ n = Path.dot) := of_decide_eq_true hstep
  fun_induction follow pieces above here with
  | case1 above here =>
      obtain rfl := Option.some.inj h
      simp only [List.nil_append, follow, if_neg hskip, if_neg hdown]
      cases entry? entries n with
      | none => rfl
      | some node => rfl
  | case2 => cases h
  | case3 piece rest above entries hpiece ih => simpa [follow, hpiece] using ih h
  | case4 rest entries hpiece ih => simpa [follow, hpiece] using ih h
  | case5 rest entries parent higher hpiece ih => simpa [follow, hpiece] using ih h
  | case6 piece rest above entries hpiece hup hentry => cases h
  | case7 piece rest above entries hpiece hup next hentry ih =>
      simpa [follow, hpiece, hup, hentry] using ih h

end Node

namespace Disk

/-- A name that an entry of a directory can have. -/
structure IsEntryName (n : FileName) : Prop where
  isStep : Path.isStep n = true
  ne_dotDot : n ≠ Path.dotDot
  slash_notMem : Path.slash ∉ n

theorem IsEntryName.pieces_eq {n : FileName} (h : IsEntryName n) : (⟨n⟩ : Path).pieces = [n] :=
  List.splitOn_eq_singleton h.slash_notMem

theorem IsEntryName.steps_eq {n : FileName} (h : IsEntryName n) : (⟨n⟩ : Path).steps = [n] := by
  simp [Path.steps, h.pieces_eq, h.isStep]

theorem IsEntryName.isAbsolute_eq {n : FileName} (h : IsEntryName n) :
    (⟨n⟩ : Path).isAbsolute = false := by
  rw [Path.isAbsolute, beq_eq_false_iff_ne]
  exact fun hhead => h.slash_notMem (List.mem_of_head? hhead)

/-- Writes files into a directory, which is made unless it is there. -/
def writeFiles (d : Disk) (directory : Path) (files : List (FileName × Node)) : Disk :=
  files.foldl (fun d f => d.writeFile (directory.join ⟨f.1⟩) f.2) (d.makeDir directory)

variable {d : Disk} {p q : Path} {files : List (FileName × Node)}

theorem chain_of_isAbsolute (hp : p.isAbsolute = true) : d.chain p = p.normalNames := by
  rw [chain, Path.join_of_isAbsolute _ hp]
  rfl

theorem chain_join (hp : p.isAbsolute = true) {n : FileName} (hn : IsEntryName n) :
    d.chain (p.join ⟨n⟩) = p.normalNames ++ [n] := by
  have habs := Path.isAbsolute_join_of_isAbsolute hp ⟨n⟩
  rw [chain_of_isAbsolute habs, Path.normalNames_of_isAbsolute habs,
    Path.normalNames_of_isAbsolute hp, Path.steps_join hn.isAbsolute_eq, hn.steps_eq,
    List.foldl_append]
  simp [Path.takeName, hn.ne_dotDot]

/-- All writes into a directory change the disk at one place. -/
theorem writeFiles_eq (hp : p.isAbsolute = true) (hnames : ∀ f ∈ files, IsEntryName f.1) :
    d.writeFiles p files =
      ⟨Node.alter (Node.withFiles files) p.normalNames (some d.root), d.cwd⟩ := by
  induction files using List.reverseRecOn with
  | nil =>
      rw [writeFiles, List.foldl_nil, makeDir, chain_of_isAbsolute hp, Node.makeDir_eq_alter]
      rfl
  | append_singleton files f ih =>
      have hfront : ∀ g ∈ files, IsEntryName g.1 :=
        fun g hg => hnames g (List.mem_append_left _ hg)
      have hlast : IsEntryName f.1 := hnames f (by simp)
      have hstep : d.writeFiles p (files ++ [f]) =
          (d.writeFiles p files).writeFile (p.join ⟨f.1⟩) f.2 := by
        rw [writeFiles, List.foldl_append]
        rfl
      have hwith : Node.withFiles (files ++ [f]) =
          fun node => Node.put [f.1] f.2 (some (Node.withFiles files node)) := by
        funext node
        rw [Node.withFiles, List.foldl_append]
        rfl
      rw [hstep, ih hfront, writeFile, chain_join hp hlast, Node.put_append, Node.alter_alter,
        hwith]

/-- What an absolute path names is what the names of its normal form lead to. -/
theorem descend_of_find? (hp : p.isAbsolute = true) {node : Node} (h : d.find? p = some node) :
    Node.descend p.normalNames d.root = some node := by
  have hnames : ∀ n ∈ p.normalNames, Path.isStep n = true ∧ n ≠ Path.dotDot := by
    intro n hn
    obtain ⟨hstep, hup⟩ := Path.mem_normalNames hn
    exact ⟨(List.mem_filter.mp hstep).2, hup⟩
  obtain ⟨-, hfollow⟩ := place?_of_find? h
  rwa [filter_route hp, ← Path.normalNames_of_isAbsolute hp,
    Node.follow_eq_descend hnames] at hfollow

theorem find?_dir_of_keepsDirectories {d' : Disk} (hcwd : d'.cwd = d.cwd)
    (h : Node.KeepsDirectories d.root d'.root) {entries : List (FileName × Node)}
    (hp : d.find? p = some (.dir entries)) : ∃ entries', d'.find? p = some (.dir entries') := by
  have hne := octets_ne_nil_of_find? hp
  rw [find?_eq_follow_route hne] at hp ⊢
  rw [route, hcwd, ← route]
  exact h.exists_follow .start .start rfl hp

/-- A directory is found under every absolute path that takes the same steps. -/
theorem find?_dir_of_alike (h : p.Alike q) (hp : p.isAbsolute = true)
    {entries : List (FileName × Node)} (hfind : d.find? p = some (.dir entries)) :
    d.find? q = some (.dir entries) := by
  have hq : q.isAbsolute = true := h.1 ▸ hp
  obtain ⟨-, -, hfollow⟩ := follow_steps_of_find? hp hfind
  rw [h.2] at hfollow
  rw [find?_of_isAbsolute d hq]
  exact Node.follow_of_filter hfollow

theorem find?_join_of_dir (hp : p.isAbsolute = true) {entries : List (FileName × Node)}
    (hfind : d.find? p = some (.dir entries)) {n : FileName} (hn : IsEntryName n) :
    d.find? (p.join ⟨n⟩) = Node.entry? entries n := by
  obtain ⟨-, -, hfollow⟩ := follow_steps_of_find? hp hfind
  rw [find?_join_eq_follow d hn.isAbsolute_eq (Path.octets_ne_nil_of_isAbsolute hp), if_pos hp,
    List.nil_append, hn.pieces_eq]
  exact Node.follow_concat hfollow hn.isStep hn.ne_dotDot

/-- After files have been written into an empty directory, it holds these files. -/
theorem find?_writeFiles (hp : p.isAbsolute = true) (hempty : d.find? p = some (.dir []))
    (hnames : ∀ f ∈ files, IsEntryName f.1) (hnodup : (files.map (·.1)).Nodup) :
    (d.writeFiles p files).find? p = some (.dir files) := by
  have hwith := Node.withFiles_empty hnodup
  have hold := descend_of_find? hp hempty
  have hkeeps : Node.KeepsDirectories d.root (d.writeFiles p files).root := by
    rw [writeFiles_eq hp hnames]
    exact Node.keepsDirectories_alter hold hwith
  have hcwd : (d.writeFiles p files).cwd = d.cwd := by rw [writeFiles_eq hp hnames]
  obtain ⟨entries, hentries⟩ := find?_dir_of_keepsDirectories hcwd hkeeps hempty
  have hnew := descend_of_find? hp hentries
  rw [writeFiles_eq hp hnames, Node.descend_alter hold, hwith] at hnew
  rw [hentries, hnew]

/-! ## The files of a directory -/

/-- A file as an entry of a directory. -/
def entry (f : FileName × String) : FileName × Node := (f.1, .file (some f.2))

/-- Below a directory that holds files only, there are these files. -/
theorem filesBelow_of_files {texts : List (FileName × String)}
    (h : d.find? q = some (.dir (texts.map entry))) :
    d.filesBelow q = texts.map fun f => q.join ⟨f.1⟩ := by
  have hfiles : ∀ texts : List (FileName × String),
      Node.files (.dir (texts.map entry)) = texts.map fun f => ([f.1], some f.2) := by
    intro texts
    induction texts with
    | nil => rfl
    | cons f texts ih =>
        rw [Node.files] at ih ⊢
        rw [List.map_cons, entry, Node.entryFiles, Node.files, ih]
        rfl
  rw [filesBelow, h]
  simp [hfiles]

theorem readText?_of_files (hq : q.isAbsolute = true) {texts : List (FileName × String)}
    (h : d.find? q = some (.dir (texts.map entry))) (hnodup : (texts.map (·.1)).Nodup)
    {f : FileName × String} (hf : f ∈ texts) (hname : IsEntryName f.1) :
    d.readText? (q.join ⟨f.1⟩) = some f.2 := by
  have hentry : Node.entry? (texts.map entry) f.1 = some (.file (some f.2)) := by
    have hkeys : ((texts.map entry).map (·.1)).Nodup := by
      simpa [Function.comp_def, entry] using hnodup
    exact Node.entry?_of_mem hkeys (List.mem_map_of_mem hf)
  rw [readText?, find?_join_of_dir hq h hname, hentry]

end Disk

end PawnScope
