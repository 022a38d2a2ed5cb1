import PawnScope.Disk
import PawnScope.Proofs.Path.Steps

/-! # Looking up paths

What is found on a disk depends on the steps that a path takes, and whatever can be read is the
text of one of the finitely many files. -/

namespace PawnScope

namespace Node

/-! ## Steps -/

/-- Pieces that go nowhere make no difference in front of others. -/
theorem follow_append_eq (front : List FileName) {back : List FileName} (hback : back ≠ [])
    (above : List Node) (here : Node) :
    follow (front ++ back) above here = follow (front.filter Path.isStep ++ back) above here := by
  induction front generalizing above here with
  | nil => rfl
  | cons piece front ih =>
      cases here with
      | file text =>
          obtain ⟨b, rest, hb⟩ := List.exists_cons_of_ne_nil
            (List.append_ne_nil_of_right_ne_nil ((piece :: front).filter Path.isStep) hback)
          rw [hb]
          rfl
      | dir entries =>
          by_cases hskip : piece = [] ∨ piece = Path.dot
          · have hs : Path.isStep piece = false := decide_eq_false (not_not_intro hskip)
            simp [follow, hskip, hs, ih]
          · have hs : Path.isStep piece = true := decide_eq_true hskip
            simp [follow, hskip, hs, ih]

/-- A path that leads somewhere leads there also without the pieces that go nowhere. -/
theorem follow_filter_of_eq_some {pieces : List FileName} {above : List Node} {here node : Node}
    (h : follow pieces above here = some node) :
    follow (pieces.filter Path.isStep) above here = some node := by
  fun_induction follow pieces above here with
  | case1 above here => exact h
  | case2 => cases h
  | case3 piece rest above entries hskip ih =>
      have hs : Path.isStep piece = false := decide_eq_false (not_not_intro hskip)
      simpa [hs] using ih h
  | case4 rest entries hskip ih =>
      have hs : Path.isStep Path.dotDot = true := decide_eq_true hskip
      simpa [hs, follow, hskip] using ih h
  | case5 rest entries parent higher hskip ih =>
      have hs : Path.isStep Path.dotDot = true := decide_eq_true hskip
      simpa [hs, follow, hskip] using ih h
  | case6 piece rest above entries hskip hup hentry => cases h
  | case7 piece rest above entries hskip hup next hentry ih =>
      have hs : Path.isStep piece = true := decide_eq_true hskip
      simpa [hs, follow, hskip, hup, hentry] using ih h

/-! ## Texts -/

/-- The texts of the files at and below a node. -/
def texts (node : Node) : List String := node.files.filterMap (·.2)

theorem texts_subset_of_entry_eq_some {entries : List (FileName × Node)} {n : FileName}
    {node : Node} (h : entry? entries n = some node) : node.texts ⊆ (dir entries).texts := by
  induction entries with
  | nil => cases h
  | cons e entries ih =>
      obtain ⟨m, first⟩ := e
      unfold entry? at h
      have hcons : (dir ((m, first) :: entries)).texts = first.texts ++ (dir entries).texts := by
        rw [texts, files, entryFiles, List.filterMap_append, List.filterMap_map]
        rfl
      rw [hcons]
      by_cases hm : m = n
      · rw [if_pos hm] at h
        obtain rfl := Option.some.inj h
        exact List.subset_append_left _ _
      · rw [if_neg hm] at h
        exact List.Subset.trans (ih h) (List.subset_append_right _ _)

/-- A path leads to no text that is not among those of its start and, if it goes up, of the
directories around it. -/
theorem texts_subset_of_follow {pieces : List FileName} {above : List Node} {here node : Node}
    {all : List String} (h : follow pieces above here = some node)
    (habove : Path.dotDot ∈ pieces → ∀ a ∈ above, a.texts ⊆ all) (hhere : here.texts ⊆ all) :
    node.texts ⊆ all := by
  fun_induction follow pieces above here with
  | case1 above here =>
      obtain rfl := Option.some.inj h
      exact hhere
  | case2 => cases h
  | case3 piece rest above entries hskip ih =>
      exact ih h (fun hup => habove (List.mem_cons_of_mem piece hup)) hhere
  | case4 rest entries hskip ih => exact ih h (by simp) hhere
  | case5 rest entries parent higher hskip ih =>
      have hall := habove List.mem_cons_self
      exact ih h (fun _ a ha => hall a (List.mem_cons_of_mem parent ha))
        (hall parent List.mem_cons_self)
  | case6 piece rest above entries hskip hup hentry => cases h
  | case7 piece rest above entries hskip hup next hentry ih =>
      refine ih h ?_ (List.Subset.trans (texts_subset_of_entry_eq_some hentry) hhere)
      intro hlater a ha
      rcases List.mem_cons.mp ha with rfl | ha
      · exact hhere
      · exact habove (List.mem_cons_of_mem piece hlater) a ha

end Node

namespace Disk

/-- Where a path is read from inside another, only the steps of the other count. -/
theorem find?_join_eq_follow (d : Disk) {p q : Path} (hq : q.isAbsolute = false)
    (hp : p.octets ≠ []) :
    d.find? (p.join q) =
      Node.follow ((if p.isAbsolute then [] else d.cwd.filter Path.isStep) ++ p.steps ++ q.pieces)
        [] d.root := by
  obtain ⟨front, hpieces, hfront⟩ := Path.exists_pieces_join (p := p) hq
  have hne := Path.octets_join_ne_nil hq hp
  rw [find?, if_neg hne, Path.isAbsolute_join hq hp, hpieces]
  cases p.isAbsolute with
  | true =>
      rw [if_pos rfl, if_pos rfl, Node.follow_append_eq front (Path.pieces_ne_nil q), hfront,
        List.nil_append]
  | false =>
      rw [if_neg Bool.false_ne_true, if_neg Bool.false_ne_true, ← List.append_assoc,
        Node.follow_append_eq _ (Path.pieces_ne_nil q), List.filter_append, hfront]

theorem has_join_eq_of_same (d : Disk) {p p' : Path} (h : p.same p' = true) (q : Path) :
    d.has (p.join q) = d.has (p'.join q) := by
  cases hq : q.isAbsolute with
  | true => simp [Path.join, hq]
  | false =>
      rcases Path.eq_or_alike_of_same h with rfl | ⟨hp, hp', halike⟩
      · rfl
      · rw [has, has, find?_join_eq_follow d hq hp, find?_join_eq_follow d hq hp', halike.1,
          halike.2]

/-- The texts of all files. -/
def texts (d : Disk) : List String := d.root.texts

theorem length_texts_le (d : Disk) : d.texts.length ≤ d.fileCount :=
  List.length_filterMap_le _ _

theorem readText?_eq_some_iff {d : Disk} {p : Path} {text : String} :
    d.readText? p = some text ↔ d.find? p = some (.file (some text)) := by
  constructor
  · intro h
    unfold readText? at h
    split at h
    · rename_i found hfound
      rw [hfound, h]
    · cases h
  · intro h
    rw [readText?, h]

theorem mem_texts_of_readText? {d : Disk} {p : Path} {text : String}
    (h : d.readText? p = some text) : text ∈ d.texts := by
  have hfind := readText?_eq_some_iff.mp h
  have hsub : (Node.file (some text)).texts ⊆ d.texts := by
    unfold find? at hfind
    split at hfind
    · cases hfind
    · split at hfind
      · exact Node.texts_subset_of_follow hfind (by simp) (List.Subset.refl _)
      · exact Node.texts_subset_of_follow hfind (by simp) (List.Subset.refl _)
  exact hsub (by simp [Node.texts, Node.files])

/-! ## Absolute paths -/

theorem find?_of_isAbsolute (d : Disk) {p : Path} (hp : p.isAbsolute = true) :
    d.find? p = Node.follow p.pieces [] d.root := by
  rw [find?, if_neg (Path.octets_ne_nil_of_isAbsolute hp), if_pos hp]

/-- An absolute path that names something takes its steps from a root that is a directory. -/
theorem follow_steps_of_find? {d : Disk} {p : Path} {node : Node} (hp : p.isAbsolute = true)
    (h : d.find? p = some node) :
    ∃ entries, d.root = .dir entries ∧ Node.follow p.steps [] d.root = some node := by
  rw [find?_of_isAbsolute d hp] at h
  obtain ⟨piece, pieces, hpieces⟩ := List.exists_cons_of_ne_nil (Path.pieces_ne_nil p)
  cases hroot : d.root with
  | file text =>
      rw [hroot, hpieces] at h
      cases h
  | dir entries =>
      rw [hroot] at h
      exact ⟨entries, rfl, Node.follow_filter_of_eq_some h⟩

/-- Whatever an absolute path names is also named by the path of its steps alone. -/
theorem find?_of_pieces {d : Disk} {p q : Path} {node : Node} (hp : p.isAbsolute = true)
    (hq : q.isAbsolute = true) (hpieces : q.pieces = [] :: p.steps)
    (h : d.find? p = some node) : d.find? q = some node := by
  obtain ⟨entries, hroot, hfollow⟩ := follow_steps_of_find? hp h
  rw [hroot] at hfollow
  rw [find?_of_isAbsolute d hq, hpieces, hroot, Node.follow, if_pos (Or.inl rfl)]
  exact hfollow

/-- There is no file under a path: no directory is there, or one that holds no file at any
depth. -/
def NothingUnder (d : Disk) (p : Path) : Prop :=
  ∀ entries, d.find? p = some (.dir entries) → (Node.dir entries).files = []

/-- Where there is no file under a name in the root, a path that goes on from there and never goes
up leads to no text. -/
theorem NothingUnder.readText?_eq_none {d : Disk} {n : FileName}
    (h : d.NothingUnder ⟨Path.slash :: n⟩) (hslash : Path.slash ∉ n)
    (hstep : Path.isStep n = true) (hn : n ≠ Path.dotDot) {q : Path} {rest : List FileName}
    (hq : q.isAbsolute = true) (hsteps : q.steps = n :: rest) (hrest : rest ≠ [])
    (hup : Path.dotDot ∉ rest) : d.readText? q = none := by
  cases ht : d.readText? q with
  | none => rfl
  | some text =>
      exfalso
      have hskip : ¬(n = [] ∨ n = Path.dot) := of_decide_eq_true hstep
      obtain ⟨entries, hroot, hfollow⟩ := follow_steps_of_find? hq (readText?_eq_some_iff.mp ht)
      have hpieces : (⟨Path.slash :: n⟩ : Path).pieces = [[], n] := by
        simp [Path.pieces, List.splitOn_cons_eq_if_modifyHead, List.splitOn_eq_singleton hslash]
      rw [hsteps, hroot, Node.follow, if_neg hskip, if_neg hn] at hfollow
      cases hentry : Node.entry? entries n with
      | none =>
          rw [hentry] at hfollow
          cases hfollow
      | some node =>
          rw [hentry] at hfollow
          have hfind : d.find? ⟨Path.slash :: n⟩ = some node := by
            rw [find?_of_isAbsolute d rfl, hpieces, hroot, Node.follow, if_pos (Or.inl rfl),
              Node.follow, if_neg hskip, if_neg hn, hentry]
            rfl
          cases node with
          | file text =>
              obtain ⟨m, more, rfl⟩ := List.exists_cons_of_ne_nil hrest
              cases hfollow
          | dir inner =>
              have hnone : (Node.dir inner).texts = [] := by
                rw [Node.texts, h inner hfind]
                rfl
              have hsub := Node.texts_subset_of_follow hfollow
                (fun hmem => absurd hmem hup) (List.Subset.refl _)
              have hmem : text ∈ (Node.file (some text)).texts := by
                simp [Node.texts, Node.files]
              rw [hnone] at hsub
              exact absurd (hsub hmem) List.not_mem_nil

end Disk

end PawnScope
