import PawnScope.Proofs.Workspace.Order

/-! # Rounds of loading

Loading goes on as long as something is missing. It ends in whatever order the files of each round
are read: a round settles all that is wanted by the texts that the round before it has read, so that
each round after the first uses up a text on disk. No file is tried twice, since what was tried is
not missing any more, and none is tried that is known at that time, so that nothing is replaced. -/

namespace PawnScope.Workspace

variable {disk : Disk} {w : Workspace} {tried found : List Location}

/-- The rounds of a loading so far. Each of them has tried to read, in some order, the files that
were missing when it started, and there were some. -/
inductive Rounds (disk : Disk) (w : Workspace) : List (List Location) → Prop
  | none : Rounds disk w []
  | next {rounds : List (List Location)} {found : List Location} (past : Rounds disk w rounds)
      (hfound : found.Perm ((w.loadAll disk rounds.flatten).missing disk rounds.flatten))
      (hne : found ≠ []) : Rounds disk w (rounds ++ [found])

theorem loadAll_append (w : Workspace) (disk : Disk) (found found' : List Location) :
    w.loadAll disk (found ++ found') = (w.loadAll disk found).loadAll disk found' :=
  List.foldl_append

/-! ## Each file once -/

theorem nodup_eraseDups {α : Type} [DecidableEq α] (xs : List α) : xs.eraseDups.Nodup := by
  induction xs using List.reverseRecOn with
  | nil => simp
  | append_singleton xs x ih =>
      rw [List.eraseDups_append]
      by_cases h : x ∈ xs
      · simpa [List.removeAll, h] using ih
      · have hnew : ∀ y ∈ xs, y ≠ x := fun y hy hyx => h (hyx ▸ hy)
        simpa [List.removeAll, List.eraseDups_cons, List.nodup_append, List.mem_eraseDups, h, ih]
          using hnew

theorem nodup_missing (w : Workspace) (disk : Disk) (tried : List Location) :
    (w.missing disk tried).Nodup :=
  nodup_eraseDups _

/-- What a round has tried to read was neither known before the first round nor tried before. -/
theorem Rounds.nodup_flatten {rounds : List (List Location)} (h : Rounds disk w rounds) :
    rounds.flatten.Nodup ∧ ∀ l ∈ rounds.flatten, w.files.contains l = false := by
  induction h with
  | none => simp
  | @next rounds found past hfound hne ih =>
      have hnew : ∀ l ∈ found, l ∉ rounds.flatten ∧ w.files.contains l = false := by
        intro l hl
        have hunsettled := (mem_missing_iff.mp (hfound.mem_iff.mp hl)).2
        rw [Settled, not_or, contains_loadAll_iff, not_or, Bool.not_eq_true] at hunsettled
        exact ⟨hunsettled.2, hunsettled.1.1⟩
      have hnodup : found.Nodup := hfound.nodup_iff.mpr (nodup_missing _ disk _)
      rw [List.flatten_append, List.flatten_singleton, List.nodup_append]
      refine ⟨⟨ih.1, hnodup, ?_⟩, ?_⟩
      · rintro l hl k hk rfl
        exact (hnew l hk).1 hl
      · intro l hl
        rcases List.mem_append.mp hl with hl | hl
        · exact ih.2 l hl
        · exact (hnew l hl).2

/-- At any point of the rounds, none of the files still to be read is known. -/
theorem Rounds.contains_eq_false {rounds : List (List Location)} (h : Rounds disk w rounds)
    {before after : List Location} (hsplit : rounds.flatten = before ++ after) :
    ∀ l ∈ after, (w.loadAll disk before).files.contains l = false := by
  obtain ⟨hnodup, hunknown⟩ := h.nodup_flatten
  rw [hsplit] at hnodup hunknown
  intro l hl
  have hnew : l ∉ before := fun hl' => (List.nodup_append.mp hnodup).2.2 l hl' l hl rfl
  rw [Bool.eq_false_iff, ne_eq, contains_loadAll_iff]
  rintro (hknown | ⟨hl', -⟩)
  · rw [hunknown l (List.mem_append_right before hl)] at hknown
    cases hknown
  · exact hnew hl'

/-! ## Finitely many rounds -/

namespace SameContent

variable {w' : Workspace} {tried' : List Location}

theorem fromDisk (h : SameContent w w') (htried : ∀ l, l ∈ tried' ↔ l ∈ tried)
    (hdisk : FromDisk disk w tried) : FromDisk disk w' tried' := by
  intro l hl
  rw [h.mem_missing_iff htried] at hl
  obtain ⟨k, text, hread, hk, htarget⟩ := hdisk l hl
  refine ⟨k, text, hread, ?_, ?_⟩
  · rw [h.files, h.fileOf_eq, hk]
  · rwa [h.fileOf_eq]

theorem unsettledTexts_eq (h : SameContent w w') (htried : ∀ l, l ∈ tried' ↔ l ∈ tried) :
    unsettledTexts disk w' tried' = unsettledTexts disk w tried := by
  apply List.filter_congr
  intro text _
  rw [decide_eq_decide]
  simp only [Unsettled, Settled, h.fileOf_eq, h.contains_eq, htried]

end SameContent

/-- A round in any order uses up a text that wants something missing. -/
theorem length_unsettledTexts_loadAll (hfound : found.Perm (w.missing disk tried))
    (hne : found ≠ []) (hdisk : FromDisk disk w tried) :
    (unsettledTexts disk (w.loadAll disk found) (tried ++ found)).length <
      (unsettledTexts disk w tried).length := by
  have hsame := (SameContent.refl w).round (fun _ => Iff.rfl) hfound
  have htried := (SameContent.refl w).mem_tried_iff (fun _ => Iff.rfl) hfound
  rw [hsame.unsettledTexts_eq htried]
  apply length_unsettledTexts_round hdisk
  intro hmissing
  rw [hmissing] at hfound
  exact hne hfound.eq_nil

theorem fromDisk_loadAll (hfound : found.Perm (w.missing disk tried)) :
    FromDisk disk (w.loadAll disk found) (tried ++ found) := by
  have hsame := (SameContent.refl w).round (fun _ => Iff.rfl) hfound
  have htried := (SameContent.refl w).mem_tried_iff (fun _ => Iff.rfl) hfound
  exact hsame.fromDisk htried (fromDisk_round w tried)

/-- After the first round, what is missing is wanted by texts on disk, and each round has left one
less of these. -/
theorem Rounds.unsettledTexts_add_length_le {rounds : List (List Location)}
    (h : Rounds disk w rounds) (hne : rounds ≠ []) :
    FromDisk disk (w.loadAll disk rounds.flatten) rounds.flatten ∧
      (unsettledTexts disk (w.loadAll disk rounds.flatten) rounds.flatten).length +
        rounds.length ≤ disk.fileCount + 1 := by
  induction h with
  | none => exact absurd rfl hne
  | @next rounds found past hfound hround ih =>
      have hdisk := fromDisk_loadAll hfound
      rw [List.flatten_append, List.flatten_singleton, loadAll_append, List.length_append,
        List.length_singleton]
      refine ⟨hdisk, ?_⟩
      by_cases hfirst : rounds = []
      · have htexts := List.length_filter_le
          (fun text => decide (Unsettled disk (w.loadAll disk found) found text)) disk.texts
        have hcount := disk.length_texts_le
        subst hfirst
        exact Nat.add_le_add (Nat.le_trans htexts hcount) (Nat.le_refl 1)
      · obtain ⟨hbefore, hle⟩ := ih hfirst
        have hlt := length_unsettledTexts_loadAll hfound hround hbefore
        omega

theorem Rounds.length_le {rounds : List (List Location)} (h : Rounds disk w rounds) :
    rounds.length ≤ disk.fileCount + 1 := by
  by_cases hne : rounds = []
  · simp [hne]
  · have hle := (h.unsettledTexts_add_length_le hne).2
    omega

/-! ## The rounds of the loop -/

/-- Counted rounds are rounds, in the order in which files are found missing. They stop when nothing
is missing, or when all of them are used. -/
theorem Rounds.exists_loadRounds {rounds : List (List Location)} (h : Rounds disk w rounds)
    (fuel : Nat) :
    ∃ more, Rounds disk w (rounds ++ more) ∧
      loadRounds disk fuel rounds.flatten (w.loadAll disk rounds.flatten) =
        w.loadAll disk (rounds ++ more).flatten ∧
      ((w.loadAll disk (rounds ++ more).flatten).missing disk (rounds ++ more).flatten = [] ∨
        more.length = fuel) := by
  induction fuel generalizing rounds with
  | zero => exact ⟨[], by rwa [List.append_nil], by rw [List.append_nil, loadRounds], Or.inr rfl⟩
  | succ fuel ih =>
      by_cases hmissing : (w.loadAll disk rounds.flatten).missing disk rounds.flatten = []
      · refine ⟨[], ?_, ?_, Or.inl ?_⟩
        · rwa [List.append_nil]
        · rw [List.append_nil, loadRounds_of_missing_eq_nil hmissing]
        · rwa [List.append_nil]
      · obtain ⟨more, hmore, heq, hend⟩ := ih (h.next (List.Perm.refl _) hmissing)
        refine ⟨_ :: more, by rwa [List.append_cons], ?_, ?_⟩
        · rw [loadRounds_succ, List.append_cons, ← heq, List.flatten_append,
            List.flatten_singleton, loadAll_append]
        · rw [List.append_cons]
          exact hend.imp_right fun hlength => by rw [List.length_cons, hlength]

/-- Loading ends. Whatever the order in which the files of each round are read, there is at most one
round more than there are files on disk; no file is tried twice; and at any point of the rounds, the
files that are still to be tried are not known, and those that are known stay as they are. In the
order in which files are found missing, the rounds lead to the outcome of loading, where nothing is
missing that was not tried. -/
theorem loading_terminates (w : Workspace) (disk : Disk) :
    (∀ rounds, Rounds disk w rounds →
      rounds.length ≤ disk.fileCount + 1 ∧ rounds.flatten.Nodup ∧
        ∀ before after, rounds.flatten = before ++ after →
          (∀ l ∈ after, (w.loadAll disk before).files.contains l = false) ∧
            Loads disk (w.loadAll disk before) (w.loadAll disk rounds.flatten)) ∧
      ∃ rounds, Rounds disk w rounds ∧
        w.loadDependencies disk = w.loadAll disk rounds.flatten ∧
        (w.loadDependencies disk).missing disk rounds.flatten = [] := by
  constructor
  · intro rounds h
    refine ⟨h.length_le, h.nodup_flatten.1, ?_⟩
    intro before after hsplit
    have hunknown := h.contains_eq_false hsplit
    refine ⟨hunknown, ?_⟩
    rw [hsplit, loadAll_append]
    apply (Loads.refl disk _).loadAll
    intro l hl
    exact Catalog.contains_eq_false_iff.mp (hunknown l hl)
  · have hnone : Rounds disk w [] := Rounds.none
    obtain ⟨rounds, hrounds, heq, hend⟩ := hnone.exists_loadRounds (disk.fileCount + 1)
    rw [List.nil_append] at hrounds
    have hload : w.loadDependencies disk = w.loadAll disk rounds.flatten := heq
    refine ⟨rounds, hrounds, hload, ?_⟩
    rw [hload]
    -- One more round would be one too many.
    by_contra hmissing
    have hle := (hrounds.next (List.Perm.refl _) hmissing).length_le
    rw [List.length_append, List.length_singleton] at hle
    rcases hend with hend | hlength
    · exact hmissing hend
    · rw [hlength] at hle
      omega

/-- A disk with two headers that include each other. The second also includes itself and a directory
that is named like a header. -/
def knotOnDisk : Disk where
  root := .dir [(Text.octets "inc".toList, .dir
    [(Text.octets "a.inc".toList, .file (some "#include <b>\n#include <nowhere>")),
      (Text.octets "b.inc".toList, .file (some "#include <a>\n#include <b>\n#include <d>")),
      (Text.octets "d.inc".toList, .dir [])])]

/-- A plugin that includes the first header, before anything is loaded. -/
def knotPlugin : Workspace :=
  Workspace.indexOutline { index.config.includeDirectories := [⟨Text.octets "/inc".toList⟩] }
    knotOnDisk (.ofSegments ["plugin.sp"]) (Outline.ofText "#include <a>")

/-- Two files take three rounds, since the last one tries to read the directory. -/
theorem loading_terminates_knot :
    Rounds knotOnDisk knotPlugin [[.ofSegments ["inc", "a.inc"]], [.ofSegments ["inc", "b.inc"]],
        [.ofSegments ["inc", "d.inc"]]] ∧
      knotOnDisk.fileCount = 2 ∧
      Loads knotOnDisk knotPlugin (knotPlugin.loadAll knotOnDisk [.ofSegments ["inc", "a.inc"],
        .ofSegments ["inc", "b.inc"], .ofSegments ["inc", "d.inc"]]) := by
  have hfirst : Rounds knotOnDisk knotPlugin [[.ofSegments ["inc", "a.inc"]]] :=
    Rounds.none.next (by decide +kernel) (by simp)
  have hsecond : Rounds knotOnDisk knotPlugin
      [[.ofSegments ["inc", "a.inc"]], [.ofSegments ["inc", "b.inc"]]] :=
    hfirst.next (by decide +kernel) (by simp)
  have hthird : Rounds knotOnDisk knotPlugin [[.ofSegments ["inc", "a.inc"]],
      [.ofSegments ["inc", "b.inc"]], [.ofSegments ["inc", "d.inc"]]] :=
    hsecond.next (by decide +kernel) (by simp)
  obtain ⟨-, -, hpoints⟩ := (loading_terminates knotPlugin knotOnDisk).1 _ hthird
  exact ⟨hthird, by decide +kernel, (hpoints [] _ rfl).2⟩

end PawnScope.Workspace
