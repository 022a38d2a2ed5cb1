import PawnScope.Proofs.Session.Conversation
import PawnScope.Proofs.Workspace.MissingIncludes

/-! # Published diagnostics

An editor shows for a document the diagnostics that it was last given for it. After a scan or after
new settings it is given those of all open documents, but when a document is opened, changed or
closed, only those of this document. Yet a file that was not known until it is opened, or that is
closed and not on disk, makes all includes be resolved again, and other open documents may then miss
more or less than the editor shows. The editor is up to date throughout a conversation exactly if no
message does this. -/

namespace PawnScope

/-! ## Warnings and missing includes -/

namespace Editor

variable {w w' : Workspace} {l : Location}

theorem diagnostic_inj {i j : Include} (hi : i.isRequired = true) (hj : j.isRequired = true)
    (h : diagnostic w l i = diagnostic w l j) : i = j := by
  simp only [diagnostic, Diagnostic.mk.injEq, TextRange.mk.injEq, Position.mk.injEq] at h
  obtain ⟨⟨⟨hline, -⟩, -⟩, hmessage⟩ := h
  have hreference : i.reference = j.reference := by
    have htext := congrArg String.toList hmessage
    simp only [String.toList_append, List.append_assoc, List.append_cancel_left_eq,
      List.append_cancel_right_eq] at htext
    exact String.toList_inj.mp htext
  simp only [Include.isRequired, Bool.and_eq_true, Bool.not_eq_true'] at hi hj
  cases i
  cases j
  simp_all

theorem map_diagnostic_inj {is js : List Include} (his : ∀ i ∈ is, i.isRequired = true)
    (hjs : ∀ j ∈ js, j.isRequired = true)
    (h : is.map (diagnostic w l) = js.map (diagnostic w l)) : is = js := by
  induction is generalizing js with
  | nil => simpa using h
  | cons i is ih =>
      cases js with
      | nil => simp at h
      | cons j js =>
          simp only [List.map_cons, List.cons.injEq] at h
          simp only [List.forall_mem_cons] at his hjs
          rw [diagnostic_inj his.1 hjs.1 h.1, ih his.2 hjs.2 h.2]

/-- As long as its text stays, the diagnostics of a document change exactly with its missing
includes. -/
theorem diagnostics_eq_iff (h : w'.buffers.get? l = w.buffers.get? l) :
    diagnostics w' l = diagnostics w l ↔ w'.unresolved l = w.unresolved l := by
  have hsame : diagnostic w' l = diagnostic w l := by
    funext i
    rw [diagnostic, diagnostic, Workspace.line?, Workspace.line?, h]
  rw [diagnostics, diagnostics, hsame]
  constructor
  · exact map_diagnostic_inj (fun _ => Workspace.isRequired_of_mem_unresolved)
      fun _ => Workspace.isRequired_of_mem_unresolved
  · intro hunresolved
    rw [hunresolved]

end Editor

namespace Session

open Workspace

variable {s : Session} {disk : Disk} {w : Workspace} {l k : Location} {sent notices : List Notice}

/-! ## What the editor was told -/

/-- The diagnostics that a notice gives for a document. -/
def Notice.about? (l : Location) : Notice → Option (List Editor.Diagnostic)
  | .diagnostics k items _ => if k = l then some items else none
  | .error _ => none

/-- The diagnostics that the editor was last given for a document. -/
def lastPublished? (sent : List Notice) (l : Location) : Option (List Editor.Diagnostic) :=
  (sent.filterMap (Notice.about? l)).getLast?

theorem about?_eq_some_iff {n : Notice} {items : List Editor.Diagnostic} :
    n.about? l = some items ↔ ∃ version, n = .diagnostics l items version := by
  cases n with
  | diagnostics k items version =>
      by_cases hk : k = l
      · simp [Notice.about?, hk]
      · simp [Notice.about?, hk]
  | error text => simp [Notice.about?]

theorem lastPublished?_append (sent notices : List Notice) (l : Location) :
    lastPublished? (sent ++ notices) l = (lastPublished? notices l).or (lastPublished? sent l) := by
  rw [lastPublished?, List.filterMap_append, List.getLast?_append]
  rfl

theorem exists_mem_of_lastPublished? {items : List Editor.Diagnostic}
    (h : lastPublished? sent l = some items) : ∃ version, .diagnostics l items version ∈ sent := by
  obtain ⟨n, hn, habout⟩ := List.mem_filterMap.mp (List.mem_of_getLast? h)
  obtain ⟨version, rfl⟩ := about?_eq_some_iff.mp habout
  exact ⟨version, hn⟩

theorem lastPublished?_eq_none (h : ∀ items version, .diagnostics l items version ∉ sent) :
    lastPublished? sent l = none := by
  cases hlast : lastPublished? sent l with
  | none => rfl
  | some items =>
      obtain ⟨version, hmem⟩ := exists_mem_of_lastPublished? hlast
      exact absurd hmem (h items version)

theorem mem_publish_iff {items : List Editor.Diagnostic} {version : Option Int} :
    .diagnostics l items version ∈ publish w k ↔
      k = l ∧ items = Editor.diagnostics w l ∧
        (w.buffers.get? l).map (·.version) = some version := by
  unfold publish
  split
  · rename_i hb
    constructor
    · intro h
      cases h
    · rintro ⟨rfl, -, hversion⟩
      simp [hb] at hversion
  · rename_i b hb
    rw [List.mem_singleton, Notice.diagnostics.injEq]
    constructor
    · rintro ⟨rfl, rfl, rfl⟩
      simp [hb]
    · rintro ⟨rfl, rfl, hversion⟩
      simpa [hb, eq_comm] using hversion

theorem mem_publishAll_iff {items : List Editor.Diagnostic} {version : Option Int} :
    .diagnostics l items version ∈ publishAll w ↔
      items = Editor.diagnostics w l ∧ (w.buffers.get? l).map (·.version) = some version := by
  simp only [publishAll, List.mem_flatMap, mem_publish_iff]
  constructor
  · rintro ⟨k, -, -, h⟩
    exact h
  · rintro ⟨hitems, hversion⟩
    obtain ⟨b, hb, -⟩ := Option.map_eq_some_iff.mp hversion
    exact ⟨l, Catalog.mem_keys_of_get? hb, rfl, hitems, hversion⟩

/-- Notices that agree about a document. -/
theorem lastPublished?_of_mem {items : List Editor.Diagnostic} {version : Option Int}
    (h : .diagnostics l items version ∈ sent)
    (hall : ∀ items' version', .diagnostics l items' version' ∈ sent → items' = items) :
    lastPublished? sent l = some items := by
  cases hlast : lastPublished? sent l with
  | none =>
      have habout := List.filterMap_eq_nil_iff.mp (List.getLast?_eq_none_iff.mp hlast) _ h
      simp [Notice.about?] at habout
  | some items' =>
      obtain ⟨version', hmem⟩ := exists_mem_of_lastPublished? hlast
      rw [hall items' version' hmem]

/-- Notices that are about a document exactly with its diagnostics and its version. -/
theorem lastPublished?_of_mem_iff (h : w.buffers.contains l = true)
    (hnotices : ∀ items version, .diagnostics l items version ∈ notices ↔
      items = Editor.diagnostics w l ∧ (w.buffers.get? l).map (·.version) = some version) :
    lastPublished? notices l = some (Editor.diagnostics w l) := by
  obtain ⟨b, hb⟩ := Catalog.contains_iff.mp h
  have hmem : .diagnostics l (Editor.diagnostics w l) b.version ∈ notices :=
    (hnotices _ _).mpr ⟨rfl, by simp [hb]⟩
  apply lastPublished?_of_mem hmem
  intro items version hitems
  exact ((hnotices items version).mp hitems).1

theorem lastPublished?_publish (h : w.buffers.contains l = true) :
    lastPublished? (publish w l) l = some (Editor.diagnostics w l) := by
  apply lastPublished?_of_mem_iff h
  intro items version
  rw [mem_publish_iff, eq_self, true_and]

theorem lastPublished?_publishAll (h : w.buffers.contains l = true) :
    lastPublished? (publishAll w) l = some (Editor.diagnostics w l) :=
  lastPublished?_of_mem_iff h fun _ _ => mem_publishAll_iff

/-! ## Staying up to date -/

/-- For every open document, the editor was last given the diagnostics that it has now. -/
def UpToDate (sent : List Notice) (w : Workspace) : Prop :=
  ∀ l, w.buffers.contains l = true → lastPublished? sent l = some (Editor.diagnostics w l)

theorem UpToDate.append (h : UpToDate sent w)
    (hnotices : ∀ l items version, .diagnostics l items version ∉ notices) :
    UpToDate (sent ++ notices) w := by
  intro l hl
  rw [lastPublished?_append, lastPublished?_eq_none (hnotices l)]
  exact h l hl

theorem upToDate_publishAll (sent : List Notice) (w : Workspace) :
    UpToDate (sent ++ publishAll w) w := by
  intro l hl
  rw [lastPublished?_append, lastPublished?_publishAll hl]
  rfl

/-- The editor is told about the document of an event and about no other. -/
theorem lastPublished?_report (w : Workspace) (disk : Disk) {e : Event}
    (he : e.document? = some k) :
    (∀ l, l ≠ k → lastPublished? (report w disk e) l = none) ∧
      ((w.perform disk e).buffers.contains k = true → lastPublished? (report w disk e) k =
        some (Editor.diagnostics (w.perform disk e) k)) := by
  have hpublish : ∀ l, l ≠ k → lastPublished? (publish (w.perform disk e) k) l = none :=
    fun l hlk => lastPublished?_eq_none fun _ _ h => hlk (mem_publish_iff.mp h).1.symm
  cases e with
  | opened m text version =>
      obtain rfl := Option.some.inj he
      exact ⟨hpublish, lastPublished?_publish⟩
  | changed m changes version =>
      obtain rfl := Option.some.inj he
      exact ⟨hpublish, lastPublished?_publish⟩
  | closed m =>
      obtain rfl := Option.some.inj he
      constructor
      · intro l hlm
        apply lastPublished?_eq_none
        simp [report, hlm]
      · intro hopen
        rw [perform, buffers_closeDocument, Catalog.contains, Catalog.get?_erase,
          if_pos rfl] at hopen
        cases hopen
  | addFolder | settings | scanned | indexed | reresolved => cases he

theorem UpToDate.report_iff {e : Event} (h : UpToDate sent w) (hw : Consistent w)
    (hindexed : BuffersIndexed w) (he : e.document? = some k) :
    UpToDate (sent ++ report w disk e) (w.perform disk e) ↔ ¬w.Overlooks disk e := by
  obtain ⟨hothers, hown⟩ := lastPublished?_report w disk he
  have hopen : ∀ l, l ≠ k → (w.perform disk e).buffers.contains l = w.buffers.contains l := by
    intro l hlk
    rw [Catalog.contains, buffers_perform he hlk, Catalog.contains]
  have hlast : ∀ l, l ≠ k → w.buffers.contains l = true →
      lastPublished? (sent ++ report w disk e) l = some (Editor.diagnostics w l) := by
    intro l hlk hl
    rw [lastPublished?_append, hothers l hlk]
    exact h l hl
  rw [not_overlooks_iff hw hindexed he]
  constructor
  · intro hafter l hlk hl
    have hsame := hafter l ((hopen l hlk).trans hl)
    rw [hlast l hlk hl] at hsame
    exact (Editor.diagnostics_eq_iff (buffers_perform he hlk)).mp (Option.some.inj hsame).symm
  · intro hunresolved l hl
    by_cases hlk : l = k
    · subst hlk
      rw [lastPublished?_append, hown hl]
      rfl
    · rw [hopen l hlk] at hl
      rw [hlast l hlk hl,
        (Editor.diagnostics_eq_iff (buffers_perform he hlk)).mpr (hunresolved l hlk hl)]

/-- Scans and settings are about all documents, and so is what the editor is told of them. -/
theorem UpToDate.report_of_all {e : Event} (h : UpToDate sent w)
    (he : (∃ found, e = .scanned found) ∨ ∃ settings, e = .settings settings) :
    UpToDate (sent ++ report w disk e) (w.perform disk e) := by
  obtain ⟨found, rfl⟩ | ⟨settings, rfl⟩ := he
  · exact upToDate_publishAll sent _
  · rw [report, perform]
    cases w.applySettings? disk settings with
    | none => exact h.append fun _ _ _ => List.not_mem_nil
    | some w' => exact upToDate_publishAll sent w'

/-- A message opens or closes one document and changes what is missing in another. -/
def Overlooks (s : Session) (disk : Disk) (r : Request) : Prop :=
  ∃ e, s.event? disk r = some e ∧ s.workspace.Overlooks disk e

/-- One message keeps the editor up to date unless it changes what is missing in a document that it
is not about. -/
theorem upToDate_hear_iff {c : Conversation} (hc : c.Sound)
    (h : UpToDate c.sent c.session.workspace) (disk : Disk) (r : Request) :
    UpToDate (c.hear disk r).sent (c.hear disk r).session.workspace ↔
      ¬c.session.Overlooks disk r := by
  rw [Conversation.hear]
  cases hevent : c.session.event? disk r with
  | none =>
      have hnone : ¬c.session.Overlooks disk r := by
        rintro ⟨e, he, -⟩
        rw [hevent] at he
        cases he
      refine iff_of_true ?_ hnone
      cases hstep : c.session.handle disk r with
      | none => exact h
      | some step =>
          rcases isQuiet_or_starts hevent hstep with hquiet | ⟨hstage, -, p, hsession⟩
          · exact hquiet.workspace ▸ h.append hquiet.notices
          · intro l hl
            simp only [hsession, buffers_startWorkspace, hc.unopened hstage l] at hl
            cases hl
  | some e =>
      have hone : c.session.Overlooks disk r ↔ c.session.workspace.Overlooks disk e := by
        simp [Overlooks, hevent]
      rw [handle_of_event? hevent, hone]
      rcases (event?_cases hevent).2 with ⟨k, hk⟩ | hall
      · exact h.report_iff hc.consistent hc.indexed hk
      · refine iff_of_true (h.report_of_all hall) ?_
        rintro ⟨k, registry, hk, -⟩
        obtain ⟨found, rfl⟩ | ⟨settings, rfl⟩ := hall
        · cases hk
        · cases hk

/-- At every time of a conversation the editor is up to date exactly if no message of it opens or
closes one document and changes what is missing in another. -/
theorem upToDate_throughout_iff (messages : List (Disk × Request)) :
    (∀ past, past <+: messages →
      UpToDate (converse past).sent (converse past).session.workspace) ↔
    ∀ past m, past ++ [m] <+: messages → ¬(converse past).session.Overlooks m.1 m.2 := by
  have hstep : ∀ past (m : Disk × Request),
      UpToDate (converse past).sent (converse past).session.workspace →
        (UpToDate (converse (past ++ [m])).sent (converse (past ++ [m])).session.workspace ↔
          ¬(converse past).session.Overlooks m.1 m.2) := by
    intro past m h
    rw [converse_concat]
    exact upToDate_hear_iff (sound_converse past) h m.1 m.2
  constructor
  · intro h past m hpast
    have hbefore := h past ((List.prefix_append past [m]).trans hpast)
    exact (hstep past m hbefore).mp (h (past ++ [m]) hpast)
  · intro h past hpast
    induction past using List.reverseRecOn with
    | nil =>
        intro l hl
        cases hl
    | append_singleton past m ih =>
        have hbefore := ih ((List.prefix_append past [m]).trans hpast)
        exact (hstep past m hbefore).mpr (h past m hpast)

/-- The message that opens a document. -/
def openingOf (uri text : String) : Request where
  method := "textDocument/didOpen"
  params := some (.obj [("textDocument", .obj [("uri", .str uri), ("languageId", .str "sourcepawn"),
    ("version", .int 1), ("text", .str text)])])

/-- A plugin is opened and then the header that it includes, neither of which is on disk. -/
def headerOpened : List (Disk × Request) :=
  [{  method := "initialize"
      params := some (.obj [("capabilities", .obj [])])
      id := some (.int 1) },
    openingOf "file:///nowhere/plugin.sp" "#include \"util\"",
    openingOf "file:///nowhere/util.inc" ""].map (Disk.blank [], ·)

/-- The include is found once the header is open, but the editor still shows it as missing. -/
theorem not_upToDate_after_headerOpened :
    ¬UpToDate (converse headerOpened).sent (converse headerOpened).session.workspace := by
  intro h
  have hplugin := h (.ofSegments ["nowhere", "plugin.sp"]) (by decide +kernel)
  exact absurd hplugin (by decide +kernel)

end Session

end PawnScope
