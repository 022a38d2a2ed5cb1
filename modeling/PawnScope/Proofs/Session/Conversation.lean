import PawnScope.Proofs.Workspace.ChangingDisk
import PawnScope.Session

/-! # Conversations

An editor sends one message after another, and each is handled to its end, with the disk as it is
then, before the next. A notification that is served is one event of the workspace, and what the
editor is told of it follows from the event. Of all other messages only the one that starts the
session changes the workspace, at a time when no document is open. -/

namespace PawnScope.Session

open Workspace

variable {s : Session} {disk : Disk} {r : Request}

/-! ## Notifications -/

/-- What a notification carries, if it is served. -/
def served? {α : Type} (s : Session) (r : Request) (shape : Shape) (take? : Json → Option α) :
    Option α :=
  if s.stage = .running ∧ r.id = none then (paramsOf r shape take?).toOption else none

/-- The event that a message reports, if it is a notification that is served. -/
def event? (s : Session) (disk : Disk) (r : Request) : Option Event :=
  match r.method with
  | "initialized" =>
      (s.served? r .initialized nothing?).map fun _ => .scanned (s.workspace.scanFolders disk)
  | "textDocument/didOpen" =>
      (s.served? r .didOpen open?).map fun p => .opened p.location p.text (some p.version)
  | "textDocument/didChange" =>
      (s.served? r .didChange changes?).map fun p => .changed p.location p.changes (some p.version)
  | "textDocument/didClose" => (s.served? r .didClose close?).map .closed
  | "workspace/didChangeConfiguration" =>
      (s.served? r .didChangeConfiguration settings?).map .settings
  | _ => none

/-- What the editor is told of an event. -/
def report (w : Workspace) (disk : Disk) (e : Event) : List Notice :=
  match e with
  | .opened l _ _ => publish (w.perform disk e) l
  | .changed l _ _ => publish (w.perform disk e) l
  | .closed l => [.diagnostics l [] none]
  | .settings settings => ((w.applySettings? disk settings).map publishAll).getD []
  | .scanned _ => publishAll (w.perform disk e)
  | _ => []

/-- A step that leaves the workspace as it is and tells the editor nothing about documents. -/
structure Step.IsQuiet (s : Session) (step : Step) : Prop where
  workspace : step.session.workspace = s.workspace
  stage : step.session.stage = .uninitialized → s.stage = .uninitialized
  notices : ∀ l items version, .diagnostics l items version ∉ step.notices

theorem stage_of_served? {α : Type} {shape : Shape} {take? : Json → Option α} {a : α}
    (h : s.served? r shape take? = some a) : s.stage = .running := by
  unfold served? at h
  split at h
  · rename_i hserved
    exact hserved.1
  · cases h

theorem serveNotification_of_served? {α : Type} {shape : Shape} {take? : Json → Option α} {a : α}
    (h : s.served? r shape take? = some a) (serve : α → Workspace → Workspace × List Notice) :
    s.serveNotification r shape take? serve =
      { session := { s with workspace := (serve a s.workspace).1 }
        notices := (serve a s.workspace).2 } := by
  unfold served? at h
  split at h
  · rename_i hserved
    cases hparams : paramsOf r shape take? with
    | error fault => simp [hparams, Except.toOption] at h
    | ok b =>
        obtain rfl : b = a := by simpa [hparams, Except.toOption] using h
        simp [serveNotification, hserved.1, hserved.2, hparams]
  · cases h

theorem isQuiet_unchanged (s : Session) (response : Option Response) :
    Step.IsQuiet s { session := s, response := response } :=
  ⟨rfl, id, fun _ _ _ => List.not_mem_nil⟩

theorem isQuiet_answer (s : Session) (r : Request) (outcome : Except Fault Json) :
    (s.answer r outcome).IsQuiet s := isQuiet_unchanged s _

theorem isQuiet_refuse (s : Session) (r : Request) : (s.refuse r).IsQuiet s := isQuiet_answer s r _

theorem isQuiet_serveNotification {α : Type} {shape : Shape} {take? : Json → Option α}
    (h : s.served? r shape take? = none) (serve : α → Workspace → Workspace × List Notice) :
    (s.serveNotification r shape take? serve).IsQuiet s := by
  unfold serveNotification
  split
  · exact isQuiet_refuse s r
  · rename_i hstage
    split
    · exact isQuiet_answer s r _
    · rename_i hid
      split
      · exact isQuiet_unchanged s none
      · rename_i a hparams
        have hserved : s.stage = .running ∧ r.id = none :=
          ⟨by simpa using hstage, by simpa using hid⟩
        simp [served?, hserved, hparams, Except.toOption] at h

theorem event?_cases {e : Event} (h : s.event? disk r = some e) :
    s.stage = .running ∧ ((∃ k, e.document? = some k) ∨ (∃ found, e = .scanned found) ∨
      ∃ settings, e = .settings settings) := by
  unfold event? at h
  split at h
  case h_6 => cases h
  all_goals
    obtain ⟨a, ha, rfl⟩ := Option.map_eq_some_iff.mp h
    refine ⟨stage_of_served? ha, ?_⟩
  · exact Or.inr (Or.inl ⟨_, rfl⟩)
  · exact Or.inl ⟨_, rfl⟩
  · exact Or.inl ⟨_, rfl⟩
  · exact Or.inl ⟨_, rfl⟩
  · exact Or.inr (Or.inr ⟨_, rfl⟩)

theorem ne_indexed_of_event? {e : Event} (h : s.event? disk r = some e) (l : Location)
    (text : String) : e ≠ .indexed l text := by
  rintro rfl
  obtain ⟨-, ⟨k, hk⟩ | ⟨found, hfound⟩ | ⟨settings, hsettings⟩⟩ := event?_cases h
  · cases hk
  · cases hfound
  · cases hsettings

/-- A notification that is served is an event of the workspace. -/
theorem handle_of_event? {e : Event} (h : s.event? disk r = some e) :
    s.handle disk r = some
      { session := { s with workspace := s.workspace.perform disk e }
        notices := report s.workspace disk e } := by
  have hstage : s.stage ≠ .exited := by simp [(event?_cases h).1]
  have hconfiguration : ∀ settings, didChangeConfiguration disk settings s.workspace =
      (s.workspace.perform disk (.settings settings),
        report s.workspace disk (.settings settings)) := by
    intro settings
    rw [didChangeConfiguration, perform, report]
    cases s.workspace.applySettings? disk settings with
    | none => rfl
    | some w => rfl
  rw [handle, if_neg hstage]
  unfold event? at h
  split at h
  case h_6 => cases h
  all_goals
    rename_i hmethod
    obtain ⟨a, ha, rfl⟩ := Option.map_eq_some_iff.mp h
    simp only [hmethod, serveNotification_of_served? ha]
  · simp only [initialized, perform, report]
  · simp only [didOpen, perform, report]
  · simp only [didChange, perform, report]
  · simp only [didClose, perform, report]
  · rw [hconfiguration]

/-! ## Other messages -/

theorem isQuiet_shutdown (s : Session) (r : Request) : (s.shutdown r).IsQuiet s := by
  unfold shutdown
  split
  · exact isQuiet_refuse s r
  · exact ⟨rfl, nofun, fun _ _ _ => List.not_mem_nil⟩

theorem isQuiet_serveRequest (s : Session) (r : Request) (shape : Shape)
    (serve : Location × Position → Workspace → Except QueryError Json) :
    (s.serveRequest r shape serve).IsQuiet s := by
  unfold serveRequest
  split
  · exact isQuiet_refuse s r
  · split
    · exact isQuiet_unchanged s none
    · split
      · exact isQuiet_answer s r _
      · split
        · exact isQuiet_answer s r _
        · -- The error that is shown to the user is about no document.
          exact ⟨rfl, id, fun _ _ _ h => by simp at h⟩

theorem isQuiet_unserved (s : Session) (r : Request) (shape : Shape) :
    (s.unserved r shape).IsQuiet s := by
  unfold unserved
  split
  · exact isQuiet_refuse s r
  · split
    · exact isQuiet_answer s r _
    · exact isQuiet_answer s r _

theorem isQuiet_ignored (s : Session) (r : Request) : (s.ignored r).IsQuiet s := by
  rw [ignored]
  cases h : s.served? r .anything nothing? with
  | none => exact isQuiet_serveNotification h _
  | some a =>
      rw [serveNotification_of_served? h]
      exact isQuiet_unchanged s none

theorem isQuiet_unknown (s : Session) (r : Request) : (s.unknown r).IsQuiet s := by
  unfold unknown
  split
  · exact isQuiet_unchanged s none
  · exact isQuiet_answer s r _

/-- A step that starts the session with the folders and settings of the editor. -/
def Step.Starts (s : Session) (disk : Disk) (step : Step) : Prop :=
  s.stage = .uninitialized ∧ step.notices = [] ∧
    ∃ p, step.session = ⟨.running, startWorkspace s.workspace disk p⟩

theorem isQuiet_or_starts_start (s : Session) (disk : Disk) (r : Request) :
    (s.start disk r).IsQuiet s ∨ (s.start disk r).Starts s disk := by
  unfold start
  split
  · exact Or.inl (isQuiet_answer s r _)
  · rename_i hstage
    split
    · exact Or.inl (isQuiet_unchanged s none)
    · split
      · exact Or.inl (isQuiet_answer s r _)
      · rename_i p _
        exact Or.inr ⟨by simpa using hstage, rfl, p, rfl⟩

/-- A message that is no event of the workspace is quiet, unless it starts the session. -/
theorem isQuiet_or_starts {step : Step} (h : s.event? disk r = none)
    (hstep : s.handle disk r = some step) : step.IsQuiet s ∨ step.Starts s disk := by
  unfold handle at hstep
  split at hstep
  · cases hstep
  · obtain rfl := Option.some.inj hstep
    unfold event? at h
    split
    case h_1 => exact isQuiet_or_starts_start s disk r
    case h_2 => exact Or.inl (isQuiet_shutdown s r)
    case h_3 => exact Or.inl ⟨rfl, nofun, fun _ _ _ => List.not_mem_nil⟩
    case h_4 | h_5 | h_6 | h_7 | h_8 =>
      rename_i hmethod
      simp only [hmethod, Option.map_eq_none_iff] at h
      exact Or.inl (isQuiet_serveNotification h _)
    case h_9 | h_10 | h_11 => exact Or.inl (isQuiet_serveRequest s r _ _)
    case h_12 => exact Or.inl (isQuiet_answer s r _)
    case h_13 =>
      left
      split
      · exact isQuiet_unserved s r _
      · split
        · exact isQuiet_ignored s r
        · exact isQuiet_unknown s r

/-! ## Conversations -/

/-- A session and all that it has told the editor unasked, first things first. -/
structure Conversation where
  session : Session := {}
  sent : List Notice := []

namespace Conversation

/-- The conversation after one more message. After the session has ended nothing happens. -/
def hear (c : Conversation) (disk : Disk) (r : Request) : Conversation :=
  match c.session.handle disk r with
  | none => c
  | some step => ⟨step.session, c.sent ++ step.notices⟩

/-- What every conversation keeps: the workspace is consistent, open documents are indexed with
their texts, and there are none before the start. -/
structure Sound (c : Conversation) : Prop where
  consistent : Consistent c.session.workspace
  indexed : BuffersIndexed c.session.workspace
  unopened : c.session.stage = .uninitialized → ∀ l, c.session.workspace.buffers.contains l = false

end Conversation

/-- The conversation after some messages, each with the disk as it was then. -/
def converse (messages : List (Disk × Request)) : Conversation :=
  messages.foldl (fun c m => c.hear m.1 m.2) {}

theorem converse_concat (messages : List (Disk × Request)) (m : Disk × Request) :
    converse (messages ++ [m]) = (converse messages).hear m.1 m.2 := by
  simp [converse]

/-! ## The start -/

/-- The folders and the settings with which an editor starts, as events. -/
def startEvents (p : StartParams) : List Event :=
  (p.folders.getD p.rootUri.toList).map .addFolder ++
    p.options.toList.map fun options => .settings (Settings.wrap options)

theorem startWorkspace_eq (w : Workspace) (disk : Disk) (p : StartParams) :
    startWorkspace w disk p = (startEvents p).foldl (·.perform disk ·) w := by
  simp only [startWorkspace, startEvents, List.foldl_append, List.foldl_map]
  cases p.options with
  | none => rfl
  | some options => rfl

theorem forall_mem_startEvents {motive : Event → Prop} (folder : ∀ l, motive (.addFolder l))
    (settings : ∀ j, motive (.settings j)) (p : StartParams) : ∀ e ∈ startEvents p, motive e := by
  intro e he
  rcases List.mem_append.mp he with he | he
  · obtain ⟨l, -, rfl⟩ := List.mem_map.mp he
    exact folder l
  · obtain ⟨options, -, rfl⟩ := List.mem_map.mp he
    exact settings _

theorem buffers_startWorkspace (w : Workspace) (disk : Disk) (p : StartParams) :
    (startWorkspace w disk p).buffers = w.buffers := by
  have hstep : ∀ e ∈ startEvents p, ∀ w : Workspace, (w.perform disk e).buffers = w.buffers := by
    apply forall_mem_startEvents
    · exact fun l w => rfl
    · intro settings w
      rw [perform, applySettings?]
      cases w.index.config.applySettings? settings with
      | none => rfl
      | some config => exact buffers_setConfig w disk config
  rw [startWorkspace_eq]
  exact List.foldlRecOn (motive := fun w' => w'.buffers = w.buffers) (startEvents p) _ rfl
    fun w' hw' e he => (hstep e he w').trans hw'

theorem consistent_startWorkspace {w : Workspace} (h : Consistent w) (disk : Disk)
    (p : StartParams) : Consistent (startWorkspace w disk p) := by
  rw [startWorkspace_eq]
  exact List.foldlRecOn (startEvents p) _ h fun _ hw e _ => hw.perform disk e

theorem buffersIndexed_startWorkspace {w : Workspace} (h : BuffersIndexed w) (disk : Disk)
    (p : StartParams) : BuffersIndexed (startWorkspace w disk p) := by
  have hevents : ∀ e ∈ startEvents p, ∀ l text, e ≠ .indexed l text :=
    forall_mem_startEvents (fun _ _ _ => Event.noConfusion) (fun _ _ _ => Event.noConfusion) p
  rw [startWorkspace_eq]
  exact List.foldlRecOn (startEvents p) _ h fun _ hw e he => hw.perform disk (hevents e he)

/-! ## Soundness -/

theorem Conversation.Sound.hear {c : Conversation} (h : c.Sound) (disk : Disk) (r : Request) :
    (c.hear disk r).Sound := by
  rw [Conversation.hear]
  cases hevent : c.session.event? disk r with
  | some e =>
      rw [handle_of_event? hevent]
      refine ⟨h.consistent.perform disk e, h.indexed.perform disk (ne_indexed_of_event? hevent), ?_⟩
      intro hstage
      rw [(event?_cases hevent).1] at hstage
      cases hstage
  | none =>
      cases hstep : c.session.handle disk r with
      | none => exact h
      | some step =>
          rcases isQuiet_or_starts hevent hstep with hquiet | ⟨-, -, p, hsession⟩
          · refine ⟨?_, ?_, fun hstage => ?_⟩
            · exact hquiet.workspace ▸ h.consistent
            · exact hquiet.workspace ▸ h.indexed
            · exact hquiet.workspace ▸ h.unopened (hquiet.stage hstage)
          · simp only [hsession]
            exact ⟨consistent_startWorkspace h.consistent disk p,
              buffersIndexed_startWorkspace h.indexed disk p, nofun⟩

theorem sound_converse (messages : List (Disk × Request)) : (converse messages).Sound := by
  refine List.foldlRecOn messages _ ⟨consistent_empty, ?_, ?_⟩ fun _ h m _ => h.hear m.1 m.2
  · intro l b hb
    cases hb
  · intro _ l
    rfl

end PawnScope.Session
