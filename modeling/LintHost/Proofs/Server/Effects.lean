import LintHost.Proofs.Server.Documents
import LintHost.Server.State

/-!
# What a notification does to a document

A notification of the client may be about one document, about all of them, or about none. Seen
from one URI there are five things that it can do, `LintHost.ServerState.Effect`: to open, change,
save or close the document there, or nothing. Each of them says what becomes of the document's
text and version, whether a lint of it is started, and what is published for it. A published list
takes the place of all earlier ones, so what a client shows is the last of the list
`LintHost.publications`.

Whoever shows a law about the server goes through `LintHost.ServerState.effect_handle` and need
not know the handlers.
-/

namespace LintHost

/-! ### What a client is shown -/

/-- What a message puts in place of all that was shown for a URI: the diagnostics, and the version
that they are for. -/
def ServerMessage.publication? (uri : Uri) :
    ServerMessage → Option (List PublishedDiagnostic × Option Int)
  | .publish about diagnostics version => if about = uri then some (diagnostics, version) else none
  | _ => none

/-- What is published for a URI by some messages, in their order. The last of it is what the
client shows. -/
def publications (uri : Uri) (messages : List ServerMessage) :
    List (List PublishedDiagnostic × Option Int) :=
  messages.filterMap (ServerMessage.publication? uri)

@[simp] theorem publications_nil (uri : Uri) : publications uri [] = [] := rfl

@[simp] theorem publications_append (uri : Uri) (first more : List ServerMessage) :
    publications uri (first ++ more) = publications uri first ++ publications uri more :=
  List.filterMap_append

theorem mem_publications {uri : Uri} {messages : List ServerMessage}
    {diagnostics : List PublishedDiagnostic} {version : Option Int} :
    (diagnostics, version) ∈ publications uri messages ↔
      .publish uri diagnostics version ∈ messages := by
  rw [publications, List.mem_filterMap]
  constructor
  · rintro ⟨message, hmem, hshown⟩
    cases message with
    | publish about shown given =>
      rw [ServerMessage.publication?] at hshown
      split at hshown
      · next habout =>
        obtain ⟨rfl, rfl⟩ := Prod.mk.inj (Option.some.inj hshown)
        rwa [← habout]
      · simp at hshown
    | log level text => simp [ServerMessage.publication?] at hshown
    | watchConfigFiles => simp [ServerMessage.publication?] at hshown
  · intro hmem
    exact ⟨_, hmem, if_pos rfl⟩

/-! ### Effects of a notification -/

/-- The document that a notification is about, if it is about one. -/
def Notification.uri? : Notification → Option Uri
  | .opened uri _ _ => some uri
  | .changed uri _ _ => some uri
  | .saved uri _ => some uri
  | .closed uri => some uri
  | _ => none

/-- **What a notification can do to the document of a URI.** -/
inductive ServerState.Effect (s : ServerState) (uri : Uri) : Notification → StepResult → Prop
  /-- It does nothing to it. -/
  | kept {n : Notification} {r : StepResult}
      (hopened : ∀ text version, n = .opened uri text version → uri.sourcePath? = none)
      (hsnapshot : r.state.documents.snapshot? uri = s.documents.snapshot? uri)
      (hquiet : publications uri r.messages = []) : Effect s uri n r
  | opened {text : String} {version : Int} {r : StepResult} {path : Path}
      (hpath : uri.sourcePath? = some path)
      (hsnapshot : r.state.documents.snapshot? uri = some ⟨text, version⟩)
      (htasks : LintTask.of uri ⊆ r.tasks) (hquiet : publications uri r.messages = []) :
      Effect s uri (.opened uri text version) r
  | changed {texts : List String} {text : String} {version : Int} {r : StepResult} {old : Snapshot}
      (hopen : s.documents.snapshot? uri = some old)
      (hsnapshot : r.state.documents.snapshot? uri = some ⟨text, version⟩)
      (htasks : s.session.settings.current.lintOnChange = true → LintTask.of uri ⊆ r.tasks)
      (hquiet : publications uri r.messages = []) : Effect s uri (.changed uri texts version) r
  | saved {text : Option String} {r : StepResult} {old : Snapshot}
      (hopen : s.documents.snapshot? uri = some old)
      (hsnapshot : r.state.documents.snapshot? uri =
        some { old with text := text.getD old.text })
      (htasks : LintTask.of uri ⊆ r.tasks) (hquiet : publications uri r.messages = []) :
      Effect s uri (.saved uri text) r
  /-- What was shown for it is taken away. -/
  | closed {r : StepResult} {old : Snapshot} (hopen : s.documents.snapshot? uri = some old)
      (hsnapshot : r.state.documents.snapshot? uri = none)
      (hcleared : publications uri r.messages = [([], none)]) : Effect s uri (.closed uri) r

namespace ServerState

variable (s : ServerState) (uri : Uri)

/-- Where the settings ask for it, a change starts a lint. -/
theorem tasks_lintFor_changed {s : ServerState}
    (heager : s.session.settings.current.lintOnChange = true) (uri : Uri) :
    (s.lintFor .changed uri).tasks = LintTask.of uri :=
  if_pos heager

/-- Settings are no part of the documents, and where they are refused that is logged. -/
theorem applySettings_keeps (value : Json) :
    (s.applySettings value).2.state.documents = s.documents ∧
      (s.applySettings value).2.tasks = [] ∧
      ∀ uri, publications uri (s.applySettings value).2.messages = [] := by
  rw [applySettings]
  split <;> exact ⟨rfl, rfl, fun _ => rfl⟩

theorem effect_opened (about : Uri) (text : String) (version : Int) :
    s.Effect uri (.opened about text version) (s.handle (.opened about text version)) := by
  rw [handle, PendingOpen.begin]
  cases hpath : about.sourcePath? with
  | none =>
    refine .kept ?_ rfl rfl
    rintro _ _ h
    obtain rfl := (Notification.opened.inj h).1
    exact hpath
  | some path =>
    have hsnapshot := DocumentStore.snapshot?_openAt s.documents about uri text version
      (s.files.readText path).toOption
    by_cases habout : uri = about
    · subst habout
      rw [if_pos rfl] at hsnapshot
      exact .opened hpath hsnapshot (fun _ h => h) rfl
    · rw [if_neg habout] at hsnapshot
      refine .kept ?_ hsnapshot rfl
      rintro _ _ h
      exact absurd (Notification.opened.inj h).1.symm habout

theorem effect_changed (about : Uri) (texts : List String) (version : Int) :
    s.Effect uri (.changed about texts version) (s.handle (.changed about texts version)) := by
  rw [handle, handleChange]
  cases texts.getLast? with
  | none => exact .kept (by simp) rfl rfl
  | some text =>
    have hsnapshot := DocumentStore.snapshot?_changeAt s.documents about uri text version
    have hopen := DocumentStore.fst_changeAt s.documents about text version
    simp only
    rcases hchange : s.documents.changeAt about text version with ⟨_ | _, documents⟩
    · exact .kept (by simp) rfl rfl
    · rw [hchange] at hsnapshot hopen
      by_cases habout : uri = about
      · subst habout
        rw [if_pos ⟨rfl, hopen.symm⟩] at hsnapshot
        obtain ⟨old, hold⟩ := DocumentStore.exists_snapshot?_of_isOpen hopen.symm
        refine .changed hold hsnapshot (fun heager => ?_) rfl
        rw [← tasks_lintFor_changed (s := { s with documents }) heager uri]
        exact fun _ h => h
      · rw [if_neg fun h => habout h.1] at hsnapshot
        exact .kept (by simp) hsnapshot rfl

theorem effect_saved (about : Uri) (text : Option String) :
    s.Effect uri (.saved about text) (s.handle (.saved about text)) := by
  rw [handle, handleSave]
  split
  · exact .kept (by simp) rfl rfl
  · have hsnapshot := DocumentStore.snapshot?_saveAt s.documents about uri text
    have hopen := DocumentStore.fst_saveAt s.documents about text
    rcases hsave : s.documents.saveAt about text with ⟨_ | _, documents⟩
    · exact .kept (by simp) rfl rfl
    · rw [hsave] at hsnapshot hopen
      by_cases habout : uri = about
      · subst habout
        obtain ⟨old, hold⟩ := DocumentStore.exists_snapshot?_of_isOpen hopen.symm
        rw [if_pos rfl, hold] at hsnapshot
        exact .saved hold hsnapshot (fun _ h => h) rfl
      · rw [if_neg habout] at hsnapshot
        exact .kept (by simp) hsnapshot rfl

theorem effect_closed (about : Uri) :
    s.Effect uri (.closed about) (s.handle (.closed about)) := by
  have hsnapshot := DocumentStore.snapshot?_closeAt s.documents about uri
  by_cases habout : uri = about
  · subst habout
    rw [if_pos rfl] at hsnapshot
    cases hopen : s.documents.snapshot? uri with
    | none =>
      have hclosed : s.documents.isOpen uri = false := by
        rw [DocumentStore.isOpen_eq_isSome_snapshot?, hopen]
        rfl
      refine .kept (by simp) (hsnapshot.trans hopen.symm) ?_
      simp [handle, handleClose, DocumentStore.closeAt, hclosed]
    | some old =>
      have hwasOpen : s.documents.isOpen uri = true := by
        rw [DocumentStore.isOpen_eq_isSome_snapshot?, hopen]
        rfl
      refine .closed hopen hsnapshot ?_
      simp [handle, handleClose, DocumentStore.closeAt, hwasOpen, publications,
        ServerMessage.publication?]
  · rw [if_neg habout] at hsnapshot
    refine .kept (by simp) hsnapshot ?_
    rw [handle, handleClose, DocumentStore.closeAt]
    simp only
    cases s.documents.isOpen about with
    | true => simp [publications, ServerMessage.publication?, Ne.symm habout]
    | false => rfl

/-- **A notification has one of the effects.** -/
theorem effect_handle (n : Notification) : s.Effect uri n (s.handle n) := by
  cases n with
  | opened about text version => exact effect_opened s uri about text version
  | changed about texts version => exact effect_changed s uri about texts version
  | saved about text => exact effect_saved s uri about text
  | closed about => exact effect_closed s uri about
  | ready => exact .kept (by simp) rfl rfl
  | configuration payload =>
    rw [handle, handleConfiguration]
    split
    · exact .kept (by simp) rfl rfl
    · next value _ =>
      obtain ⟨hdocuments, -, hquiet⟩ := applySettings_keeps s value
      rcases happlied : s.applySettings value with ⟨_ | _, result⟩ <;>
        rw [happlied] at hdocuments hquiet
      · exact .kept (by simp) (by rw [hdocuments]) (hquiet uri)
      · exact .kept (by simp) (congrArg (DocumentStore.snapshot? · uri) hdocuments) rfl
  | watchedFiles uris =>
    rw [handle]
    split <;> exact .kept (by simp) rfl rfl
  | folders added removed => exact .kept (by simp) rfl rfl

/-- A notification publishes for a document only where it closes it. -/
theorem Effect.publications_cases {s : ServerState} {uri : Uri} {n : Notification} {r : StepResult}
    (h : s.Effect uri n r) :
    publications uri r.messages = [] ∨
      publications uri r.messages = [([], none)] ∧ ∃ old, s.documents.snapshot? uri = some old := by
  cases h with
  | kept hopened hsnapshot hquiet => exact Or.inl hquiet
  | opened hpath hsnapshot htasks hquiet => exact Or.inl hquiet
  | changed hopen hsnapshot htasks hquiet => exact Or.inl hquiet
  | saved hopen hsnapshot htasks hquiet => exact Or.inl hquiet
  | closed hopen hsnapshot hcleared => exact Or.inr ⟨hcleared, _, hopen⟩

end ServerState

/-! ### The lints that a notification starts -/

/-- **A task at its start**, with the path of a document that is linted. -/
structure LintTask.Starts (task : LintTask) : Prop where
  stage_eq : task.stage = .spawned
  path_eq : task.uri.sourcePath? = some task.path

theorem LintTask.starts_of_mem_of {uri : Uri} {task : LintTask} (h : task ∈ of uri) :
    task.Starts := by
  rw [of] at h
  split at h
  · next path hpath =>
    obtain rfl := List.mem_singleton.mp h
    exact ⟨rfl, hpath⟩
  · simp at h

namespace ServerState

theorem starts_of_mem_lintFor {s : ServerState} {event : DocumentEvent} {uri : Uri}
    {task : LintTask} (h : task ∈ (s.lintFor event uri).tasks) : task.Starts := by
  rw [lintFor] at h
  split at h
  · exact LintTask.starts_of_mem_of h
  · simp at h

theorem starts_of_mem_lintAll {s : ServerState} {task : LintTask} (h : task ∈ s.lintAll.tasks) :
    task.Starts := by
  obtain ⟨uri, -, hmem⟩ := List.mem_flatMap.mp h
  exact LintTask.starts_of_mem_of hmem

/-- Every task that a notification adds is at its start. -/
theorem starts_of_mem_handle {s : ServerState} {n : Notification} {task : LintTask}
    (h : task ∈ (s.handle n).tasks) : task.Starts := by
  cases n with
  | opened about text version =>
    rw [handle] at h
    split at h
    · exact starts_of_mem_lintFor h
    · simp at h
  | changed about texts version =>
    rw [handle, handleChange] at h
    split at h
    · simp at h
    · split at h
      · exact starts_of_mem_lintFor h
      · simp at h
  | saved about text =>
    rw [handle, handleSave] at h
    split at h
    · exact starts_of_mem_lintAll h
    · split at h
      · exact starts_of_mem_lintFor h
      · simp at h
  | configuration payload =>
    rw [handle, handleConfiguration] at h
    split at h
    · simp at h
    · next value _ =>
      obtain ⟨-, htasks, -⟩ := applySettings_keeps s value
      rcases happlied : s.applySettings value with ⟨_ | _, result⟩ <;>
        rw [happlied] at h htasks
      · rw [htasks] at h
        simp at h
      · exact starts_of_mem_lintAll h
  | watchedFiles uris =>
    rw [handle] at h
    split at h
    · exact starts_of_mem_lintAll h
    · simp at h
  | closed about => simp [handle, handleClose] at h
  | ready => simp [handle] at h
  | folders added removed => simp [handle] at h

end ServerState

end LintHost
