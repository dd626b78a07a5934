import LintHost.Proofs.Config.Sections
import LintHost.Proofs.Server.Overtaking

/-!
# Settings follow the configuration

The client gives settings to the server twice over: with the options that it starts with, and with
each payload of changed configuration. What arrives may be meant for others, or be no settings at
all, and it arrives between notifications about documents, while openings wait and lints are under
way. In every run the settings are those of the last value that was accepted, or the defaults if
none was (`LintHost.LastAccepted`), and a value that is accepted leaves nothing of an earlier one.

The argument has two sides. What is not a payload of changed configuration does not touch the
settings (`LintHost.Handling.settings_step`), so that a run is told by its payloads alone. A payload
is accepted or it is not: then nothing at all happens, and otherwise the settings are replaced, the
places of configuration files are forgotten, and each open document is linted anew. That a lint can
be started for each of them is an invariant of its own, `LintHost.Handling.Sourced`: only documents
that are linted are ever stored.
-/

namespace LintHost

/-! ### What is accepted -/

/-- **A value that is accepted** as settings. -/
def IsSettings (value : Json) : Prop :=
  ∃ settings, Settings.ofJson value = .ok settings

/-- **An event that brings a value that is accepted**: a payload of changed configuration that
carries it. -/
def HandlingEvent.Accepts (e : HandlingEvent) (value : Json) : Prop :=
  ∃ payload, e = .event (.notified (.configuration payload)) ∧ Carries payload value ∧
    IsSettings value

/-- **The last value that has been accepted** of the options of a client and of what happens
afterwards, if one has been. -/
inductive LastAccepted (options : Option Json) (events : List HandlingEvent) : Option Json → Prop
  | changed {before : List HandlingEvent} {e : HandlingEvent} {value : Json}
      (hlasts : Lasts (fun e => ∃ value, e.Accepts value) events before e)
      (haccepts : e.Accepts value) : LastAccepted options events (some value)
  /-- The client has started with it, and nothing was accepted since. -/
  | offered {given value : Json} (hnever : ∀ e ∈ events, ∀ value, ¬e.Accepts value)
      (hoptions : options = some given) (hoffers : Offers given value)
      (hsettings : IsSettings value) : LastAccepted options events (some value)
  | nothing (hnever : ∀ e ∈ events, ∀ value, ¬e.Accepts value)
      (hnothing : ∀ given value, options = some given → Offers given value → ¬IsSettings value) :
      LastAccepted options events none

theorem Carries.unique {payload value other : Json} (h : Carries payload value)
    (hother : Carries payload other) : value = other :=
  Option.some.inj (h.1.symm.trans hother.1)

theorem HandlingEvent.accepts_configuration_iff {payload value : Json} :
    (HandlingEvent.event (.notified (.configuration payload))).Accepts value ↔
      Carries payload value ∧ IsSettings value := by
  constructor
  · rintro ⟨_, hsame, haccepted⟩
    obtain rfl := Notification.configuration.inj (ServiceEvent.notified.inj
      (HandlingEvent.event.inj hsame))
    exact haccepted
  · exact fun haccepted => ⟨payload, rfl, haccepted⟩

theorem HandlingEvent.Accepts.unique {e : HandlingEvent} {value other : Json} (h : e.Accepts value)
    (hother : e.Accepts other) : value = other := by
  obtain ⟨payload, rfl, hcarries, -⟩ := h
  exact hcarries.unique (accepts_configuration_iff.mp hother).1

section LastAccepted

variable {options : Option Json} {events : List HandlingEvent} {e : HandlingEvent} {value : Json}
  {value? : Option Json}

/-- What has just been accepted is the last. -/
theorem lastAccepted_concat_of_accepts (he : e.Accepts value) :
    LastAccepted options (events ++ [e]) value? ↔ value? = some value := by
  constructor
  · intro h
    cases h with
    | changed hlasts haccepts =>
      obtain ⟨-, rfl⟩ | ⟨-, hnot⟩ := lasts_concat_iff.mp hlasts
      · rw [haccepts.unique he]
      · exact absurd ⟨value, he⟩ hnot
    | offered hnever => exact absurd he (hnever e List.mem_concat_self value)
    | nothing hnever => exact absurd he (hnever e List.mem_concat_self value)
  · rintro rfl
    exact .changed (lasts_concat_self _ _ _) he

/-- What is not accepted does not count. -/
theorem lastAccepted_concat_of_not (he : ∀ value, ¬e.Accepts value) :
    LastAccepted options (events ++ [e]) value? ↔ LastAccepted options events value? := by
  have hnot : ¬∃ value, e.Accepts value := fun ⟨value, h⟩ => he value h
  have hnever : (∀ e' ∈ events ++ [e], ∀ value, ¬e'.Accepts value) ↔
      ∀ e' ∈ events, ∀ value, ¬e'.Accepts value := by
    rw [List.forall_mem_append, List.forall_mem_singleton]
    exact and_iff_left he
  constructor
  · intro h
    cases h with
    | changed hlasts haccepts =>
      obtain ⟨-, rfl⟩ | ⟨hlasts, -⟩ := lasts_concat_iff.mp hlasts
      · exact absurd haccepts (he _)
      · exact .changed hlasts haccepts
    | offered h hoptions hoffers hsettings =>
      exact .offered (hnever.mp h) hoptions hoffers hsettings
    | nothing h hnothing => exact .nothing (hnever.mp h) hnothing
  · intro h
    cases h with
    | changed hlasts haccepts => exact .changed (hlasts.concat hnot) haccepts
    | offered h hoptions hoffers hsettings =>
      exact .offered (hnever.mpr h) hoptions hoffers hsettings
    | nothing h hnothing => exact .nothing (hnever.mpr h) hnothing

theorem exists_lastAccepted (options : Option Json) (events : List HandlingEvent) :
    ∃ value?, LastAccepted options events value? := by
  induction events using List.reverseRecOn with
  | nil =>
    by_cases h : ∃ given value, options = some given ∧ Offers given value ∧ IsSettings value
    · obtain ⟨given, value, hoptions, hoffers, hsettings⟩ := h
      exact ⟨some value, .offered (by simp) hoptions hoffers hsettings⟩
    · exact ⟨none, .nothing (by simp) fun given value hoptions hoffers hsettings =>
        h ⟨given, value, hoptions, hoffers, hsettings⟩⟩
  | append_singleton events e ih =>
    by_cases he : ∃ value, e.Accepts value
    · obtain ⟨value, he⟩ := he
      exact ⟨some value, (lastAccepted_concat_of_accepts he).mpr rfl⟩
    · obtain ⟨value?, ih⟩ := ih
      exact ⟨value?, (lastAccepted_concat_of_not fun value h => he ⟨value, h⟩).mpr ih⟩

end LastAccepted

/-! ### What a step does to the settings -/

theorem LintSession.settings_begin (session : LintSession) (fs : FileSystem) (doc : DocumentView) :
    (session.begin fs doc).2.1.settings = session.settings := by
  rw [begin]
  split
  · rfl
  · simp only [check]
    split
    · rfl
    · split <;> rfl

theorem LintTask.Move.settings_eq {task : LintTask} {s : ServerState} {r : StepResult}
    {answer? : Option (Except SystemError RawResult)} (h : task.Move s answer? r) :
    r.state.session.settings = s.session.settings := by
  cases h with
  | begun hstage hlint =>
    have hsettings := s.session.settings_begin s.files (s.documents.view task.uri task.path)
    rw [hlint] at hsettings
    exact hsettings
  | _ => rfl

namespace ServerState

variable (s : ServerState)

/-- The state with settings in place, and with nothing remembered of configuration files. -/
def reconfigured (settings : Settings) : ServerState :=
  { s with
    session :=
      { s.session with
        settings := ⟨settings⟩
        finder := { s.session.finder with memory := [] } } }

theorem applySettings_of_ok {value : Json} {settings : Settings}
    (h : Settings.ofJson value = .ok settings) :
    s.applySettings value = (true, { state := s.reconfigured settings }) := by
  rw [applySettings, SettingsStore.update, h]
  rfl

theorem applySettings_of_not {value : Json} (h : ¬IsSettings value) :
    (s.applySettings value).1 = false ∧ (s.applySettings value).2.state = s ∧
      (s.applySettings value).2.tasks = [] := by
  rw [applySettings, SettingsStore.update]
  cases hvalue : Settings.ofJson value with
  | ok settings => exact absurd ⟨settings, hvalue⟩ h
  | error e => exact ⟨rfl, rfl, rfl⟩

/-- A payload that carries settings puts them in place and starts a lint of all documents. -/
theorem handleConfiguration_of_ok {payload value : Json} {settings : Settings}
    (hcarries : Carries payload value) (hsettings : Settings.ofJson value = .ok settings) :
    s.handleConfiguration payload = (s.reconfigured settings).lintAll := by
  rw [handleConfiguration, configurationSettings_eq_some_iff.mpr hcarries]
  simp only [s.applySettings_of_ok hsettings]

/-- A payload that carries no settings does nothing. -/
theorem handleConfiguration_of_not {payload : Json}
    (h : ∀ value, Carries payload value → ¬IsSettings value) :
    (s.handleConfiguration payload).state = s ∧ (s.handleConfiguration payload).tasks = [] := by
  rw [handleConfiguration]
  split
  · exact ⟨rfl, rfl⟩
  · next value hvalue =>
    obtain ⟨hrefused, hkept⟩ :=
      s.applySettings_of_not (h value (configurationSettings_eq_some_iff.mp hvalue))
    rcases happlied : s.applySettings value with ⟨_ | _, result⟩ <;> rw [happlied] at hrefused hkept
    · exact hkept
    · simp at hrefused

/-- **Only changed configuration changes the settings.** -/
theorem settings_handle {n : Notification} (h : ∀ payload, n ≠ .configuration payload) :
    (s.handle n).state.session.settings = s.session.settings := by
  cases n with
  | configuration payload => exact absurd rfl (h payload)
  | opened uri text version =>
    rw [handle]
    split <;> rfl
  | changed uri texts version =>
    rw [handle, handleChange]
    split
    · rfl
    · split <;> rfl
  | saved uri text =>
    rw [handle, handleSave]
    split
    · rfl
    · split <;> rfl
  | watchedFiles uris =>
    rw [handle]
    split <;> rfl
  | closed uri => rfl
  | ready => rfl
  | folders added removed => rfl

/-! ### What a step does to the open documents -/

/-- A notification leaves the store as the server keeps it. -/
theorem kept_handle (h : s.documents.Kept) (n : Notification) :
    (s.handle n).state.documents.Kept := by
  cases n with
  | opened uri text version =>
    rw [handle, PendingOpen.begin]
    cases hpath : uri.sourcePath? with
    | none => exact h
    | some path => exact h.insert ⟨path, hpath⟩ _
  | changed uri texts version =>
    rw [handle, handleChange]
    split
    · exact h
    · next text _ =>
      have hchanged := h.changeAt uri text version
      split
      · next documents hchange => rwa [hchange] at hchanged
      · exact h
  | saved uri text =>
    rw [handle, handleSave]
    split
    · exact h
    · have hsaved := h.saveAt uri text
      split
      · next documents hsave => rwa [hsave] at hsaved
      · exact h
  | closed uri => exact h.closeAt uri
  | configuration payload =>
    rw [handle, handleConfiguration]
    split
    · exact h
    · next value _ =>
      obtain ⟨hdocuments, -, -⟩ := applySettings_keeps s value
      rcases happlied : s.applySettings value with ⟨_ | _, result⟩ <;> rw [happlied] at hdocuments
      · exact hdocuments ▸ h
      · exact hdocuments ▸ h
  | watchedFiles uris =>
    rw [handle]
    split <;> exact h
  | ready => exact h
  | folders added removed => exact h

/-- **A lint of all documents** is one task for each that is open. -/
theorem map_uri_lintAll (h : s.documents.Kept) :
    s.lintAll.tasks.map (·.uri) = s.documents.uris := by
  rw [lintAll, List.map_flatMap]
  have hone : ∀ uri ∈ s.documents.uris, (LintTask.of uri).map (·.uri) = [uri] := by
    intro uri huri
    obtain ⟨path, hpath⟩ := h.source uri huri
    rw [LintTask.of, hpath]
    rfl
  rw [List.flatMap_congr hone, List.flatMap_singleton']

end ServerState

namespace Handling

variable (h : Handling)

/-- The settings in force. -/
def settings : Settings :=
  h.service.state.session.settings.current

/-- **What an event can be** to the server with the openings that wait. -/
inductive Progress : HandlingEvent → Handling → Prop
  | waits (uri : Uri) (text : String) (version : Int) :
      Progress (.event (.notified (.opened uri text version)))
        { h with
          waiting := h.waiting ++ (PendingOpen.begin h.service.state uri text version).toList }
  | serves {e : ServiceEvent} : Progress (.event e) { h with service := h.service.step e }
  | stores {place : Nat} {pending : PendingOpen} (hplace : h.waiting[place]? = some pending) :
      Progress (.read place) (h.store place pending)
  | idles {place : Nat} : Progress (.read place) h

theorem progress (e : HandlingEvent) : h.Progress e (h.step e) := by
  cases e with
  | event e =>
    cases e with
    | notified n =>
      cases n with
      | opened uri text version => exact .waits uri text version
      | _ => exact .serves
    | _ => exact .serves
  | read place =>
    rw [step]
    split
    · next pending hplace => exact .stores hplace
    · exact .idles

/-- **Only changed configuration changes the settings**, whatever else happens. -/
theorem settings_step {e : HandlingEvent}
    (he : ∀ payload, e ≠ .event (.notified (.configuration payload))) :
    (h.step e).settings = h.settings := by
  have hprogress := h.progress e
  generalize h.step e = h' at hprogress ⊢
  cases hprogress with
  | waits uri text version => rfl
  | stores hplace => rfl
  | idles => rfl
  | @serves e =>
    refine congrArg SettingsStore.current ?_
    have hreaction := h.service.reaction e
    generalize h.service.step e = service, h.service.messages e = messages at hreaction ⊢
    cases hreaction with
    | handled n =>
      exact h.service.state.settings_handle fun payload hn => he payload (by rw [hn])
    | moved hturn htasks hmove => exact hmove.settings_eq
    | idled hevent files => rfl

/-- A payload that carries no settings leaves everything as it is. -/
theorem step_configuration_of_not {payload : Json}
    (hnot : ∀ value, Carries payload value → ¬IsSettings value) :
    h.step (.event (.notified (.configuration payload))) = h := by
  obtain ⟨hstate, htasks⟩ := h.service.state.handleConfiguration_of_not hnot
  simp only [step, Service.step, Service.react, ServerState.handle, hstate, htasks,
    List.append_nil]

theorem step_configuration_of_ok {payload value : Json} {settings : Settings}
    (hcarries : Carries payload value) (hsettings : Settings.ofJson value = .ok settings) :
    h.step (.event (.notified (.configuration payload))) =
      { h with
        service :=
          { state := h.service.state.reconfigured settings
            tasks := h.service.tasks ++ h.service.state.lintAll.tasks } } := by
  simp only [step, Service.step, Service.react, ServerState.handle,
    h.service.state.handleConfiguration_of_ok hcarries hsettings]
  rfl

/-! ### The documents of a run -/

/-- **Only documents that are linted** are open, or wait to be. -/
structure Sourced : Prop where
  documents : h.service.state.documents.Kept
  waiting : ∀ pending ∈ h.waiting, ∃ path, pending.uri.sourcePath? = some path

variable {h}

theorem Sourced.step (hsourced : h.Sourced) (e : HandlingEvent) : (h.step e).Sourced := by
  have hprogress := h.progress e
  generalize h.step e = h' at hprogress ⊢
  cases hprogress with
  | waits uri text version =>
    refine ⟨hsourced.documents, fun pending hmem => ?_⟩
    obtain hold | hnew := List.mem_append.mp hmem
    · exact hsourced.waiting pending hold
    · obtain ⟨path, hpath, rfl⟩ := Option.map_eq_some_iff.mp (Option.mem_toList.mp hnew)
      exact ⟨path, hpath⟩
  | @serves e =>
    refine ⟨?_, hsourced.waiting⟩
    have hreaction := h.service.reaction e
    generalize h.service.step e = service, h.service.messages e = messages at hreaction ⊢
    cases hreaction with
    | handled n => exact h.service.state.kept_handle hsourced.documents n
    | moved hturn htasks hmove => exact hmove.documents_eq ▸ hsourced.documents
    | idled hevent files => exact hsourced.documents
  | @stores place pending hplace =>
    -- What is stored has waited, and what still waits has waited before.
    refine ⟨hsourced.documents.insert (hsourced.waiting pending (List.mem_of_getElem? hplace)) _,
      fun other hmem => hsourced.waiting other ?_⟩
    obtain hleft | hright := List.mem_append.mp hmem
    · exact List.mem_of_mem_take hleft
    · exact List.mem_of_mem_drop hright
  | idles => exact hsourced

theorem Sourced.run (hsourced : h.Sourced) (events : List HandlingEvent) :
    (h.run events).Sourced := by
  induction events using List.reverseRecOn with
  | nil => exact hsourced
  | append_singleton events e ih =>
    rw [run_concat]
    exact ih.step e

/-! ### A client that starts -/

/-- **A server whose client has just started**, with its folders, its root and its options. -/
def started (files : FileSystem) (folders : List Uri) (root : Option Uri)
    (options : Option Json) : Handling where
  service := { state := (ServerState.start { files } folders root options).state }

variable (files : FileSystem) (folders : List Uri) (root : Option Uri) {options : Option Json}

/-- What a client starts with is no more than settings and roots. -/
theorem started_keeps (options : Option Json) :
    (started files folders root options).service.state.documents = {} ∧
      (started files folders root options).service.state.session.finder = {} := by
  rw [started, ServerState.start]
  simp only
  split
  · next value _ =>
    simp only [ServerState.applySettings, SettingsStore.update]
    cases Settings.ofJson value <;> exact ⟨rfl, rfl⟩
  · exact ⟨rfl, rfl⟩

theorem sourced_started (options : Option Json) : (started files folders root options).Sourced where
  documents := by
    rw [(started_keeps files folders root options).1]
    exact ⟨List.nodup_nil, nofun⟩
  waiting := nofun

/-- The settings at the start are those of what is offered, if they are settings. -/
theorem settings_started {value? : Option Json} (haccepted : LastAccepted options [] value?) :
    value?.elim (.ok {}) Settings.ofJson = .ok (started files folders root options).settings := by
  rw [started, ServerState.start]
  cases haccepted with
  | changed hlasts => exact absurd hlasts not_lasts_nil
  | offered hnever hoptions hoffers hsettings =>
    obtain ⟨settings, hsettings⟩ := hsettings
    simp only [hoptions, Option.bind_some, initializationSettings_eq_some_iff.mpr hoffers,
      ServerState.applySettings_of_ok _ hsettings]
    exact hsettings
  | nothing hnever hnothing =>
    simp only
    split
    · next value hvalue =>
      obtain ⟨given, hoptions, hoffers⟩ := Option.bind_eq_some_iff.mp hvalue
      have hnot := hnothing given value hoptions (initializationSettings_eq_some_iff.mp hoffers)
      simp only [settings, (ServerState.applySettings_of_not _ hnot).2.1]
      rfl
    · rfl

/-! ### The settings of a run -/

/-- **The settings in force** are those of the last value that was accepted. -/
theorem settings_run {events : List HandlingEvent} {value? : Option Json}
    (haccepted : LastAccepted options events value?) :
    value?.elim (.ok {}) Settings.ofJson =
      .ok ((started files folders root options).run events).settings := by
  induction events using List.reverseRecOn generalizing value? with
  | nil => exact settings_started files folders root haccepted
  | append_singleton events e ih =>
    rw [run_concat]
    by_cases he : ∃ value, e.Accepts value
    · obtain ⟨value, he⟩ := he
      obtain rfl := (lastAccepted_concat_of_accepts he).mp haccepted
      obtain ⟨payload, rfl, hcarries, settings, hsettings⟩ := he
      rw [step_configuration_of_ok _ hcarries hsettings]
      exact hsettings
    · have hnot : ∀ value, ¬e.Accepts value := fun value h => he ⟨value, h⟩
      have hbefore := ih ((lastAccepted_concat_of_not hnot).mp haccepted)
      -- A payload that is not accepted does nothing, and no other event touches the settings.
      by_cases hpayload : ∃ payload, e = .event (.notified (.configuration payload))
      · obtain ⟨payload, rfl⟩ := hpayload
        rw [step_configuration_of_not _ fun value hcarries hsettings =>
          hnot value (HandlingEvent.accepts_configuration_iff.mpr ⟨hcarries, hsettings⟩)]
        exact hbefore
      · rw [settings_step _ fun payload h => hpayload ⟨payload, h⟩]
        exact hbefore

/-- **A server that has taken over settings**: they are in place, nothing is remembered of
configuration files, and there is one new task, at its start, for each open document. -/
def Reconfigured (h : Handling) (settings : Settings) (h' : Handling) : Prop :=
  ∃ new : List LintTask,
    h' =
      { h with
        service :=
          { state := h.service.state.reconfigured settings
            tasks := h.service.tasks ++ new } } ∧
    (∀ task ∈ new, task.Starts) ∧ (new.map (·.uri)).Nodup ∧
    ∀ uri, uri ∈ new.map (·.uri) ↔ h.service.state.documents.isOpen uri = true

theorem Sourced.reconfigured (hsourced : h.Sourced) {payload value : Json} {settings : Settings}
    (hcarries : Carries payload value) (hsettings : Settings.ofJson value = .ok settings) :
    h.Reconfigured settings (h.step (.event (.notified (.configuration payload)))) := by
  refine ⟨_, h.step_configuration_of_ok hcarries hsettings,
    fun task => ServerState.starts_of_mem_lintAll, ?_⟩
  rw [h.service.state.map_uri_lintAll hsourced.documents]
  exact ⟨hsourced.documents.nodup, fun uri => DocumentStore.isOpen_iff_mem_uris.symm⟩

/-- **Settings follow the last valid configuration and nothing else.** Whatever a client starts
with, and whatever happens afterwards in whatever order: the settings in force are what is read from
the last value that was accepted, each of them as that value gives it or else the default, and the
defaults if no value was. A start remembers nothing of configuration files and starts no lint. A
payload that carries no value, or one that is refused, leaves everything as it is. One that is
accepted replaces the settings, empties the memory of configuration files, and starts one lint of
each open document. -/
theorem settings_follow_configuration (files : FileSystem) (folders : List Uri) (root : Option Uri)
    (options : Option Json) (events : List HandlingEvent) :
    let start := started files folders root options
    let h := start.run events
    (start.service.tasks = [] ∧ start.service.state.session.finder = {}) ∧
    (∃ value?, LastAccepted options events value?) ∧
    (∀ value?, LastAccepted options events value? →
      value?.elim (.ok {}) Settings.ofJson = .ok h.settings ∧
      ∀ key ∈ Settings.keys, h.settings.toJson.member? key =
        (value?.bind (Settings.given? · key)).or (({} : Settings).toJson.member? key)) ∧
    (∀ payload, (∀ value, ¬Carries payload value) →
      h.step (.event (.notified (.configuration payload))) = h) ∧
    (∀ payload value, Carries payload value → ¬IsSettings value →
      h.step (.event (.notified (.configuration payload))) = h) ∧
    ∀ payload value settings, Carries payload value → Settings.ofJson value = .ok settings →
      h.Reconfigured settings (h.step (.event (.notified (.configuration payload)))) := by
  intro start h
  have hread : ∀ value?, LastAccepted options events value? →
      value?.elim (.ok {}) Settings.ofJson = .ok h.settings :=
    fun value? => settings_run files folders root
  refine ⟨⟨rfl, (started_keeps files folders root options).2⟩, exists_lastAccepted options events,
    fun value? hlast => ⟨hread value? hlast, ?_⟩, fun payload hnone => ?_,
    fun payload value hcarries hnot => ?_, fun payload value settings hcarries hsettings => ?_⟩
  · cases value? with
    | none =>
      have hdefaults : {} = h.settings := Except.ok.inj (hread none hlast)
      exact fun key _ => by rw [← hdefaults]; rfl
    | some value => exact Settings.member?_toJson_of_ofJson (hread (some value) hlast)
  · exact h.step_configuration_of_not fun value hcarries => absurd hcarries (hnone value)
  · exact h.step_configuration_of_not fun other hother => hcarries.unique hother ▸ hnot
  · exact ((sourced_started files folders root options).run events).reconfigured hcarries hsettings

/-- Two payloads are accepted one after the other, with a document that is open. Then one is
refused, one has nothing in the member for this server, and one is meant for others. Nothing is left
of the options of the start or of the first payload. -/
theorem settings_follow_configuration_refused :
    let uri : Uri := ⟨"file", some ⟨[], .empty, none⟩, "/w/a.py", none, none⟩
    let options : Json := .object [("lintOnChange", .bool false)]
    let payload (settings : Json) : Json := .object [("mypyLint", settings)]
    let second : Json := .object [("debug", .bool true)]
    let refused : Json := .object [("debug", .string "x")]
    let changed (payload : Json) : HandlingEvent := .event (.notified (.configuration payload))
    let events : List HandlingEvent :=
      [.event (.notified (.opened uri "a" 1)), .read 0,
        changed (payload (.object [("mypyCommand", .string "mypy")])), changed (payload second),
        changed (payload refused), changed (payload .null), changed (.object [("other", second)])]
    let h := (started {} [] none (some options)).run events
    LastAccepted (some options) events (some second) ∧ h.settings = { debug := true } ∧
      h.step (changed (payload refused)) = h ∧ h.service.state.documents.isOpen uri = true ∧
      h.Reconfigured { lintOnChange := false } (h.step (changed (payload options))) := by
  intro uri options payload second refused changed events h
  have hcarries : ∀ value, value ≠ .null → Carries (payload value) value :=
    fun value hvalue => ⟨rfl, hvalue⟩
  have hrefused : ¬IsSettings refused := by
    rintro ⟨settings, hsettings⟩
    exact absurd hsettings nofun
  have hlasts : Lasts (fun e => ∃ value, e.Accepts value) events (events.take 3)
      (changed (payload second)) := by
    have hnot : ∀ other, (∀ value, Carries other value → ¬IsSettings value) →
        ¬∃ value, (changed other).Accepts value := by
      rintro other hother ⟨value, haccepts⟩
      obtain ⟨hvalue, hsettings⟩ := HandlingEvent.accepts_configuration_iff.mp haccepts
      exact hother value hvalue hsettings
    refine ⟨events.drop 4, rfl, ?_⟩
    simp only [events, List.drop_succ_cons, List.drop_zero, List.forall_mem_cons]
    refine ⟨hnot _ fun value hvalue => ?_, hnot _ fun value hvalue => ?_,
      hnot _ fun value hvalue => ?_, nofun⟩
    · exact (hcarries refused nofun).unique hvalue ▸ hrefused
    · exact absurd (Option.some.inj hvalue.1).symm hvalue.2
    · exact absurd hvalue.1 nofun
  have hlast : LastAccepted (some options) events (some second) :=
    .changed hlasts ⟨payload second, rfl, hcarries second nofun, _, rfl⟩
  obtain ⟨-, -, hread, -, hkept, hnew⟩ :=
    settings_follow_configuration {} [] none (some options) events
  exact ⟨hlast, (Except.ok.inj (hread _ hlast).1).symm, hkept _ _ (hcarries refused nofun) hrefused,
    by decide +kernel, hnew _ options _ (hcarries options nofun) rfl⟩

end Handling

end LintHost
