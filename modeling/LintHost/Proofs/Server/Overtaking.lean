import LintHost.Proofs.Sequence.Lasting
import LintHost.Proofs.Server.Interleaving
import Mathlib.Data.List.Induction
import Mathlib.Data.List.Infix

/-!
# Messages that overtake an opening

The handlers of messages start in the order in which the messages arrive, but a handler that waits
may be overtaken by those that start later. Of the handlers for documents only that of an opening
waits: it reads the file first and stores the document afterwards. `LintHost.Handling` is the server
together with the openings that wait, and `LintHost.HandlingEvent` is what can happen next: a
handler starts, a file has been read, or a task goes on. An opening whose file is read at once is
the one step that it is in `LintHost.Service` (`LintHost.Handling.step_read_opened`).

An edit that overtakes the opening of its document finds no document, or one that is about to be
replaced, and so nothing is left of it once the opening is stored. Seen from one document a run has
three stages (`LintHost.Handling.Stage`): the opening has not arrived; it waits, and whatever
arrives is lost; it is stored, and from then on the document follows the client. What is stored in
the end are the last text and version of the opening and of the edits that did not overtake it
(`LintHost.Handling.snapshot?_run_overtaken`). That these are the last ones of all fails only where
every change has overtaken the opening, and it does fail there
(`LintHost.Handling.not_forall_snapshot?_run`).

How many handlers are under way at once is not limited here; a server with a limit has some of these
runs.
-/

namespace LintHost

/-! ### Messages about a document -/

namespace Notification

/-- The text and the version that an opening or a change gives to its document. -/
def given? : Notification → Option Snapshot
  | opened _ text version => some ⟨text, version⟩
  | changed _ texts version => texts.getLast?.map fun text => ⟨text, version⟩
  | _ => none

/-- **An edit of a document**: a change with a text, or a save without one. -/
inductive IsEdit (uri : Uri) : Notification → Prop
  | changed {texts : List String} {version : Int} (htexts : texts ≠ []) :
      IsEdit uri (.changed uri texts version)
  | saved : IsEdit uri (.saved uri none)

end Notification

namespace ServerState

/-- What is not about a document leaves it as it is. -/
theorem snapshot?_handle_of_uri?_ne {uri : Uri} {n : Notification} (h : n.uri? ≠ some uri)
    (s : ServerState) :
    (s.handle n).state.documents.snapshot? uri = s.documents.snapshot? uri := by
  cases s.effect_handle uri n with
  | kept hopened hsnapshot hquiet => exact hsnapshot
  | opened => exact absurd rfl h
  | changed => exact absurd rfl h
  | saved => exact absurd rfl h
  | closed => exact absurd rfl h

/-- **An edit of an open document** gives it what it brings. -/
theorem snapshot?_handle_of_isEdit {uri : Uri} {n : Notification} (h : n.IsEdit uri)
    {s : ServerState} {old : Snapshot} (hopen : s.documents.snapshot? uri = some old) :
    (s.handle n).state.documents.snapshot? uri = n.given?.or (some old) := by
  cases h with
  | @changed texts version htexts =>
    have hisOpen : s.documents.isOpen uri = true := by
      rw [DocumentStore.isOpen_eq_isSome_snapshot?, hopen]
      rfl
    have hsnapshot := DocumentStore.snapshot?_changeAt s.documents uri uri
      (texts.getLast htexts) version
    have hchanged := DocumentStore.fst_changeAt s.documents uri (texts.getLast htexts) version
    rw [if_pos ⟨rfl, hisOpen⟩] at hsnapshot
    rw [hisOpen] at hchanged
    rw [handle, handleChange, Notification.given?, List.getLast?_eq_some_getLast htexts]
    simp only
    rcases hchange : s.documents.changeAt uri (texts.getLast htexts) version with
      ⟨_ | _, documents⟩
    · simp [hchange] at hchanged
    · rw [hchange] at hsnapshot
      exact hsnapshot
  | saved =>
    have hnothing : (Notification.saved uri none).given? = none := rfl
    rw [hnothing, Option.none_or, ← hopen]
    cases s.effect_saved uri uri none with
    | kept hopened hsnapshot hquiet => exact hsnapshot
    | saved hold hsnapshot htasks hquiet => exact hsnapshot.trans hold.symm

/-- An opening that has been read is stored. -/
theorem snapshot?_finishOpen (s : ServerState) (pending : PendingOpen) (uri : Uri) :
    (s.finishOpen pending).state.documents.snapshot? uri =
      if uri = pending.uri then some ⟨pending.text, pending.version⟩
      else s.documents.snapshot? uri :=
  DocumentStore.snapshot?_openAt ..

end ServerState

/-! ### Handlers under way -/

/-- **The server with the openings that wait** for their files. -/
structure Handling where
  waiting : List PendingOpen := []
  service : Service := {}
deriving Inhabited

/-- What can happen next. -/
inductive HandlingEvent where
  /-- The handler of the next message starts, or something else happens than a message. -/
  | event (e : ServiceEvent)
  /-- The file of the opening at a place has been read. -/
  | read (place : Nat)
deriving Inhabited

/-- The message about a document whose handler starts, if one does. -/
def HandlingEvent.about? (uri : Uri) : HandlingEvent → Option Notification
  | .event (.notified n) => if n.uri? = some uri then some n else none
  | _ => none

/-- The messages about a document, in the order in which their handlers start. -/
def messagesOf (uri : Uri) (events : List HandlingEvent) : List Notification :=
  events.filterMap (HandlingEvent.about? uri)

theorem messagesOf_concat (uri : Uri) (events : List HandlingEvent) (e : HandlingEvent) :
    messagesOf uri (events ++ [e]) = messagesOf uri events ++ (e.about? uri).toList := by
  rw [messagesOf, List.filterMap_append, messagesOf]
  cases he : e.about? uri <;> simp [he]

namespace Handling

/-- A server that has not been notified of anything. -/
def fresh (session : LintSession) (files : FileSystem) : Handling where
  service := .fresh session files

/-- An opening is stored, and its lint starts. -/
def store (h : Handling) (place : Nat) (pending : PendingOpen) : Handling :=
  let r := h.service.state.finishOpen pending
  { waiting := h.waiting.take place ++ h.waiting.drop (place + 1)
    service := { state := r.state, tasks := h.service.tasks ++ r.tasks } }

/-- What an event leaves. The handler of an opening starts to wait, and all others come to their
end. -/
def step (h : Handling) : HandlingEvent → Handling
  | .event (.notified (.opened uri text version)) =>
    { h with
      waiting := h.waiting ++ (PendingOpen.begin h.service.state uri text version).toList }
  | .event e => { h with service := h.service.step e }
  | .read place =>
    match h.waiting[place]? with
    | some pending => h.store place pending
    | none => h

/-- What some events leave. -/
def run (h : Handling) (events : List HandlingEvent) : Handling :=
  events.foldl step h

theorem run_concat (h : Handling) (events : List HandlingEvent) (e : HandlingEvent) :
    h.run (events ++ [e]) = (h.run events).step e := by
  rw [run, List.foldl_append]
  rfl

/-- The openings of a document that wait. -/
def openings (h : Handling) (uri : Uri) : List PendingOpen :=
  h.waiting.filter (·.uri = uri)

/-- **The messages about a document that overtake an opening of it**: their handlers start while it
waits. -/
def overtaking (uri : Uri) : Handling → List HandlingEvent → List Notification
  | _, [] => []
  | h, e :: events =>
    (if h.openings uri = [] then [] else (e.about? uri).toList) ++ (h.step e).overtaking uri events

theorem overtaking_concat (uri : Uri) (h : Handling) (events : List HandlingEvent)
    (e : HandlingEvent) :
    h.overtaking uri (events ++ [e]) = h.overtaking uri events ++
      if (h.run events).openings uri = [] then [] else (e.about? uri).toList := by
  induction events generalizing h with
  | nil => exact List.append_nil _
  | cons first events ih =>
    rw [List.cons_append, overtaking, overtaking, ih, List.append_assoc]
    rfl

/-- An opening whose file is read at once is handled as in one step. -/
theorem step_read_opened (h : Handling) {uri : Uri} {path : Path}
    (hpath : uri.sourcePath? = some path) (text : String) (version : Int) :
    (h.step (.event (.notified (.opened uri text version)))).step (.read h.waiting.length) =
      { h with service := h.service.step (.notified (.opened uri text version)) } := by
  have hbegin : PendingOpen.begin h.service.state uri text version =
      some ⟨uri, text, version, (h.service.state.files.readText path).toOption⟩ := by
    rw [PendingOpen.begin, hpath, Option.map_some]
  simp [step, store, hbegin, Service.step, Service.react, ServerState.handle]

/-! ### What an event does to one document -/

/-- **What an event can do to a document** and to its openings, with the message about it whose
handler starts. -/
inductive Turn (uri : Uri) (h : Handling) : Option Notification → Handling → Prop
  /-- Nothing. -/
  | elsewhere {h' : Handling} (hopenings : h'.openings uri = h.openings uri)
      (hsnapshot : h'.service.snapshot? uri = h.service.snapshot? uri) : Turn uri h none h'
  | begun {h' : Handling} {text : String} {version : Int} (savedText : Option String)
      (hopenings : h'.openings uri = h.openings uri ++ [⟨uri, text, version, savedText⟩]) :
      Turn uri h (some (.opened uri text version)) h'
  /-- A message that does not wait is handled. -/
  | handled {h' : Handling} {n : Notification}
      (hopened : ∀ text version, n ≠ .opened uri text version)
      (hopenings : h'.openings uri = h.openings uri)
      (hsnapshot : h'.service.snapshot? uri =
        (h.service.state.handle n).state.documents.snapshot? uri) : Turn uri h (some n) h'
  | stored {h' : Handling} {left right : List PendingOpen} {pending : PendingOpen}
      (hbefore : h.openings uri = left ++ pending :: right)
      (hopenings : h'.openings uri = left ++ right)
      (hsnapshot : h'.service.snapshot? uri = some ⟨pending.text, pending.version⟩) :
      Turn uri h none h'

variable {uri : Uri} {path : Path}

theorem turn_opened (hpath : uri.sourcePath? = some path) (h : Handling) (about : Uri)
    (text : String) (version : Int) :
    h.Turn uri ((HandlingEvent.event (.notified (.opened about text version))).about? uri)
      (h.step (.event (.notified (.opened about text version)))) := by
  by_cases habout : about = uri
  · subst habout
    have hturn : (HandlingEvent.event (.notified (.opened about text version))).about? about =
        some (.opened about text version) := if_pos rfl
    rw [hturn]
    refine .begun (h.service.state.files.readText path).toOption ?_
    simp [step, openings, PendingOpen.begin, hpath]
  · have hturn : (HandlingEvent.event (.notified (.opened about text version))).about? uri = none :=
      if_neg fun hsame => habout (Option.some.inj hsame)
    rw [hturn]
    refine .elsewhere ?_ rfl
    cases hother : about.sourcePath? <;> simp [step, openings, PendingOpen.begin, hother, habout]

/-- All but openings are handled at once. -/
theorem turn_notified (h : Handling) {n : Notification}
    (hopened : ∀ about text version, n ≠ .opened about text version) :
    h.Turn uri ((HandlingEvent.event (.notified n)).about? uri)
      (h.step (.event (.notified n))) := by
  have hstep : h.step (.event (.notified n)) =
      { h with service := h.service.step (.notified n) } := by
    cases n with
    | opened about text version => exact absurd rfl (hopened about text version)
    | _ => rfl
  rw [hstep, HandlingEvent.about?]
  by_cases habout : n.uri? = some uri
  · rw [if_pos habout]
    exact .handled (hopened uri) rfl rfl
  · rw [if_neg habout]
    exact .elsewhere rfl (ServerState.snapshot?_handle_of_uri?_ne habout h.service.state)

/-- What is no message changes no document. -/
theorem turn_of_notification?_eq_none (h : Handling) {e : ServiceEvent}
    (he : e.notification? = none) :
    h.Turn uri ((HandlingEvent.event e).about? uri) (h.step (.event e)) := by
  have hsnapshot := (h.service.reaction e).snapshot?_eq he uri
  cases e with
  | notified n => simp [ServiceEvent.notification?] at he
  | _ => exact .elsewhere rfl hsnapshot

theorem turn_read (h : Handling) (place : Nat) :
    h.Turn uri ((HandlingEvent.read place).about? uri) (h.step (.read place)) := by
  rw [step]
  cases hplace : h.waiting[place]? with
  | none => exact .elsewhere rfl rfl
  | some pending =>
    obtain ⟨hlt, rfl⟩ := List.getElem?_eq_some_iff.mp hplace
    have hwaiting : h.openings uri = (h.waiting.take place).filter (·.uri = uri) ++
        (h.waiting[place] :: h.waiting.drop (place + 1)).filter (·.uri = uri) := by
      rw [← List.filter_append, ← List.drop_eq_getElem_cons hlt, List.take_append_drop]
      rfl
    have hleft : (h.store place h.waiting[place]).openings uri =
        (h.waiting.take place).filter (·.uri = uri) ++
          (h.waiting.drop (place + 1)).filter (·.uri = uri) := List.filter_append ..
    have hsnapshot := h.service.state.snapshot?_finishOpen h.waiting[place] uri
    -- An opening of another document leaves the openings of this one as they are.
    by_cases habout : h.waiting[place].uri = uri
    · rw [List.filter_cons_of_pos (by simpa using habout)] at hwaiting
      rw [if_pos habout.symm] at hsnapshot
      exact .stored hwaiting hleft hsnapshot
    · rw [List.filter_cons_of_neg (by simpa using habout)] at hwaiting
      rw [if_neg (Ne.symm habout)] at hsnapshot
      exact .elsewhere (hleft.trans hwaiting.symm) hsnapshot

/-- **Every event is one of these.** -/
theorem turn (hpath : uri.sourcePath? = some path) (h : Handling) (e : HandlingEvent) :
    h.Turn uri (e.about? uri) (h.step e) := by
  cases e with
  | read place => exact turn_read h place
  | event e =>
    obtain ⟨n, rfl⟩ | he := e.eq_notified_or
    · cases n with
      | opened about text version => exact turn_opened hpath h about text version
      | _ => exact turn_notified h (by simp)
    · exact turn_of_notification?_eq_none h he

/-! ### The stages of an opening -/

/-- **How far the opening of a document is**, by the messages about it whose handlers have started
and by those of them that have overtaken it. -/
inductive Stage (uri : Uri) (text : String) (version : Int) :
    List Notification → List Notification → Handling → Prop
  /-- It has not arrived. -/
  | awaited {h : Handling} (hopenings : h.openings uri = []) : Stage uri text version [] [] h
  /-- It waits, and whatever has arrived since has overtaken it. -/
  | reading {h : Handling} {overtook : List Notification} (savedText : Option String)
      (hopenings : h.openings uri = [⟨uri, text, version, savedText⟩]) :
      Stage uri text version (.opened uri text version :: overtook) overtook h
  /-- It is stored, and the document follows the client since. -/
  | stored {h : Handling} {overtook since : List Notification} (hopenings : h.openings uri = [])
      (hsnapshot : h.service.snapshot? uri =
        latest? Notification.given? (.opened uri text version :: since)) :
      Stage uri text version (.opened uri text version :: (overtook ++ since)) overtook h

namespace Stage

variable {text : String} {version : Int} {messages overtook : List Notification} {h : Handling}

theorem not_isEdit_opened : ¬(Notification.opened uri text version).IsEdit uri := nofun

/-- **Every event keeps this**, as long as the opening comes first and edits follow. -/
theorem step (hpath : uri.sourcePath? = some path)
    (hstage : Stage uri text version messages overtook h) {e : HandlingEvent}
    (hnext : ∀ n, e.about? uri = some n →
      if messages = [] then n = .opened uri text version else n.IsEdit uri) :
    Stage uri text version (messages ++ (e.about? uri).toList)
      (overtook ++ if h.openings uri = [] then [] else (e.about? uri).toList) (h.step e) := by
  have hturn := h.turn hpath e
  generalize e.about? uri = n?, h.step e = h' at hnext hturn
  cases hstage with
  | awaited hopenings =>
    have hfirst : ∀ n, n? = some n → n = .opened uri text version := by simpa using hnext
    rw [if_pos hopenings]
    cases hturn with
    | elsewhere hsame hsnapshot => exact .awaited (hsame.trans hopenings)
    | begun savedText hwaits =>
      obtain ⟨-, rfl, rfl⟩ := Notification.opened.inj (hfirst _ rfl)
      rw [hopenings, List.nil_append] at hwaits
      exact .reading savedText hwaits
    | handled hopened hsame hsnapshot => exact absurd (hfirst _ rfl) (hopened text version)
    | stored hbefore hafter hsnapshot => simp [hopenings] at hbefore
  | @reading _ overtook savedText hopenings =>
    have hedit : ∀ n, n? = some n → n.IsEdit uri := by simpa using hnext
    have hwaits : h.openings uri ≠ [] := by simp [hopenings]
    rw [if_neg hwaits]
    cases hturn with
    | elsewhere hsame hsnapshot =>
      rw [Option.toList_none, List.append_nil, List.append_nil]
      exact .reading savedText (hsame.trans hopenings)
    | begun savedText' hwaits => exact absurd (hedit _ rfl) not_isEdit_opened
    | handled hopened hsame hsnapshot => exact .reading savedText (hsame.trans hopenings)
    | @stored _ left right pending hbefore hafter hsnapshot =>
      -- Only this opening waits, so it is the one that is stored.
      rw [hopenings] at hbefore
      obtain ⟨rfl, hpending⟩ | ⟨_, -, hnil⟩ := List.cons_eq_append_iff.mp hbefore
      · obtain ⟨rfl, rfl⟩ := List.cons.inj hpending
        rw [Option.toList_none, List.append_nil, List.append_nil]
        have hstored : Stage uri text version (.opened uri text version :: (overtook ++ []))
            overtook h' := .stored hafter hsnapshot
        rwa [List.append_nil] at hstored
      · simp at hnil
  | @stored _ overtook since hopenings hsnapshot =>
    have hedit : ∀ n, n? = some n → n.IsEdit uri := by simpa using hnext
    rw [if_pos hopenings, List.append_nil]
    cases hturn with
    | elsewhere hsame hkept =>
      rw [Option.toList_none, List.append_nil]
      exact .stored (hsame.trans hopenings) (hkept.trans hsnapshot)
    | begun savedText hwaits => exact absurd (hedit _ rfl) not_isEdit_opened
    | @handled _ n hopened hsame hhandled =>
      -- The document is open, so the edit arrives at it.
      have hopen : (h.service.snapshot? uri).isSome = true := by
        rw [hsnapshot, latest?_cons, Option.isSome_or]
        exact Bool.or_true _
      obtain ⟨old, hold⟩ := Option.isSome_iff_exists.mp hopen
      rw [Option.toList_some, List.cons_append, List.append_assoc]
      refine .stored (hsame.trans hopenings) ?_
      rw [hhandled, ServerState.snapshot?_handle_of_isEdit (hedit n rfl) hold, ← List.cons_append,
        latest?_concat, ← hsnapshot, hold]
    | stored hbefore hafter hstored => simp [hopenings] at hbefore

end Stage

/-! ### What is stored in the end -/

/-- **A document is opened and then edited** by the messages of a run, with growing versions. -/
structure OpensAndEdits (uri : Uri) (text : String) (version : Int) (edits : List Notification)
    (events : List HandlingEvent) : Prop where
  messages : messagesOf uri events = .opened uri text version :: edits
  isEdit : ∀ n ∈ edits, n.IsEdit uri
  versions : ((Notification.opened uri text version :: edits).filterMap
    Notification.given?).Pairwise fun old new => old.version < new.version

variable {text : String} {version : Int} {edits : List Notification} {events : List HandlingEvent}
  {start : Handling}

/-- **After every part of a run** the opening is at one of its stages. -/
theorem stage_run (hpath : uri.sourcePath? = some path) (hstart : start.openings uri = [])
    (hmessages : messagesOf uri events <+: .opened uri text version :: edits)
    (hedits : ∀ n ∈ edits, n.IsEdit uri) :
    Stage uri text version (messagesOf uri events) (start.overtaking uri events)
      (start.run events) := by
  induction events using List.reverseRecOn with
  | nil => exact .awaited hstart
  | append_singleton events e ih =>
    rw [messagesOf_concat] at hmessages ⊢
    rw [overtaking_concat, run_concat]
    refine (ih ((List.prefix_append _ _).trans hmessages)).step hpath fun n hn => ?_
    -- Where something has started before, it was the opening, and an edit comes next.
    rw [hn, Option.toList_some] at hmessages
    cases hbefore : messagesOf uri events with
    | nil =>
      rw [hbefore, List.nil_append, List.cons_prefix_cons] at hmessages
      rw [if_pos rfl]
      exact hmessages.1
    | cons first front =>
      rw [hbefore, List.cons_append, List.cons_prefix_cons] at hmessages
      rw [if_neg (List.cons_ne_nil _ _)]
      exact hedits n (hmessages.2.subset (List.mem_append_right _ (List.mem_singleton_self n)))

/-- With growing versions, what the first part of some edits brings counts in the end only where the
rest brings nothing. -/
theorem latest?_eq_iff {overtook since : List Notification}
    (hversions : ((Notification.opened uri text version :: (overtook ++ since)).filterMap
      Notification.given?).Pairwise fun old new => old.version < new.version) :
    latest? Notification.given? (.opened uri text version :: since) =
        latest? Notification.given? (.opened uri text version :: (overtook ++ since)) ↔
      latest? Notification.given? (overtook ++ since) = none ∨
        latest? Notification.given? since ≠ none := by
  rw [latest?_cons, latest?_cons, latest?_append]
  cases hsince : latest? Notification.given? since with
  | some snapshot => simp
  | none =>
    cases hover : latest? Notification.given? overtook with
    | none => simp
    | some snapshot =>
      -- What the first part brings has another version than the opening.
      have hmem : snapshot ∈ (overtook ++ since).filterMap Notification.given? := by
        rw [List.filterMap_append]
        exact List.mem_append_left _ (List.mem_of_getLast? hover)
      have hgiven : (Notification.opened uri text version).given? = some ⟨text, version⟩ := rfl
      rw [List.filterMap_cons_some hgiven] at hversions
      have hlt := (List.pairwise_cons.mp hversions).1 snapshot hmem
      have hne : snapshot ≠ ⟨text, version⟩ := by
        rintro rfl
        exact absurd hlt (Int.lt_irrefl version)
      simp [hgiven, hne.symm]

/-- **What a document has once its handlers have come to their end**: the last text and version of
the opening and of the edits that did not overtake it. These are the last ones of all exactly if
the edits bring nothing, or if one that brings something did not overtake the opening. -/
theorem snapshot?_run_overtaken (hpath : uri.sourcePath? = some path)
    (hstart : start.openings uri = []) (hedited : OpensAndEdits uri text version edits events)
    (hended : (start.run events).openings uri = []) :
    ∃ since, edits = start.overtaking uri events ++ since ∧
      (start.run events).service.snapshot? uri =
        latest? Notification.given? (.opened uri text version :: since) ∧
      ((start.run events).service.snapshot? uri =
          latest? Notification.given? (.opened uri text version :: edits) ↔
        latest? Notification.given? edits = none ∨ latest? Notification.given? since ≠ none) := by
  have hmessages : messagesOf uri events <+: .opened uri text version :: edits := by
    rw [hedited.messages]
  have hstage := stage_run hpath hstart hmessages hedited.isEdit
  rw [hedited.messages] at hstage
  generalize start.overtaking uri events = overtook at hstage ⊢
  cases hstage with
  | reading savedText hopenings => simp [hended] at hopenings
  | stored hopenings hsnapshot =>
    refine ⟨_, rfl, hsnapshot, ?_⟩
    rw [hsnapshot]
    exact latest?_eq_iff hedited.versions

/-- One change overtakes the opening and is lost, the next one does not, and a save comes last. -/
theorem snapshot?_run_overtaken_changed_again :
    let uri : Uri := ⟨"file", some ⟨[], .empty, none⟩, "/w/a.py", none, none⟩
    let edits : List Notification :=
      [.changed uri ["b"] 2, .changed uri ["x", "c"] 3, .saved uri none]
    let events : List HandlingEvent :=
      [.event (.notified (.opened uri "a" 1)), .event (.notified (.changed uri ["b"] 2)), .read 0,
        .event (.notified (.changed uri ["x", "c"] 3)), .event (.resumed 0),
        .event (.notified (.saved uri none))]
    OpensAndEdits uri "a" 1 edits events ∧
      overtaking uri (fresh {} {}) events = [.changed uri ["b"] 2] ∧
      ((fresh {} {}).run events).service.snapshot? uri = some ⟨"c", 3⟩ := by
  intro uri edits events
  have hpath : uri.sourcePath? = some ⟨"/w/a.py"⟩ := by decide +kernel
  have hedited : OpensAndEdits uri "a" 1 edits events := by
    refine ⟨rfl, fun n hn => ?_, by decide +kernel⟩
    simp only [edits, List.mem_cons, List.not_mem_nil, or_false] at hn
    obtain rfl | rfl | rfl := hn
    · exact .changed (List.cons_ne_nil _ _)
    · exact .changed (List.cons_ne_nil _ _)
    · exact .saved
  have hstart : (fresh {} {}).openings uri = [] := rfl
  have hone : (overtaking uri (fresh {} {}) events).length = 1 := by decide +kernel
  obtain ⟨since, hsince, hsnapshot, -⟩ :=
    snapshot?_run_overtaken hpath hstart hedited (by decide +kernel)
  have hsplit : [.changed uri ["b"] 2] ++ [.changed uri ["x", "c"] 3, .saved uri none] =
      overtaking uri (fresh {} {}) events ++ since := hsince
  obtain ⟨hover, rfl⟩ := List.append_inj hsplit hone.symm
  exact ⟨hedited, hover.symm, hsnapshot⟩

/-- **An edit may be lost.** It is not true that a document always has the last text and version in
the end, even if the messages are about nothing else and no more than four handlers are under way at
once. -/
theorem not_forall_snapshot?_run :
    ¬∀ (session : LintSession) (files : FileSystem) (uri : Uri) (path : Path) (text : String)
      (version : Int) (edits : List Notification) (events : List HandlingEvent),
      uri.sourcePath? = some path → OpensAndEdits uri text version edits events →
      (∀ e ∈ events, (e.about? uri).isSome = true ∨ ∃ place, e = .read place) →
      (∀ front ∈ events.inits, ((fresh session files).run front).waiting.length ≤ 4) →
      ((fresh session files).run events).waiting = [] →
      ((fresh session files).run events).service.snapshot? uri =
        latest? Notification.given? (.opened uri text version :: edits) := by
  intro h
  let uri : Uri := ⟨"file", some ⟨[], .empty, none⟩, "/w/a.py", none, none⟩
  let events : List HandlingEvent :=
    [.event (.notified (.opened uri "a" 1)), .event (.notified (.changed uri ["b"] 2)), .read 0]
  -- The change starts while the opening waits, and is gone once the opening is stored.
  have hedited : OpensAndEdits uri "a" 1 [.changed uri ["b"] 2] events := by
    refine ⟨rfl, fun n hn => ?_, by decide +kernel⟩
    obtain rfl := List.mem_singleton.mp hn
    exact .changed (List.cons_ne_nil _ _)
  have habout : ∀ e ∈ events, (e.about? uri).isSome = true ∨ ∃ place, e = .read place := by
    intro e he
    simp only [events, List.mem_cons, List.not_mem_nil, or_false] at he
    obtain rfl | rfl | rfl := he
    · exact Or.inl rfl
    · exact Or.inl rfl
    · exact Or.inr ⟨0, rfl⟩
  have hsnapshot := h {} {} uri ⟨"/w/a.py"⟩ "a" 1 [.changed uri ["b"] 2] events (by decide +kernel)
    hedited habout (by decide +kernel) (List.isEmpty_iff.mp (by decide +kernel))
  exact absurd hsnapshot (by decide +kernel)

end Handling

end LintHost
