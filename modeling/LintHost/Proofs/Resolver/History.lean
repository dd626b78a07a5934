import LintHost.Config.Resolve
import LintHost.Proofs.Config.Search

/-!
# A resolver through its history

A resolver looks the place of the configuration file up in its memory and reads the file itself.
Here it is followed through a history of changes to the file system, lookups and invalidations
(`LintHost.Resolver.run`), next to a record that holds no answers: the **epoch**
(`LintHost.Resolver.Epoch`), which is the list of the lookups since the last invalidation, each
with the file system of its time.

The first lookup of a directory in the epoch decides what is answered from then on. This is an
invariant (`LintHost.Resolver.Recalls`): each event keeps it, whatever the resolver answers, and
so it holds after every history (`LintHost.Resolver.recalls_run`). What other directories were
looked up has no part in it (`LintHost.Resolver.Epoch.first?_run_filter`).
-/

namespace LintHost

/-! ### Resolving -/

/-- A configuration changed by the file that was found for it, if any, as it is now. -/
def EffectiveConfig.withFile (config : EffectiveConfig) (fs : FileSystem) :
    Option Path → Except ConfigError EffectiveConfig
  | none => .ok config
  | some path =>
    match fs.readText path with
    | .error cause => .error (.unreadable path cause)
    | .ok text => .ok (config.applyProject path (Ini.parse text))

/-- The directory that the search for a file's configuration starts from. -/
def startDirectory (file : Path) : Path :=
  file.parent?.getD file

theorem resolveConfig_eq (finder : Finder) (fs : FileSystem) (settings : Settings) (file : Path) :
    resolveConfig finder fs settings file =
      match EffectiveConfig.ofSettings settings with
      | .error e => (.error e, finder)
      | .ok config => (config.withFile fs (finder.find fs (startDirectory file)).1,
          (finder.find fs (startDirectory file)).2) := by
  rw [resolveConfig]
  cases EffectiveConfig.ofSettings settings with
  | error e => rfl
  | ok config =>
    simp only [startDirectory, EffectiveConfig.withFile]
    cases (finder.find fs (file.parent?.getD file)).1 with
    | none => rfl
    | some path =>
      cases hread : fs.readText path with
      | error cause => simp only [hread]
      | ok text => simp only [hread]

/-- A configuration file that is gone is an error that names it. -/
theorem EffectiveConfig.withFile_of_not_isFile (config : EffectiveConfig) {fs : FileSystem}
    {path : Path} (h : fs.isFile path = false) :
    ∃ cause, config.withFile fs (some path) = .error (.unreadable path cause) := by
  have hread : ∃ cause, fs.readText path = .error cause := by
    rw [FileSystem.isFile] at h
    rw [FileSystem.readText, FileSystem.read]
    cases hlook : fs.look path with
    | error cause => exact ⟨cause, rfl⟩
    | ok entry =>
      cases entry with
      | directory => exact ⟨_, rfl⟩
      | file content => simp [hlook] at h
  obtain ⟨cause, hcause⟩ := hread
  exact ⟨cause, by rw [withFile, hcause]⟩

/-- So is one that is not UTF-8. -/
theorem EffectiveConfig.withFile_of_binary (config : EffectiveConfig) {fs : FileSystem}
    {path : Path} {bytes : List UInt8} (h : fs.read path = .ok (.binary bytes)) :
    config.withFile fs (some path) = .error (.unreadable path .invalidUtf8) := by
  rw [withFile, FileSystem.readText, h]
  rfl

/-- A resolver and the file system that it works in. -/
structure Resolver where
  finder : Finder := {}
  files : FileSystem := {}

namespace Resolver

/-! ### Histories -/

/-- What happens to a resolver and around it. -/
inductive Event where
  /-- The file system changes to another one. -/
  | files (now : FileSystem)
  /-- The nearest configuration file of a directory is asked for. -/
  | find (directory : Path)
  /-- The configuration for a file is asked for. -/
  | resolve (settings : Settings) (file : Path)
  /-- The memory is cleared. -/
  | invalidate

/-- The directory that an event looks up, if any. Settings that make no configuration are
refused before the lookup. -/
def Event.directory? : Event → Option Path
  | .find directory => some directory
  | .resolve settings file =>
    match EffectiveConfig.ofSettings settings with
    | .error _ => none
    | .ok _ => some (startDirectory file)
  | _ => none

/-- What an event is answered with. -/
inductive Answer where
  | done
  | found (path : Option Path)
  | resolved (result : Except ConfigError EffectiveConfig)

/-- The answer to an event. -/
def answer (r : Resolver) : Event → Answer
  | .find directory => .found (r.finder.find r.files directory).1
  | .resolve settings file => .resolved (resolveConfig r.finder r.files settings file).1
  | _ => .done

/-- The resolver and the file system after an event. -/
def step (r : Resolver) : Event → Resolver
  | .files now => { r with files := now }
  | .find directory => { r with finder := (r.finder.find r.files directory).2 }
  | .resolve settings file => { r with finder := (resolveConfig r.finder r.files settings file).2 }
  | .invalidate => { r with finder := r.finder.invalidate }

/-- The resolver and the file system after a history. -/
def run (r : Resolver) (events : List Event) : Resolver :=
  events.foldl step r

theorem run_concat (r : Resolver) (events : List Event) (e : Event) :
    r.run (events ++ [e]) = (r.run events).step e := by
  rw [run, List.foldl_append]
  rfl

/-- The resolver without its memory. -/
def forget (r : Resolver) : Resolver :=
  { r with finder := r.finder.invalidate }

/-- The resolver that searches every time, after a history. -/
def runForgetful (r : Resolver) (events : List Event) : Resolver :=
  events.foldl (fun r e => r.forget.step e) r

/-! ### Epochs -/

/-- The file system, and the lookups since the memory was last cleared, each with the file system
of its time, in order. -/
structure Epoch where
  files : FileSystem
  lookups : List (Path × FileSystem) := []

namespace Epoch

/-- The epoch with a lookup of a directory. -/
def lookUp (epoch : Epoch) (directory : Path) : Epoch :=
  { epoch with lookups := epoch.lookups ++ [(directory, epoch.files)] }

/-- The epoch after an event. -/
def step (epoch : Epoch) (e : Event) : Epoch :=
  match e with
  | .files now => { epoch with files := now }
  | .invalidate => { epoch with lookups := [] }
  | .find _ | .resolve _ _ =>
    match e.directory? with
    | some directory => epoch.lookUp directory
    | none => epoch

/-- The epoch after a history. -/
def run (epoch : Epoch) (events : List Event) : Epoch :=
  events.foldl step epoch

theorem run_concat (epoch : Epoch) (events : List Event) (e : Event) :
    epoch.run (events ++ [e]) = (epoch.run events).step e := by
  rw [run, List.foldl_append]
  rfl

/-- The first lookup of a directory, however it was spelled. -/
def first? (epoch : Epoch) (directory : Path) : Option (Path × FileSystem) :=
  epoch.lookups.find? fun lookup => lookup.1.same directory

/-- The first lookup of a directory, which is one made now if there was none. -/
def first (epoch : Epoch) (directory : Path) : Path × FileSystem :=
  (epoch.first? directory).getD (directory, epoch.files)

/-- What is found for a directory: what a search finds at its first lookup. -/
def nearest (epoch : Epoch) (names : List String) (directory : Path) : Option Path :=
  (Finder.fresh names).search (epoch.first directory).2 (epoch.first directory).1

theorem first?_congr (epoch : Epoch) {directory directory' : Path}
    (h : directory.same directory' = true) : epoch.first? directory = epoch.first? directory' := by
  simp only [first?, Path.same, Path.same_iff.mp h]

theorem first?_lookUp (epoch : Epoch) (directory directory' : Path) :
    (epoch.lookUp directory).first? directory' =
      (epoch.first? directory').or
        (if directory.same directory' then some (directory, epoch.files) else none) := by
  rw [first?, lookUp, List.find?_append, ← first?, List.find?_singleton]

end Epoch

/-! ### One event -/

/-- The resolver after a lookup of a directory. -/
def lookUp (r : Resolver) (directory : Path) : Resolver :=
  { r with finder := (r.finder.find r.files directory).2 }

/-- What an event does: it changes the file system, clears the memory, looks a directory up, or,
with settings that are refused, does nothing. -/
theorem event_cases (e : Event) :
    (∃ now, e = .files now) ∨ e = .invalidate ∨
      (∃ directory, e.directory? = some directory ∧
        (∀ r : Resolver, r.step e = r.lookUp directory) ∧
        ∀ epoch : Epoch, epoch.step e = epoch.lookUp directory) ∨
      (∃ settings file, e = .resolve settings file ∧ e.directory? = none ∧
        (∀ r : Resolver, r.step e = r) ∧ ∀ epoch : Epoch, epoch.step e = epoch) := by
  cases e with
  | files now => exact .inl ⟨now, rfl⟩
  | invalidate => exact .inr (.inl rfl)
  | find directory => exact .inr (.inr (.inl ⟨directory, rfl, fun _ => rfl, fun _ => rfl⟩))
  | resolve settings file =>
    cases hsettings : EffectiveConfig.ofSettings settings with
    | error e =>
      refine .inr (.inr (.inr ⟨settings, file, rfl, by simp [Event.directory?, hsettings],
        fun r => ?_, fun epoch => ?_⟩))
      · simp [step, resolveConfig_eq, hsettings]
      · simp [Epoch.step, Event.directory?, hsettings]
    | ok config =>
      refine .inr (.inr (.inl ⟨startDirectory file, by simp [Event.directory?, hsettings],
        fun r => ?_, fun epoch => ?_⟩))
      · simp [step, resolveConfig_eq, hsettings, lookUp]
      · simp [Epoch.step, Event.directory?, hsettings]

/-! ### The memory and the epoch -/

/-- **The memory holds the first lookups of the epoch**, and what they found. -/
structure Recalls (names : List String) (r : Resolver) (epoch : Epoch) : Prop where
  finder_names : r.finder.names = names
  files : r.files = epoch.files
  known : ∀ directory, r.finder.known? directory =
    (epoch.first? directory).map fun first => (Finder.fresh names).search first.2 first.1

namespace Recalls

variable {names : List String} {r : Resolver} {epoch : Epoch}

theorem search_eq (h : Recalls names r epoch) : r.finder.search = (Finder.fresh names).search :=
  funext fun fs => funext fun directory => Finder.search_congr h.finder_names fs directory

/-- What is answered is what the first lookup finds. -/
theorem find_eq (h : Recalls names r epoch) (directory : Path) :
    (r.finder.find r.files directory).1 = epoch.nearest names directory := by
  rw [Finder.find_eq, Epoch.nearest, Epoch.first]
  have hknown := h.known directory
  cases hfirst : epoch.first? directory with
  | none =>
    rw [hfirst, Option.map_none] at hknown
    rw [hknown, Option.getD_none]
    simp only [h.files, h.search_eq]
  | some first =>
    rw [hfirst, Option.map_some] at hknown
    simp only [hknown, Option.getD_some]

theorem lookUp (h : Recalls names r epoch) (directory : Path) :
    Recalls names (r.lookUp directory) (epoch.lookUp directory) := by
  have hknown := h.known directory
  rw [Resolver.lookUp, Finder.find_eq]
  cases hfirst : epoch.first? directory with
  | some first =>
    rw [hfirst, Option.map_some] at hknown
    rw [hknown]
    refine ⟨h.finder_names, h.files, fun other => ?_⟩
    rw [Epoch.first?_lookUp, h.known other]
    -- Nothing is added for a directory that was looked up before.
    by_cases hsame : directory.same other = true
    · rw [← epoch.first?_congr hsame, hfirst, Option.some_or]
    · rw [if_neg hsame, Option.or_none]
  | none =>
    rw [hfirst, Option.map_none] at hknown
    rw [hknown]
    refine ⟨h.finder_names, h.files, fun other => ?_⟩
    rw [Finder.known?_remember, Epoch.first?_lookUp]
    by_cases hsame : directory.same other = true
    · rw [if_pos hsame, if_pos hsame, ← epoch.first?_congr hsame, hfirst, Option.none_or,
        Option.map_some, h.files, h.search_eq]
    · rw [if_neg hsame, if_neg hsame, Option.or_none, h.known other]

/-- **Every event keeps this.** -/
theorem step (h : Recalls names r epoch) (e : Event) :
    Recalls names (r.step e) (epoch.step e) := by
  obtain ⟨now, rfl⟩ | rfl | ⟨directory, -, hr, hepoch⟩ | ⟨_, _, -, -, hr, hepoch⟩ := event_cases e
  · exact ⟨h.finder_names, rfl, h.known⟩
  · exact ⟨h.finder_names, h.files, fun directory => rfl⟩
  · rw [hr, hepoch]
    exact h.lookUp directory
  · rwa [hr, hepoch]

theorem run (h : Recalls names r epoch) (events : List Event) :
    Recalls names (r.run events) (epoch.run events) := by
  induction events generalizing r epoch with
  | nil => exact h
  | cons e events ih => exact ih (h.step e)

end Recalls

/-- A resolver that has just been made, in a file system. -/
def start (names : List String) (files : FileSystem) : Resolver :=
  ⟨.fresh names, files⟩

/-- **After every history** the memory holds the first lookups of the epoch. -/
theorem recalls_run (names : List String) (files : FileSystem) (events : List Event) :
    Recalls names ((start names files).run events) (Epoch.run { files } events) := by
  have hstart : Recalls names (start names files) { files } := ⟨rfl, rfl, fun _ => rfl⟩
  exact hstart.run events

theorem answer_find {names : List String} {r : Resolver} {epoch : Epoch}
    (h : Recalls names r epoch) (directory : Path) :
    r.answer (.find directory) = .found (epoch.nearest names directory) := by
  rw [answer, h.find_eq]

/-- Resolving applies the file that is remembered as it is now. -/
theorem answer_resolve {names : List String} {r : Resolver} {epoch : Epoch}
    (h : Recalls names r epoch) (settings : Settings) (file : Path) :
    r.answer (.resolve settings file) =
      .resolved (match EffectiveConfig.ofSettings settings with
        | .error e => .error e
        | .ok config =>
          config.withFile r.files (epoch.nearest names (startDirectory file))) := by
  rw [answer, resolveConfig_eq, h.find_eq]
  cases EffectiveConfig.ofSettings settings <;> rfl

/-! ### Other directories -/

/-- Whether an event is something else than a lookup of another directory. -/
def Event.concerns (directory : Path) (e : Event) : Bool :=
  match e.directory? with
  | none => true
  | some other => other.same directory

namespace Epoch

/-- **Lookups of other directories have no part** in which lookup was the first one. -/
theorem first?_run_filter (directory : Path) (events : List Event) :
    ∀ epoch other : Epoch, other.files = epoch.files →
      other.first? directory = epoch.first? directory →
      (other.run (events.filter (Event.concerns directory))).files = (epoch.run events).files ∧
        (other.run (events.filter (Event.concerns directory))).first? directory =
          (epoch.run events).first? directory := by
  induction events with
  | nil => exact fun _ _ hfiles hfirst => ⟨hfiles, hfirst⟩
  | cons e events ih =>
    intro epoch other hfiles hfirst
    obtain ⟨now, rfl⟩ | rfl | ⟨looked, hlooked, -, hstep⟩ | ⟨_, _, -, hnone, -, hstep⟩ :=
      event_cases e
    · exact ih (epoch.step (.files now)) (other.step (.files now)) rfl hfirst
    · exact ih (epoch.step .invalidate) (other.step .invalidate) hfiles rfl
    · by_cases hsame : looked.same directory = true
      · rw [List.filter_cons_of_pos (by simpa [Event.concerns, hlooked] using hsame)]
        refine ih (epoch.step e) (other.step e) ?_ ?_
        · rwa [hstep, hstep]
        · rw [hstep, hstep, first?_lookUp, first?_lookUp, hfirst, hfiles]
      · rw [List.filter_cons_of_neg (by simpa [Event.concerns, hlooked] using hsame)]
        refine ih (epoch.step e) other ?_ ?_
        · rwa [hstep]
        · rw [hstep, first?_lookUp, if_neg hsame, Option.or_none, hfirst]
    · rw [List.filter_cons_of_pos (by simp [Event.concerns, hnone])]
      refine ih (epoch.step e) (other.step e) ?_ ?_ <;> rwa [hstep, hstep]

theorem nearest_run_filter (files : FileSystem) (names : List String) (directory : Path)
    (events : List Event) :
    (run { files } (events.filter (Event.concerns directory))).nearest names directory =
      (run { files } events).nearest names directory := by
  obtain ⟨hfiles, hfirst⟩ := first?_run_filter directory events { files } { files } rfl rfl
  rw [nearest, nearest, first, first, hfirst, hfiles]

end Epoch

end Resolver

end LintHost
