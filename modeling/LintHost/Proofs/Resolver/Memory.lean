import Mathlib.Data.List.Induction
import LintHost.Proofs.Resolver.History
import LintHost.Proofs.Text.Bytes

/-!
# What a resolver remembers

The answers of a resolver, compared with two things that have no memory.

* The **search** at the first lookup of a directory in its epoch. This is what the resolver
  answers with until the memory is cleared, and no lookup of another directory changes it.
* The **forgetful** resolver (`LintHost.Resolver.runForgetful`), which forgets everything before
  each event and so searches every time. If a lookup never follows a change of the file system
  without an invalidation in between (`LintHost.Resolver.Settled`), it answers the same, up to how
  the path of the configuration file is spelled (`LintHost.Resolver.Answer.Agrees`).

All of it is in `LintHost.Resolver.answer_eq_first_lookup`. The memory takes two spellings of a
directory for one; the system does not, when one of them is too long for it. So what is said of
another spelling than that of the first lookup asks for the two to be
`LintHost.Finder.Interchangeable`, and without that it fails
(`LintHost.Resolver.not_forall_spellings`).
-/

namespace LintHost.Resolver

variable {names : List String} {epoch : Epoch} {r : Resolver} {directory : Path}

/-! ### Other spellings -/

theorem Epoch.components_first (epoch : Epoch) (directory : Path) :
    (epoch.first directory).1.components = directory.components := by
  rw [Epoch.first]
  cases hfirst : epoch.first? directory with
  | none => rfl
  | some first =>
    have hsame : first.1.same directory = true := by
      rw [Epoch.first?] at hfirst
      simpa using List.find?_some hfirst
    exact Path.same_iff.mp hsame

/-- Every lookup of an epoch is that of an event. -/
theorem Epoch.exists_event_of_mem_lookups {files : FileSystem} {events : List Event}
    {lookup : Path × FileSystem} (h : lookup ∈ (Epoch.run { files } events).lookups) :
    ∃ e ∈ events, e.directory? = some lookup.1 := by
  induction events using List.reverseRecOn with
  | nil => simp [Epoch.run] at h
  | append_singleton events e ih =>
    have hearlier : lookup ∈ (Epoch.run { files } events).lookups →
        ∃ e' ∈ events ++ [e], e'.directory? = some lookup.1 := fun h =>
      (ih h).imp fun e' he' => ⟨List.mem_append_left _ he'.1, he'.2⟩
    rw [Epoch.run_concat] at h
    obtain ⟨now, rfl⟩ | rfl | ⟨looked, hlooked, -, hstep⟩ | ⟨_, _, -, -, -, hstep⟩ :=
      event_cases e
    · exact hearlier h
    · simp [Epoch.step] at h
    · rw [hstep] at h
      rcases List.mem_append.mp h with h | h
      · exact hearlier h
      · rw [List.mem_singleton.mp h]
        exact ⟨e, by simp, hlooked⟩
    · rw [hstep] at h
      exact hearlier h

/-! ### Answers up to spelling -/

/-- Two answers that differ at most in how the path of the configuration file is spelled. -/
inductive Answer.Agrees : Answer → Answer → Prop
  | done : Agrees .done .done
  | found {path path' : Option Path} (h : path.map Path.components = path'.map Path.components) :
      Agrees (.found path) (.found path')
  | config {config config' : EffectiveConfig}
      (h : { config with configFile := none } = { config' with configFile := none })
      (hfile : config.configFile.map Path.components = config'.configFile.map Path.components) :
      Agrees (.resolved (.ok config)) (.resolved (.ok config'))
  | unreadable {path path' : Path} {cause : SystemError} (h : path.components = path'.components) :
      Agrees (.resolved (.error (.unreadable path cause)))
        (.resolved (.error (.unreadable path' cause)))
  | failed (e : ConfigError) : Agrees (.resolved (.error e)) (.resolved (.error e))

/-- The same file, spelled in two ways, makes the same of a configuration. -/
theorem agrees_withFile (config : EffectiveConfig) (fs : FileSystem) {found found' : Option Path}
    (h : Option.Rel Path.SameFile found found') :
    Answer.Agrees (.resolved (config.withFile fs found))
      (.resolved (config.withFile fs found')) := by
  cases h with
  | none => exact .config rfl rfl
  | @some path path' h =>
    rw [EffectiveConfig.withFile, EffectiveConfig.withFile,
      FileSystem.readText_congr (h.look fs)]
    cases fs.readText path' with
    | error cause => exact .unreadable h.components
    | ok text => exact .config rfl (congrArg some h.components)

/-! ### Without memory -/

theorem forget_lookUp (r : Resolver) (directory : Path) :
    (r.lookUp directory).forget = r.forget := by
  rw [lookUp, Finder.find_eq]
  split <;> rfl

theorem forget_step (r : Resolver) (e : Event) : (r.forget.step e).forget = (r.step e).forget := by
  obtain ⟨now, rfl⟩ | rfl | ⟨directory, -, hstep, -⟩ | ⟨_, _, -, -, hstep, -⟩ := event_cases e
  · rfl
  · rfl
  · rw [hstep, hstep, forget_lookUp, forget_lookUp]
    rfl
  · rw [hstep, hstep]
    rfl

/-- The two resolvers differ in their memory only. -/
theorem forget_runForgetful (r : Resolver) (events : List Event) :
    (r.runForgetful events).forget = (r.run events).forget := by
  induction events using List.reverseRecOn with
  | nil => rfl
  | append_singleton events e ih =>
    rw [run_concat, ← forget_step, ← ih, runForgetful, List.foldl_append]
    rfl

/-- **A lookup never follows a change of the file system** without an invalidation in between. -/
def Settled (events : List Event) : Prop :=
  ∀ before now between e after, events = before ++ .files now :: (between ++ e :: after) →
    e.directory?.isSome = true → .invalidate ∈ between

theorem Settled.of_append {events more : List Event} (h : Settled (events ++ more)) :
    Settled events := by
  rintro before now between e after rfl
  exact h before now between e (after ++ more) (by simp)

/-- After some events of such a history, all lookups of the epoch have seen the file system as it
is, or it has changed and the memory has not been cleared since. -/
theorem Settled.current_or_changed {events : List Event} (h : Settled events)
    (files : FileSystem) :
    (∀ lookup ∈ (Epoch.run { files } events).lookups,
        lookup.2 = (Epoch.run { files } events).files) ∨
      ∃ before now between, events = before ++ .files now :: between ∧ .invalidate ∉ between := by
  induction events using List.reverseRecOn with
  | nil => exact .inl nofun
  | append_singleton events e ih =>
    have hearlier := ih h.of_append
    rw [Epoch.run_concat]
    obtain ⟨now, rfl⟩ | rfl | ⟨looked, hlooked, -, hstep⟩ | ⟨settings, file, rfl, -, -, hstep⟩ :=
      event_cases e
    · exact .inr ⟨events, now, [], rfl, nofun⟩
    · exact .inl nofun
    · rw [hstep]
      rcases hearlier with hcurrent | ⟨before, now, between, rfl, hno⟩
      · refine .inl fun lookup hlookup => ?_
        rcases List.mem_append.mp hlookup with hlookup | hlookup
        · exact hcurrent lookup hlookup
        · rw [List.mem_singleton.mp hlookup]
          rfl
      · exact absurd (h before now between e [] (by simp) (by rw [hlooked]; rfl)) hno
    · rw [hstep]
      refine hearlier.imp_right ?_
      rintro ⟨before, now, between, rfl, hno⟩
      exact ⟨before, now, between ++ [.resolve settings file], by simp, by simpa using hno⟩

/-- At a lookup of such a history, all lookups of the epoch have seen the file system as it is. -/
theorem Settled.current {events after : List Event} {e : Event}
    (h : Settled (events ++ e :: after)) (he : e.directory?.isSome = true) (files : FileSystem) :
    ∀ lookup ∈ (Epoch.run { files } events).lookups,
      lookup.2 = (Epoch.run { files } events).files := by
  rcases h.of_append.current_or_changed files with hcurrent | ⟨before, now, between, rfl, hno⟩
  · exact hcurrent
  · exact absurd (h before now between e after (by simp) he) hno

/-- What is remembered of file systems like the present one is what a search finds now. -/
theorem nearest_rel (hcurrent : ∀ lookup ∈ epoch.lookups, lookup.2 = epoch.files)
    (hswap : ∀ lookup ∈ epoch.lookups, lookup.1.same directory = true →
      Finder.Interchangeable names lookup.1 directory) :
    Option.Rel Path.SameFile (epoch.nearest names directory)
      (Epoch.nearest { files := epoch.files } names directory) := by
  have hfirst : (epoch.first directory).2 = epoch.files ∧
      Finder.Interchangeable names (epoch.first directory).1 directory := by
    have hsame := Path.same_iff.mpr (epoch.components_first directory)
    rw [Epoch.first] at hsame ⊢
    cases hfirst : epoch.first? directory with
    | none => exact ⟨rfl, .inl rfl⟩
    | some first =>
      rw [hfirst] at hsame
      have hmem : first ∈ epoch.lookups := List.mem_of_find?_eq_some hfirst
      exact ⟨hcurrent first hmem, hswap first hmem hsame⟩
  rw [Epoch.nearest, hfirst.1]
  exact Finder.search_rel (Finder.fresh names) epoch.files
    (epoch.components_first directory) hfirst.2

/-- The answer from memory, and the answer without it. -/
theorem agrees_forget (h : Recalls names r epoch) {e : Event}
    (hcurrent : e.directory?.isSome = true → ∀ lookup ∈ epoch.lookups, lookup.2 = epoch.files)
    (hswap : ∀ directory, e.directory? = some directory → ∀ lookup ∈ epoch.lookups,
      lookup.1.same directory = true → Finder.Interchangeable names lookup.1 directory) :
    (r.answer e).Agrees (r.forget.answer e) := by
  have hforget : Recalls names r.forget { files := epoch.files } :=
    ⟨h.finder_names, h.files, fun _ => rfl⟩
  cases e with
  | files now => exact .done
  | invalidate => exact .done
  | find directory =>
    rw [answer_find h, answer_find hforget]
    exact .found (Finder.components_of_rel
      (nearest_rel (hcurrent rfl) (hswap directory rfl)))
  | resolve settings file =>
    rw [answer_resolve h, answer_resolve hforget]
    cases hsettings : EffectiveConfig.ofSettings settings with
    | error e => exact .failed e
    | ok config =>
      have hlooked : (Event.resolve settings file).directory? = some (startDirectory file) := by
        simp [Event.directory?, hsettings]
      exact agrees_withFile config r.files
        (nearest_rel (hcurrent (by rw [hlooked]; rfl)) (hswap _ hlooked))

/-! ### What is answered -/

/-- **Resolving applies a file as it is now**: the text that it has at the time of the call, and
it is an error that names the file if it is gone, or is not UTF-8. -/
structure AppliesNow (r : Resolver) (settings : Settings) (file : Path) (found : Option Path) :
    Prop where
  refused : ∀ e, EffectiveConfig.ofSettings settings = .error e →
    r.answer (.resolve settings file) = .resolved (.error e)
  unchanged : ∀ config, EffectiveConfig.ofSettings settings = .ok config → found = none →
    r.answer (.resolve settings file) = .resolved (.ok config)
  applied : ∀ config path text, EffectiveConfig.ofSettings settings = .ok config →
    found = some path → r.files.readText path = .ok text →
    r.answer (.resolve settings file) =
      .resolved (.ok (config.applyProject path (Ini.parse text)))
  removed : ∀ config path, EffectiveConfig.ofSettings settings = .ok config →
    found = some path → r.files.isFile path = false →
    ∃ cause, r.answer (.resolve settings file) = .resolved (.error (.unreadable path cause))
  binary : ∀ config path bytes, EffectiveConfig.ofSettings settings = .ok config →
    found = some path → r.files.read path = .ok (.binary bytes) →
    r.answer (.resolve settings file) = .resolved (.error (.unreadable path .invalidUtf8))

theorem appliesNow (h : Recalls names r epoch) (settings : Settings) (file : Path) :
    AppliesNow r settings file (epoch.nearest names (startDirectory file)) where
  refused e he := by rw [answer_resolve h, he]
  unchanged config hconfig hfound := by
    rw [answer_resolve h, hconfig, hfound]
    rfl
  applied config path text hconfig hfound htext := by
    rw [answer_resolve h, hconfig, hfound]
    simp only [EffectiveConfig.withFile, htext]
  removed config path hconfig hfound hfile := by
    obtain ⟨cause, hcause⟩ := config.withFile_of_not_isFile hfile
    exact ⟨cause, by rw [answer_resolve h, hconfig, hfound]; simp only [hcause]⟩
  binary config path bytes hconfig hfound hread := by
    rw [answer_resolve h, hconfig, hfound]
    simp only [config.withFile_of_binary hread]

/-- **The memory of a resolver is that of its first lookups.** After every history, a directory is
answered with what a search found for it, as it was spelled at its first lookup since the memory
was cleared, in the file system of that time. A search from the spelling of now finds the same
path there, if no place is too long for the system; lookups of other directories change nothing;
and the file itself is read as it is now. So, as long as a lookup never follows a change of the
file system without an invalidation in between, a resolver that searches every time gives the same
answers. -/
theorem answer_eq_first_lookup (names : List String) (files : FileSystem) (events : List Event) :
    let r := (start names files).run events
    let epoch := Epoch.run { files } events
    let search := (Finder.fresh names).search
    (∀ directory, r.answer (.find directory) =
      .found (search (epoch.first directory).2 (epoch.first directory).1)) ∧
    (∀ directory, Finder.Interchangeable names (epoch.first directory).1 directory →
      (r.answer (.find directory)).Agrees (.found (search (epoch.first directory).2 directory))) ∧
    (∀ directory, ((start names files).run (events.filter (Event.concerns directory))).answer
      (.find directory) = r.answer (.find directory)) ∧
    (∀ settings file, AppliesNow r settings file
      (search (epoch.first (startDirectory file)).2 (epoch.first (startDirectory file)).1)) ∧
    (Settled events →
      (∀ e ∈ events, ∀ e' ∈ events, ∀ directory directory', e.directory? = some directory →
        e'.directory? = some directory' → directory.same directory' = true →
        Finder.Interchangeable names directory directory') →
      ∀ before e after, events = before ++ e :: after →
        (((start names files).run before).answer e).Agrees
          (((start names files).runForgetful before).forget.answer e)) := by
  intro r epoch search
  have hrecalls : Recalls names r epoch := recalls_run names files events
  refine ⟨answer_find hrecalls, fun directory hswap => ?_, fun directory => ?_,
    appliesNow hrecalls, ?_⟩
  · rw [answer_find hrecalls]
    exact .found (Finder.components_of_rel
      (Finder.search_rel _ _ (epoch.components_first directory) hswap))
  · rw [answer_find hrecalls, answer_find (recalls_run names files _),
      Epoch.nearest_run_filter]
  · rintro hsettled hswap before e after rfl
    rw [forget_runForgetful]
    refine agrees_forget (recalls_run names files before) (fun he => hsettled.current he files)
      fun directory he lookup hlookup hsame => ?_
    obtain ⟨e', he', hlooked⟩ := Epoch.exists_event_of_mem_lookups hlookup
    exact hswap e' (List.mem_append_left _ he') e (by simp) _ directory hlooked he hsame

/-- A change of the file system that is made known before the next lookup. -/
theorem settled_of_invalidate (directory directory' : Path) (now : FileSystem) :
    Settled [.find directory, .files now, .invalidate, .find directory'] := by
  rintro (_ | ⟨e₁, _ | ⟨e₂, _ | ⟨e₃, _ | ⟨e₄, before⟩⟩⟩⟩) later (_ | ⟨e', between⟩) e after heq
    hlooked <;> simp at heq
  · obtain ⟨-, -, rfl, -⟩ := heq
    simp [Event.directory?] at hlooked
  · exact List.mem_cons.mpr (.inl heq.2.2.1)

/-- A file system with one configuration file, in the directory `a`. -/
def oneConfigFile : FileSystem :=
  { entries := [(["a"], .directory), (["a", "mypy.ini"], .file (.text ""))] }

/-- A file that is removed is remembered, until the memory is cleared. -/
theorem answer_eq_first_lookup_removed :
    let history := [.find ⟨"a/"⟩, .files {}, .invalidate, .find ⟨"a"⟩]
    let removed := (start configFileNames oneConfigFile).run (history.take 2)
    removed.answer (.find ⟨"a"⟩) = .found (some ⟨"a/mypy.ini"⟩) ∧
    (removed.answer (.find ⟨"a"⟩)).Agrees
      (.found ((Finder.fresh configFileNames).search oneConfigFile ⟨"a"⟩)) ∧
    (∃ cause, removed.answer (.resolve {} ⟨"a/b.py"⟩) =
      .resolved (.error (.unreadable ⟨"a/mypy.ini"⟩ cause))) ∧
    (((start configFileNames oneConfigFile).run (history.take 3)).answer (.find ⟨"a"⟩)).Agrees
      (((start configFileNames oneConfigFile).runForgetful (history.take 3)).forget.answer
        (.find ⟨"a"⟩)) := by
  intro history removed
  have hshort : ∀ directory ∈ [Path.mk "a/", Path.mk "a"],
      Finder.Short configFileNames directory := by
    unfold Finder.Short
    decide +kernel
  obtain ⟨config, hconfig⟩ : ∃ config, EffectiveConfig.ofSettings {} = .ok config := ⟨_, rfl⟩
  have hfirst : (Epoch.run { files := oneConfigFile } (history.take 2)).first ⟨"a"⟩ =
      (⟨"a/"⟩, oneConfigFile) := rfl
  have hfound : (Finder.fresh configFileNames).search oneConfigFile ⟨"a/"⟩ =
      some ⟨"a/mypy.ini"⟩ := by
    decide +kernel
  have hfile : removed.files.isFile ⟨"a/mypy.ini"⟩ = false := by decide +kernel
  have hstart : startDirectory ⟨"a/b.py"⟩ = ⟨"a"⟩ := by decide +kernel
  obtain ⟨hfind, hspelling, -, happlies, -⟩ :=
    answer_eq_first_lookup configFileNames oneConfigFile (history.take 2)
  obtain ⟨-, -, -, -, hforgetful⟩ := answer_eq_first_lookup configFileNames oneConfigFile history
  refine ⟨by rw [hfind, hfirst, hfound], ?_, ?_, ?_⟩
  · have := hspelling ⟨"a"⟩ (.inr ⟨by rw [hfirst]; exact hshort _ (by simp), hshort _ (by simp)⟩)
    rwa [hfirst] at this
  · refine (happlies {} ⟨"a/b.py"⟩).removed config ⟨"a/mypy.ini"⟩ hconfig ?_ hfile
    rw [hstart, hfirst, hfound]
  · have hlooked : ∀ e ∈ history, ∀ directory, e.directory? = some directory →
        Finder.Short configFileNames directory := by
      intro e he directory hlooked
      simp only [history, List.mem_cons, List.not_mem_nil, or_false] at he
      rcases he with rfl | rfl | rfl | rfl
      · exact hshort directory (by simp [← Option.some.inj hlooked])
      · simp [Event.directory?] at hlooked
      · simp [Event.directory?] at hlooked
      · exact hshort directory (by simp [← Option.some.inj hlooked])
    exact hforgetful (settled_of_invalidate _ _ _) (fun e he e' he' _ _ hd hd' _ =>
      .inr ⟨hlooked e he _ hd, hlooked e' he' _ hd'⟩) (history.take 3) _ [] rfl

/-! ### A spelling that is too long -/

/-- Above `a` with slashes after it there is the empty path only. -/
theorem above_withSlashes (count : Nat) : ((Path.mk "a").withSlashes count).above = [⟨""⟩] := by
  have hlist : ((Path.mk "a").withSlashes count).ancestors.map Path.components =
      (Path.mk "a").ancestors.map Path.components :=
    Path.components_ancestors (Path.components_withSlashes (by decide) count)
  rw [show (Path.mk "a").ancestors.map Path.components = [[.name "a"], []] by decide +kernel,
    Path.ancestors, List.map_cons] at hlist
  obtain ⟨above, habove, hempty⟩ := List.map_eq_singleton_iff.mp (List.cons.inj hlist).2
  have hsame : above.components = (Path.mk "").components := hempty.trans (by decide +kernel)
  have hchars : above.chars = [] := (Path.chars_eq_nil_iff_of_components_eq hsame).mpr rfl
  rw [habove, show above = ⟨""⟩ from congrArg Path.mk (String.toList_eq_nil_iff.mp hchars)]

theorem search_withSlashes :
    (Finder.fresh configFileNames).search oneConfigFile ((Path.mk "a").withSlashes 4096) =
      none := by
  have hlong : FileSystem.pathLimit ≤ ((Path.mk "a").withSlashes 4096).text.utf8ByteSize := by
    have hle := Text.length_le_byteSize ((Path.mk "a").withSlashes 4096).chars
    rw [Text.byteSize, Path.chars, String.ofList_toList, ← Path.chars, Path.chars_withSlashes,
      List.length_append, List.length_replicate] at hle
    exact Nat.le_trans (Nat.le_add_left _ _) hle
  rw [Finder.search_of_pathLimit_le oneConfigFile (by decide +kernel) hlong, above_withSlashes]
  decide +kernel

/-- **Without the condition on the length** another spelling may find something else: a directory
that was looked up with too many slashes after its name has no configuration file from then on. -/
theorem not_forall_spellings :
    ¬∀ (names : List String) (files : FileSystem) (events : List Event) (directory : Path),
      (((start names files).run events).answer (.find directory)).Agrees
        (.found ((Finder.fresh names).search
          ((Epoch.run { files } events).first directory).2 directory)) := by
  intro hall
  have hagrees := hall configFileNames oneConfigFile
    [.find ((Path.mk "a").withSlashes 4096)] ⟨"a"⟩
  have hfirst : (Epoch.run { files := oneConfigFile }
      [.find ((Path.mk "a").withSlashes 4096)]).first ⟨"a"⟩ =
        ((Path.mk "a").withSlashes 4096, oneConfigFile) := by
    have hsame : ((Path.mk "a").withSlashes 4096).same ⟨"a"⟩ = true :=
      Path.same_iff.mpr (Path.components_withSlashes (by decide) 4096)
    simp [Epoch.run, Epoch.step, Event.directory?, Epoch.lookUp, Epoch.first, Epoch.first?, hsame]
  have hfound : (Finder.fresh configFileNames).search oneConfigFile ⟨"a"⟩ =
      some ⟨"a/mypy.ini"⟩ := by
    decide +kernel
  rw [answer_find (recalls_run _ _ _), Epoch.nearest, hfirst, search_withSlashes, hfound]
    at hagrees
  cases hagrees with
  | found h => simp at h

end LintHost.Resolver
