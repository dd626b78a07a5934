import LintHost.Checker
import LintHost.Proofs.FileSystem.Temporary

/-!
# Preparing a run

A run is prepared in two steps, either of which may fail: the cache directory is worked out, and
the shadow file is written. This file says once what a prepared run consists of
(`LintHost.Invocation.prepare_eq_ok_iff`) and what may have kept it from being prepared
(`LintHost.Invocation.prepare_eq_error_iff`).

The shadow file is where a checker finds the buffer: it holds the buffer's text
(`LintHost.Invocation.shadowOf_eq_ok`), and the plan leads to it (`LintHost.Call.shadowPath?_planOf`),
so that a call shows the buffer (`LintHost.Call.shadowContent_planOf`).
-/

namespace LintHost

namespace Invocation

/-- The name of a shadow file leads one directory down. -/
theorem isName_shadow (path : Path) : FileSystem.IsName (path.fileName?.getD fallbackName) := by
  cases hfile : path.fileName? with
  | none => exact ⟨by decide, by decide, by decide⟩
  | some name => exact FileSystem.isName_of_fileName? hfile

/-- The shadow file of a target is there exactly if the buffer differs from the file, and holds
the buffer. -/
theorem shadowOf_eq_ok {fs fs' : FileSystem} {target : CheckTarget}
    {shadow : Option FileSystem.TemporaryFile} (h : shadowOf fs target = .ok (fs', shadow)) :
    (shadow.map fun file => fs'.readText file.path) =
      if target.isModified then some (.ok target.content) else none := by
  rw [shadowOf] at h
  cases hmodified : target.isModified with
  | false =>
    rw [hmodified] at h
    obtain ⟨rfl, rfl⟩ := Prod.mk.inj (Except.ok.inj h)
    rfl
  | true =>
    rw [hmodified, if_pos rfl] at h
    split at h
    · next made file hmade =>
      obtain ⟨rfl, rfl⟩ := Prod.mk.inj (Except.ok.inj h)
      rw [Option.map_some, FileSystem.readText_createTemporary (isName_shadow target.path) hmade]
      rfl
    · simp at h

/-- The only thing that keeps a shadow file from being there is that it cannot be written. -/
theorem shadowOf_eq_error_iff {fs : FileSystem} {target : CheckTarget} {e : InvokeError} :
    shadowOf fs target = .error e ↔ ∃ cause, e = .shadowFile cause ∧ target.isModified = true ∧
      fs.createTemporary (target.path.fileName?.getD fallbackName) target.content =
        .error cause := by
  rw [shadowOf]
  cases hmodified : target.isModified with
  | false => simp
  | true =>
    rw [if_pos rfl]
    cases fs.createTemporary (target.path.fileName?.getD fallbackName) target.content with
    | ok made => simp
    | error cause => simp [eq_comm]

/-- What a prepared run consists of. -/
theorem prepare_eq_ok_iff {fs fs' : FileSystem} {target : CheckTarget} {config : EffectiveConfig}
    {directory : Path} {invocation : Invocation} :
    prepare fs target config directory = .ok (fs', invocation) ↔
      ∃ cache shadow, cachePath config directory = .ok cache ∧
        shadowOf fs target = .ok (fs', shadow) ∧
        invocation = ⟨config,
          planOf config target.path (shadow.map (·.path)) cache directory, shadow⟩ := by
  rw [prepare]
  cases cachePath config directory with
  | error e => simp [bind, Except.bind]
  | ok cache =>
    cases shadowOf fs target with
    | error e => simp [bind, Except.bind]
    | ok made =>
      obtain ⟨files, shadow⟩ := made
      simp only [bind, Except.bind, pure, Except.pure, Except.ok.injEq, Prod.mk.injEq]
      constructor
      · rintro ⟨rfl, rfl⟩
        exact ⟨cache, shadow, rfl, ⟨rfl, rfl⟩, rfl⟩
      · rintro ⟨_, _, rfl, ⟨rfl, rfl⟩, rfl⟩
        exact ⟨rfl, rfl⟩

/-- What keeps a run from being prepared: the cache directory, and else the shadow file. -/
theorem prepare_eq_error_iff {fs : FileSystem} {target : CheckTarget} {config : EffectiveConfig}
    {directory : Path} {e : InvokeError} :
    prepare fs target config directory = .error e ↔
      cachePath config directory = .error e ∨
        (∃ cache, cachePath config directory = .ok cache) ∧ shadowOf fs target = .error e := by
  rw [prepare]
  cases cachePath config directory with
  | error e' => simp [bind, Except.bind]
  | ok cache => cases shadowOf fs target <;> simp [bind, Except.bind, pure, Except.pure]

end Invocation

namespace Call

/-- The shadow file that a plan names is the one it was made with, unless the command names
one of its own. -/
theorem shadowPath?_planOf {config : EffectiveConfig} (h : "--shadow-file" ∉ config.baseArguments)
    (file directory : Path) (shadow cache : Option Path) :
    shadowPath? (Invocation.planOf config file shadow cache directory) = shadow := by
  -- The search goes past the words of the command, none of which is the option.
  have hbase : ∀ rest, (config.baseArguments ++ ("--show-column-numbers" :: rest)).dropWhile
      (· ≠ "--shadow-file") = rest.dropWhile (· ≠ "--shadow-file") := by
    intro rest
    have hother : ∀ argument ∈ config.baseArguments, decide (argument ≠ "--shadow-file") = true :=
      fun argument hmem => decide_eq_true (ne_of_mem_of_not_mem hmem h)
    rw [List.dropWhile_append_of_pos hother]
    rfl
  rw [shadowPath?, Invocation.planOf]
  simp only [Invocation.arguments, List.append_assoc, List.cons_append, List.nil_append, hbase]
  cases shadow with
  | some shadow => rfl
  | none =>
    -- Fewer than three arguments are left, wherever the option might be found among them.
    cases cache with
    | none => by_cases hfile : file.text = "--shadow-file" <;> simp [hfile]
    | some cache =>
      by_cases hcache : cache.text = "--shadow-file"
      · simp [hcache]
      · by_cases hfile : file.text = "--shadow-file" <;> simp [hcache, hfile]

/-- **A call with a planned shadow file shows the buffer**, where that differs from the file. -/
theorem shadowContent_planOf {fs files : FileSystem} {target : CheckTarget}
    {shadow : Option FileSystem.TemporaryFile} {config : EffectiveConfig}
    (hshadow : Invocation.shadowOf fs target = .ok (files, shadow))
    (h : "--shadow-file" ∉ config.baseArguments) (file directory : Path) (cache : Option Path) :
    (ofPlan files
        (Invocation.planOf config file (shadow.map (·.path)) cache directory)).shadowContent =
      if target.isModified then some target.content else none := by
  have hread := Invocation.shadowOf_eq_ok hshadow
  rw [ofPlan, shadowPath?_planOf h]
  cases hmodified : target.isModified with
  | false =>
    rw [hmodified] at hread
    rw [Option.map_eq_none_iff.mp hread]
    rfl
  | true =>
    rw [hmodified] at hread
    obtain ⟨file, rfl, htext⟩ := Option.map_eq_some_iff.mp hread
    rw [Option.map_some, Option.bind_some, htext]
    rfl

end Call

end LintHost
