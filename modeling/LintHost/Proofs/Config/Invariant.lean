import LintHost.Proofs.Config.Definitions

/-!
# What holds after every line

The reader of a configuration file keeps three things in step: the document, the section that keys go
to, and the open key. This file says what holds of them after every line of any text
(`LintHost.Ini.reading_keeps_normal_form`).

* A key that is open is one of the current section. So an indented line that is neither blank nor a
  comment always finds the value that it continues, and is never taken for a header or a key.
* Names of sections, keys and values are in the form that `LintHost.Ini.IsName`,
  `LintHost.Ini.IsKey` and `LintHost.Ini.IsValue` describe, and a key is the lower case of one that
  stands on a line of its section.

Names and values are in their form whatever letters a text has, as nothing is done to them but cutting
and trimming. For keys it is asked that lower-casing changes letters of ASCII only, which is why they
are not part of `LintHost.Ini.Reading.Sound`: what is known of them comes from
`LintHost.Ini.Reading.IsStorable`, which needs that of the whole text.
-/

namespace LintHost

open Text

namespace Ini

namespace Reading

/-- **A reading in which all is in place**, whatever letters were read. -/
structure Sound (r : Reading) : Prop where
  /-- The open key is one of the current section. -/
  stored : ∀ key, r.openKey = some key → r.document.hasKey r.current key = true
  current : IsName r.current.toList
  name : ∀ name, (r.document.section? name).isSome = true → IsName name.toList
  value : ∀ name key value, r.document.get? name key = some value → IsValue value.toList

variable {r : Reading} {raw : List Char} {a : Action} {key : String}

/-- At the start the section without a name is the current one, and nothing is there. -/
theorem Sound.empty : Sound {} :=
  ⟨nofun, ⟨isTrimmed_nil, nofun⟩, nofun, nofun⟩

/-! ### One line -/

/-- **What an action keeps.** Only two of the four change what is there: one adds a section and
closes the key, the other one stores the key that it opens. -/
theorem Sound.perform (h : r.Sound) (ha : a.IsSound) : (r.perform a).Sound := by
  cases a with
  | pass => exact h
  | close => exact ⟨nofun, h.current, h.name, h.value⟩
  | enter name =>
    refine ⟨nofun, ha, fun other hother => ?_, fun other key value hget => ?_⟩
    · obtain hold | rfl := (Document.isSome_section?_withSection _ _ _).mp hother
      · exact h.name other hold
      · exact ha
    · exact h.value other key value ((Document.get?_withSection _ _ _ _).symm.trans hget)
  | set key value =>
    refine ⟨fun other hopen => ?_, h.current, fun name hname => ?_, fun name other old hget => ?_⟩
    · rw [← Option.some.inj hopen]
      exact (Document.hasKey_set _ _ _ _ _ _).mpr (.inr ⟨rfl, rfl⟩)
    · obtain hold | rfl := (Document.isSome_section?_set _ _ _ _ _).mp hname
      · exact h.name name hold
      · exact h.current
    · rw [Reading.perform, Document.get?_set] at hget
      split at hget
      · rw [← Option.some.inj hget]
        exact ha
      · exact h.value name other old hget

/-- **Every line keeps all in place.** -/
theorem Sound.line (h : r.Sound) (hfeed : '\n' ∉ raw) : (r.line raw).Sound := by
  obtain ⟨a, hdoes⟩ := r.exists_does raw
  rw [hdoes.line_eq]
  exact h.perform (hdoes.isSound h.value hfeed)

/-- **An indented line continues the key that is open**: the value is found, and the line is put to
it. -/
theorem Sound.line_of_isIndented (h : r.Sound) (hopen : r.openKey = some key) :
    ∃ value, r.document.get? r.current key = some value ∧
      ∀ raw, isIndented raw = true → trim raw ≠ [] → isComment (trim raw) = false →
        r.line raw =
          { r with
            document := r.document.set r.current key
              (value ++ "\n" ++ String.ofList (trim raw)) } := by
  obtain ⟨value, hvalue⟩ := Option.isSome_iff_exists.mp (h.stored key hopen)
  refine ⟨value, hvalue, fun raw hindent hne hcomment => ?_⟩
  have hcontinued : r.continued? raw = some (key, value) :=
    continued?_eq_some_iff.mpr ⟨hopen, hvalue, hindent⟩
  rw [(Does.continuation hne hcomment hcontinued).line_eq, Reading.perform, ← hopen]

/-! ### Many lines -/

theorem Sound.foldl_line (h : r.Sound) {ls : List (List Char)} (hls : ∀ l ∈ ls, '\n' ∉ l) :
    (ls.foldl Reading.line r).Sound := by
  induction ls generalizing r with
  | nil => exact h
  | cons l ls ih =>
    exact ih (h.line (hls l List.mem_cons_self)) fun l hl => hls l (List.mem_cons_of_mem _ hl)

end Reading

/-- **After every line of a text** the open key is one of the current section, so that an indented
line continues its value; every key is the lower case of one that was written on a line of its
section, and in the form of a key if lower-casing changes letters of ASCII only; and all names of
sections and all values are in the form of such. -/
theorem reading_keeps_normal_form {text : String} {read : List (List Char)}
    (h : read <+: Text.lines text.toList) :
    let r := read.foldl Reading.line {}
    (∀ key, r.openKey = some key →
      (r.document.section? r.current).isSome = true ∧
      ∃ value, r.document.get? r.current key = some value ∧
        ∀ raw, isIndented raw = true → trim raw ≠ [] → isComment (trim raw) = false →
          r.line raw =
            { r with
              document := r.document.set r.current key
                (value ++ "\n" ++ String.ofList (trim raw)) }) ∧
    (∀ name key, r.document.hasKey name key = true →
      (∃ above raw below written, read = above ++ raw :: below ∧
        (above.foldl Reading.line {}).current = name ∧
        (above.foldl Reading.line {}).Writes raw written ∧
        key = String.ofList (toLower written)) ∧
      ((∀ c ∈ text.toList, HasAsciiCase c) → IsKey key.toList)) ∧
    (∀ name, (r.document.section? name).isSome = true → IsName name.toList) ∧
    ∀ name key value, r.document.get? name key = some value → IsValue value.toList := by
  intro r
  have hread : ∀ l ∈ read, '\n' ∉ l ∧ ∀ c ∈ l, c ∈ text.toList :=
    fun _ hl => mem_of_mem_lines (h.subset hl)
  have hsound : r.Sound := Reading.Sound.empty.foldl_line fun l hl => (hread l hl).1
  refine ⟨fun key hopen => ?_, fun name key hkey => ⟨?_, fun hcase => ?_⟩, hsound.name,
    hsound.value⟩
  · obtain ⟨value, hvalue, hline⟩ := hsound.line_of_isIndented hopen
    obtain ⟨entries, hsection, -⟩ := Option.bind_eq_some_iff.mp hvalue
    exact ⟨Option.isSome_of_eq_some hsection, value, hvalue, hline⟩
  · obtain ⟨above, raw, below, hls, hname, written, hwrites, hwritten⟩ :=
      (Reading.hasKey_foldl_line_iff read name key).mp hkey
    exact ⟨above, raw, below, written, hls, hname, hwrites, hwritten⟩
  · obtain ⟨value, hvalue⟩ := Option.isSome_iff_exists.mp hkey
    have hstorable : r.IsStorable := Reading.IsStorable.empty.foldl_line fun l hl =>
      ⟨(hread l hl).1, fun c hc => hcase c ((hread l hl).2 c hc)⟩
    exact (hstorable.document.of_get? hvalue).1

/-- A key is open after a comment, and the indented line that follows looks like one with nothing
before its delimiter. -/
theorem reading_keeps_normal_form_after_comment :
    let text := "TOP\n[ s ]\nKey:\n; c\n  = é\n[t\n"
    let read := (Text.lines text.toList).take 4
    let r := read.foldl Reading.line {}
    read <+: Text.lines text.toList ∧ (∀ c ∈ text.toList, HasAsciiCase c) ∧
      r.openKey = some "key" ∧
      (r.line "  = é".toList).document.get? "s" "key" = some "\n= é" ∧
      IsKey "key".toList ∧ IsKey "top".toList ∧ IsName "s".toList ∧ IsValue "true".toList := by
  intro text read r
  have hstart : read <+: Text.lines text.toList := List.take_prefix _ _
  have hcase : ∀ c ∈ text.toList, HasAsciiCase c := by
    have hall : text.toList.all (fun c => decide (HasAsciiCase c)) = true := by decide +kernel
    simpa using hall
  have hopen : r.openKey = some "key" := by decide +kernel
  have hcurrent : r.current = "s" := by decide +kernel
  obtain ⟨hopened, hkeys, hnames, hvalues⟩ := reading_keeps_normal_form hstart
  obtain ⟨-, value, hvalue, hline⟩ := hopened "key" hopen
  have hempty : value = "" := by
    rw [hcurrent] at hvalue
    exact Option.some.inj (hvalue.symm.trans (by decide +kernel))
  refine ⟨hstart, hcase, hopen, ?_, (hkeys "s" "key" (by decide +kernel)).2 hcase,
    (hkeys "" "top" (by decide +kernel)).2 hcase, hnames "s" (by decide +kernel),
    hvalues "" "top" "true" (by decide +kernel)⟩
  rw [hline "  = é".toList (by decide) (by decide) (by decide), hempty, hcurrent]
  decide +kernel

end Ini

end LintHost
