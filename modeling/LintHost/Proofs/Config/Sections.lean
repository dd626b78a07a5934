import LintHost.Proofs.Sequence.Entries
import LintHost.Server.Events

/-!
# Settings in payloads

An editor sends one payload to all of its servers, so most of what arrives is not meant for this
one. A payload of changed configuration *carries* the member with the settings of this server, if
that is there and not `null` (`LintHost.Carries`). The options of a client that starts *offer* the
same member, or themselves, if they are an object with members that are settings all of them
(`LintHost.Offers`); a member of its own is no setting, so the two cannot both be meant.

What is carried need not be settings. Where it is read as settings, nothing is taken from anywhere
else: of each key the value is the one that is given, and the default where none is given
(`LintHost.Settings.member?_toJson_of_ofJson`).
-/

namespace LintHost

/-- **A payload carries a value** as its settings: as the member for this server, and not `null`. -/
def Carries (payload value : Json) : Prop :=
  payload.member? "mypyLint" = some value ∧ value ≠ .null

/-- **What the options of a client that starts offer** as settings. -/
inductive Offers (options : Json) : Json → Prop
  /-- The member for this server. -/
  | own {value : Json} (h : Carries options value) : Offers options value
  /-- The options as a whole, if they have members and only settings among them. -/
  | whole {members : List (String × Json)} (h : options = .object members) (hne : members ≠ [])
      (hkeys : ∀ m ∈ members, m.1 ∈ Settings.keys) : Offers options options

theorem configurationSettings_eq_some_iff {payload value : Json} :
    configurationSettings payload = some value ↔ Carries payload value := by
  rw [configurationSettings, Option.filter_eq_some_iff, Carries, settingsSection]
  refine and_congr_right fun _ => ?_
  cases value <;> simp [Json.isNull]

theorem configurationSettings_eq_none_iff {payload : Json} :
    configurationSettings payload = none ↔ ∀ value, ¬Carries payload value := by
  rw [Option.eq_none_iff_forall_ne_some]
  exact forall_congr' fun value => not_congr configurationSettings_eq_some_iff

theorem isSettingsObject_iff {options : Json} :
    Settings.isSettingsObject options = true ↔
      ∃ members, options = .object members ∧ members ≠ [] ∧ ∀ m ∈ members, m.1 ∈ Settings.keys := by
  cases options with
  | object members => simp [Settings.isSettingsObject]
  | _ => simp [Settings.isSettingsObject]

theorem Json.mem_of_lastOf? {key : String} {value : Json} {members : List (String × Json)}
    (h : Json.lastOf? key members = some value) : (key, value) ∈ members :=
  List.mem_reverse.mp (mem_of_lookup h)

/-- An object with no members but settings carries nothing. -/
theorem not_carries_of_keys {members : List (String × Json)}
    (hkeys : ∀ m ∈ members, m.1 ∈ Settings.keys) (value : Json) :
    ¬Carries (.object members) value := by
  rintro ⟨hmember, -⟩
  have hkey : "mypyLint" ∈ Settings.keys := hkeys _ (Json.mem_of_lastOf? hmember)
  exact absurd hkey (by decide)

theorem initializationSettings_eq_some_iff {options value : Json} :
    initializationSettings options = some value ↔ Offers options value := by
  rw [initializationSettings]
  cases hown : configurationSettings options with
  | some own =>
    have hcarries := configurationSettings_eq_some_iff.mp hown
    constructor
    · rintro ⟨rfl⟩
      exact .own hcarries
    · intro h
      cases h with
      | own h => rw [← hown, configurationSettings_eq_some_iff.mpr h]
      | whole h hne hkeys => exact absurd hcarries (h ▸ not_carries_of_keys hkeys own)
  | none =>
    have hnone := configurationSettings_eq_none_iff.mp hown
    simp only [Option.ite_none_right_eq_some, Option.some.injEq, isSettingsObject_iff]
    constructor
    · rintro ⟨⟨members, h, hne, hkeys⟩, rfl⟩
      exact .whole h hne hkeys
    · intro h
      cases h with
      | own h => exact absurd h (hnone _)
      | whole h hne hkeys => exact ⟨⟨_, h, hne, hkeys⟩, rfl⟩

namespace Settings

/-! ### Nothing but what is given -/

/-- What a value gives for a setting: an object by its keys, an array by the places of the
settings. -/
def given? (value : Json) (key : String) : Option Json :=
  match value with
  | .object members => Json.lastOf? key members
  | .array items => items[keys.idxOf key]?
  | _ => none

theorem switch_eq_ok {default value : Bool} {given : Option Json}
    (h : switch default given = .ok value) :
    some (.bool value) = given.or (some (.bool default)) := by
  unfold switch at h
  split at h
  · rw [Except.ok.inj h]; rfl
  · rw [Except.ok.inj h]; rfl
  · simp at h

theorem text_eq_ok {default value : String} {given : Option Json}
    (h : text default given = .ok value) :
    some (.string value) = given.or (some (.string default)) := by
  unfold text at h
  split at h
  · rw [Except.ok.inj h]; rfl
  · rw [Except.ok.inj h]; rfl
  · simp at h

theorem exists_of_bind_eq_ok {ε α β : Type} {x : Except ε α} {f : α → Except ε β} {b : β}
    (h : x >>= f = .ok b) : ∃ a, x = .ok a ∧ f a = .ok b := by
  cases x with
  | error e => exact absurd h nofun
  | ok a => exact ⟨a, rfl, h⟩

/-- The values of settings, in the order of the keys. -/
def values (s : Settings) : List (Option Json) :=
  [some (.bool s.lintOnChange), some (.string s.mypyCommand), some (.string s.envMypyPath),
    some (.bool s.incrementalMode), some (.string s.incrementalCacheDirectory),
    some (.bool s.debug)]

theorem map_member?_toJson (s : Settings) : keys.map (fun key => s.toJson.member? key) = s.values :=
  rfl

/-- Six settings, each of which is given or that of other settings. -/
theorem values_of_given {s defaults : Settings} {given : String → Option Json}
    (hlint : some (.bool s.lintOnChange) =
      (given "lintOnChange").or (some (.bool defaults.lintOnChange)))
    (hcommand : some (.string s.mypyCommand) =
      (given "mypyCommand").or (some (.string defaults.mypyCommand)))
    (hpath : some (.string s.envMypyPath) =
      (given "envMypyPath").or (some (.string defaults.envMypyPath)))
    (hincremental : some (.bool s.incrementalMode) =
      (given "incrementalMode").or (some (.bool defaults.incrementalMode)))
    (hcache : some (.string s.incrementalCacheDirectory) =
      (given "incrementalCacheDirectory").or (some (.string defaults.incrementalCacheDirectory)))
    (hdebug : some (.bool s.debug) = (given "debug").or (some (.bool defaults.debug))) :
    ∀ key ∈ keys, s.toJson.member? key = (given key).or (defaults.toJson.member? key) := by
  rw [← List.map_inj_left, map_member?_toJson, values, hlint, hcommand, hpath, hincremental, hcache,
    hdebug]
  rfl

/-- **Settings that are read from a value** have what the value gives, and the default where it
gives nothing. -/
theorem member?_toJson_of_ofJson {value : Json} {s : Settings} (h : ofJson value = .ok s) :
    ∀ key ∈ keys,
      s.toJson.member? key = (given? value key).or (({} : Settings).toJson.member? key) := by
  cases value with
  | null =>
    obtain rfl := Except.ok.inj h
    exact fun key _ => (Option.none_or).symm
  | object members =>
    rw [ofJson, ofMembers] at h
    obtain ⟨_, hdebug, h⟩ := exists_of_bind_eq_ok h
    obtain ⟨_, hpath, h⟩ := exists_of_bind_eq_ok h
    obtain ⟨_, hcache, h⟩ := exists_of_bind_eq_ok h
    obtain ⟨_, hincremental, h⟩ := exists_of_bind_eq_ok h
    obtain ⟨_, hlint, h⟩ := exists_of_bind_eq_ok h
    obtain ⟨_, hcommand, h⟩ := exists_of_bind_eq_ok h
    obtain rfl := Except.ok.inj h
    exact values_of_given (switch_eq_ok hlint) (text_eq_ok hcommand) (text_eq_ok hpath)
      (switch_eq_ok hincremental) (text_eq_ok hcache) (switch_eq_ok hdebug)
  | array items =>
    rw [ofJson, ofItems] at h
    obtain ⟨_, hlint, h⟩ := exists_of_bind_eq_ok h
    obtain ⟨_, hcommand, h⟩ := exists_of_bind_eq_ok h
    obtain ⟨_, hpath, h⟩ := exists_of_bind_eq_ok h
    obtain ⟨_, hincremental, h⟩ := exists_of_bind_eq_ok h
    obtain ⟨_, hcache, h⟩ := exists_of_bind_eq_ok h
    obtain ⟨_, hdebug, h⟩ := exists_of_bind_eq_ok h
    split at h
    · exact absurd h nofun
    · obtain rfl := Except.ok.inj h
      exact values_of_given (switch_eq_ok hlint) (text_eq_ok hcommand) (text_eq_ok hpath)
        (switch_eq_ok hincremental) (text_eq_ok hcache) (switch_eq_ok hdebug)
  | bool value => exact absurd h nofun
  | number n => exact absurd h nofun
  | string text => exact absurd h nofun

end Settings

end LintHost
