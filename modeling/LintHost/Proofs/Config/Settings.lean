import LintHost.Proofs.Config.Sections

/-!
# Settings as JSON

Settings are read from an object by the names of its members and written as an object with all of
them, and an object is taken for settings if it has no other members. So there are three places that
know the names, and this file says that they agree.

What they are compared with is told apart from all three: `LintHost.Settings.HasType` says which
values a setting can have, and `LintHost.Settings.Holds` which one it has. An object can be read
exactly if the values that it gives have these types; then the settings hold what it gives, and the
default where it gives nothing; and what is written is what the settings hold
(`LintHost.Settings.ofJson_and_toJson_agree`). A member with the name of a setting is therefore never
passed over, and any other member always is.
-/

namespace LintHost

namespace Settings

/-! ### What settings hold -/

/-- The settings that are switches. -/
def switches : List String :=
  ["lintOnChange", "incrementalMode", "debug"]

/-- The settings that are texts. -/
def texts : List String :=
  ["mypyCommand", "envMypyPath", "incrementalCacheDirectory"]

/-- **A value has the type of a setting.** -/
inductive HasType : String → Json → Prop
  | switch {key : String} (hkey : key ∈ switches) (value : Bool) : HasType key (.bool value)
  | text {key : String} (hkey : key ∈ texts) (value : String) : HasType key (.string value)

/-- **What settings hold** under the name of each of them. -/
inductive Holds (s : Settings) : String → Json → Prop
  | lintOnChange : Holds s "lintOnChange" (.bool s.lintOnChange)
  | mypyCommand : Holds s "mypyCommand" (.string s.mypyCommand)
  | envMypyPath : Holds s "envMypyPath" (.string s.envMypyPath)
  | incrementalMode : Holds s "incrementalMode" (.bool s.incrementalMode)
  | incrementalCacheDirectory :
    Holds s "incrementalCacheDirectory" (.string s.incrementalCacheDirectory)
  | debug : Holds s "debug" (.bool s.debug)

variable {s : Settings} {key : String} {value : Json} {members : List (String × Json)}

theorem Holds.mem_keys (h : s.Holds key value) : key ∈ keys := by
  cases h <;> decide

theorem Holds.hasType (h : s.Holds key value) : HasType key value := by
  cases h with
  | lintOnChange => exact .switch (by decide) _
  | mypyCommand => exact .text (by decide) _
  | envMypyPath => exact .text (by decide) _
  | incrementalMode => exact .switch (by decide) _
  | incrementalCacheDirectory => exact .text (by decide) _
  | debug => exact .switch (by decide) _

/-- **What is written** is what the settings hold. -/
theorem member?_toJson_eq_some_iff : s.toJson.member? key = some value ↔ s.Holds key value := by
  constructor
  · intro h
    have hmem := Json.mem_of_lastOf? h
    simp only [List.mem_cons, Prod.mk.injEq, List.not_mem_nil, or_false] at hmem
    obtain ⟨rfl, rfl⟩ | ⟨rfl, rfl⟩ | ⟨rfl, rfl⟩ | ⟨rfl, rfl⟩ | ⟨rfl, rfl⟩ | ⟨rfl, rfl⟩ := hmem
    · exact .lintOnChange
    · exact .mypyCommand
    · exact .envMypyPath
    · exact .incrementalMode
    · exact .incrementalCacheDirectory
    · exact .debug
  · intro h
    cases h <;> rfl

theorem member?_toJson_eq_none (s : Settings) (hkey : key ∉ keys) : s.toJson.member? key = none := by
  rw [Option.eq_none_iff_forall_ne_some]
  exact fun value h => hkey (member?_toJson_eq_some_iff.mp h).mem_keys

/-! ### Which objects can be read -/

theorem not_mem_texts : ∀ key ∈ switches, key ∉ texts := by
  decide

theorem switches_subset_keys : switches ⊆ keys := by
  decide

theorem texts_subset_keys : texts ⊆ keys := by
  decide

theorem HasType.exists_bool (h : HasType key value) (hkey : key ∈ switches) :
    ∃ b, value = .bool b := by
  cases h with
  | switch _ b => exact ⟨b, rfl⟩
  | text htext => exact absurd htext (not_mem_texts key hkey)

theorem HasType.exists_string (h : HasType key value) (hkey : key ∈ texts) :
    ∃ t, value = .string t := by
  cases h with
  | switch hswitch => exact absurd hkey (not_mem_texts key hswitch)
  | text _ t => exact ⟨t, rfl⟩

theorem exists_switch_eq_ok {given : Option Json}
    (h : ∀ value, given = some value → ∃ b, value = .bool b) (default : Bool) :
    ∃ b, switch default given = .ok b := by
  cases given with
  | none => exact ⟨default, rfl⟩
  | some value =>
    obtain ⟨b, rfl⟩ := h value rfl
    exact ⟨b, rfl⟩

theorem exists_text_eq_ok {given : Option Json}
    (h : ∀ value, given = some value → ∃ t, value = .string t) (default : String) :
    ∃ t, text default given = .ok t := by
  cases given with
  | none => exact ⟨default, rfl⟩
  | some value =>
    obtain ⟨t, rfl⟩ := h value rfl
    exact ⟨t, rfl⟩

theorem exists_bind_eq_ok {ε α β : Type} {x : Except ε α} {f : α → Except ε β}
    (hx : ∃ a, x = .ok a) (hf : ∀ a, ∃ b, f a = .ok b) : ∃ b, x >>= f = .ok b := by
  obtain ⟨a, rfl⟩ := hx
  exact hf a

/-- Members that have the types of their settings can be read. -/
theorem exists_ofMembers_eq_ok {member? : String → Option Json}
    (h : ∀ key ∈ keys, ∀ value, member? key = some value → HasType key value) :
    ∃ s, ofMembers member? = .ok s := by
  have hswitch : ∀ key ∈ switches, ∀ default, ∃ b, switch default (member? key) = .ok b :=
    fun key hkey => exists_switch_eq_ok fun value hvalue =>
      (h key (switches_subset_keys hkey) value hvalue).exists_bool hkey
  have htext : ∀ key ∈ texts, ∀ default, ∃ t, text default (member? key) = .ok t :=
    fun key hkey => exists_text_eq_ok fun value hvalue =>
      (h key (texts_subset_keys hkey) value hvalue).exists_string hkey
  rw [ofMembers]
  -- The six settings in the order in which they are looked at.
  refine exists_bind_eq_ok (hswitch "debug" (by decide) _) fun _ => ?_
  refine exists_bind_eq_ok (htext "envMypyPath" (by decide) _) fun _ => ?_
  refine exists_bind_eq_ok (htext "incrementalCacheDirectory" (by decide) _) fun _ => ?_
  refine exists_bind_eq_ok (hswitch "incrementalMode" (by decide) _) fun _ => ?_
  refine exists_bind_eq_ok (hswitch "lintOnChange" (by decide) _) fun _ => ?_
  refine exists_bind_eq_ok (htext "mypyCommand" (by decide) _) fun _ => ?_
  exact ⟨_, rfl⟩

/-- Of the members that are given, only those with the names of settings count. -/
theorem ofMembers_congr {f g : String → Option Json} (h : ∀ key ∈ keys, f key = g key) :
    ofMembers f = ofMembers g := by
  simp only [keys, List.forall_mem_cons] at h
  obtain ⟨hlint, hcommand, hpath, hincremental, hcache, hdebug, -⟩ := h
  rw [ofMembers, ofMembers, hdebug, hpath, hcache, hincremental, hlint, hcommand]

/-- **Members with other names have no effect**, on the settings or on what is reported. -/
theorem ofJson_filter (members : List (String × Json)) :
    ofJson (.object (members.filter fun m => keys.contains m.1)) = ofJson (.object members) := by
  rw [ofJson, ofJson]
  refine ofMembers_congr fun key hkey => ?_
  rw [Json.lastOf?, ← List.filter_reverse, lookup_filter_key key keys.contains,
    if_pos (List.contains_iff_mem.mpr hkey), Json.lastOf?]

/-! ### What is read from an object -/

/-- **What is read is what is given**, and the default where nothing is. -/
theorem holds_iff_of_ofJson (h : ofJson (.object members) = .ok s) (key : String) (value : Json) :
    s.Holds key value ↔
      key ∈ keys ∧ Json.lastOf? key members = some value ∨
        Json.lastOf? key members = none ∧ ({} : Settings).Holds key value := by
  by_cases hkey : key ∈ keys
  · have hmember : s.toJson.member? key =
        (Json.lastOf? key members).or (({} : Settings).toJson.member? key) :=
      member?_toJson_of_ofJson h key hkey
    rw [← member?_toJson_eq_some_iff, ← member?_toJson_eq_some_iff, hmember]
    cases Json.lastOf? key members with
    | none => simp
    | some given => simp [hkey]
  · -- Neither has settings with another name.
    exact iff_of_false (fun hholds => hkey hholds.mem_keys) fun hgiven =>
      hgiven.elim (fun hgiven => hkey hgiven.1) fun hdefault => hkey hdefault.2.mem_keys

/-- **An object can be read exactly if its values have the types of their settings.** -/
theorem exists_ofJson_eq_ok_iff :
    (∃ s, ofJson (.object members) = .ok s) ↔
      ∀ key ∈ keys, ∀ value, Json.lastOf? key members = some value → HasType key value := by
  constructor
  · rintro ⟨s, h⟩ key hkey value hgiven
    exact ((holds_iff_of_ofJson h key value).mpr (.inl ⟨hkey, hgiven⟩)).hasType
  · exact exists_ofMembers_eq_ok

/-- The members of an object that is taken for settings are settings. -/
theorem mem_keys_of_isSettingsObject {object : Json} (h : isSettingsObject object = true)
    (hvalue : object.member? key = some value) : key ∈ keys := by
  obtain ⟨members, rfl, -, hkeys⟩ := isSettingsObject_iff.mp h
  exact hkeys _ (Json.mem_of_lastOf? hvalue)

/-- An object that is taken for settings is written again as it was read, with the defaults for the
settings that it does not give. -/
theorem member?_toJson_of_isSettingsObject {object : Json} (h : isSettingsObject object = true)
    (hread : ofJson object = .ok s) (key : String) :
    s.toJson.member? key = (object.member? key).or (({} : Settings).toJson.member? key) := by
  by_cases hkey : key ∈ keys
  · obtain ⟨members, rfl, -, -⟩ := isSettingsObject_iff.mp h
    exact member?_toJson_of_ofJson hread key hkey
  · have hnone : object.member? key = none := by
      rw [Option.eq_none_iff_forall_ne_some]
      exact fun value hvalue => hkey (mem_keys_of_isSettingsObject h hvalue)
    rw [hnone, member?_toJson_eq_none s hkey, member?_toJson_eq_none {} hkey]
    rfl

/-! ### Reading and writing -/

/-- **Reading and writing agree on the settings.** An object is read exactly if each setting that it
gives has the type of that setting; then the settings hold what is given, and the default where
nothing is, while other members have no effect. All settings are read back from what is written, and
that is taken for settings. Whatever object is taken for settings and read is written again with the
same members, and the defaults for the others. The store of settings gets exactly what was read, and
keeps what it has if nothing was. -/
theorem ofJson_and_toJson_agree :
    (∀ members : List (String × Json),
      ((∃ s, ofJson (.object members) = .ok s) ↔
        ∀ key ∈ keys, ∀ value, (Json.object members).member? key = some value →
          HasType key value) ∧
      (∀ s, ofJson (.object members) = .ok s → ∀ key value, s.Holds key value ↔
        key ∈ keys ∧ (Json.object members).member? key = some value ∨
          (Json.object members).member? key = none ∧ ({} : Settings).Holds key value) ∧
      ofJson (.object (members.filter fun m => keys.contains m.1)) = ofJson (.object members)) ∧
    (∀ s : Settings, ofJson s.toJson = .ok s ∧ isSettingsObject s.toJson = true ∧
      ∀ key value, s.toJson.member? key = some value ↔ s.Holds key value) ∧
    (∀ (object : Json) (s : Settings), isSettingsObject object = true → ofJson object = .ok s →
      ∀ key, (∀ value, object.member? key = some value → s.toJson.member? key = some value) ∧
        (object.member? key = none →
          s.toJson.member? key = ({} : Settings).toJson.member? key)) ∧
    ∀ (store : SettingsStore) (value : Json),
      (∀ s, ofJson value = .ok s → store.update value = (.ok s, ⟨s⟩)) ∧
      ∀ e, ofJson value = .error e → store.update value = (.error e, store) := by
  refine ⟨fun members => ⟨exists_ofJson_eq_ok_iff, fun s h => holds_iff_of_ofJson h,
    ofJson_filter members⟩, fun s => ⟨rfl, rfl, fun key value => member?_toJson_eq_some_iff⟩,
    fun object s h hread key => ?_, fun store value => ⟨fun s h => ?_, fun e h => ?_⟩⟩
  · have hmember := member?_toJson_of_isSettingsObject h hread key
    exact ⟨fun value hvalue => by rw [hmember, hvalue, Option.some_or],
      fun hnone => by rw [hmember, hnone, Option.none_or]⟩
  · rw [SettingsStore.update, h]
    rfl
  · rw [SettingsStore.update, h]

/-- Two settings and a member that is none of them, and a switch that is present but `null`. -/
theorem ofJson_and_toJson_agree_null :
    let known : List (String × Json) := [("debug", .bool true), ("mypyCommand", .string "mypy")]
    let members : List (String × Json) := ("mypycommand", .null) :: known
    let refused : Json := .object [("mypyCommand", .string "mypy"), ("debug", .null)]
    let s : Settings := { mypyCommand := "mypy", debug := true }
    ofJson (.object members) = .ok s ∧ ofJson (.object known) = .ok s ∧
      (∀ key ∈ keys, ∀ value, (Json.object members).member? key = some value →
        HasType key value) ∧
      s.Holds "mypyCommand" (.string "mypy") ∧ s.Holds "lintOnChange" (.bool true) ∧
      isSettingsObject (.object known) = true ∧
      s.toJson.member? "debug" = some (.bool true) ∧
      s.toJson.member? "envMypyPath" = ({} : Settings).toJson.member? "envMypyPath" ∧
      (¬∃ t, ofJson refused = .ok t) ∧
      (⟨s⟩ : SettingsStore).update refused = (.error (.invalidSettings (.notSwitch .null)), ⟨s⟩) := by
  intro known members refused s
  obtain ⟨hobjects, -, hagrees, hstore⟩ := ofJson_and_toJson_agree
  obtain ⟨htypes, hholds, hothers⟩ := hobjects members
  have hread : ofJson (.object members) = .ok s := rfl
  have hknown : ofJson (.object known) = .ok s := hothers.trans hread
  have hsettings : isSettingsObject (.object known) = true := rfl
  refine ⟨hread, hknown, htypes.mp ⟨s, hread⟩, ?_, ?_, hsettings, ?_, ?_, ?_, ?_⟩
  · exact (hholds s hread _ _).mpr (.inl ⟨by decide, rfl⟩)
  · exact (hholds s hread _ _).mpr (.inr ⟨rfl, .lintOnChange⟩)
  · exact (hagrees _ s hsettings hknown "debug").1 _ rfl
  · exact (hagrees _ s hsettings hknown "envMypyPath").2 rfl
  · rw [(hobjects _).1]
    intro htyped
    cases htyped "debug" (by decide) .null rfl
  · exact (hstore ⟨s⟩ refused).2 _ rfl

end Settings

end LintHost
