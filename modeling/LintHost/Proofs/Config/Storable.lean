import LintHost.Proofs.Config.Lines
import LintHost.Proofs.Text.Pieces

/-!
# What a configuration file can hold

The documents that reading leaves: `LintHost.Ini.Document.IsStorable` says which names, keys and
values can be stored, and no name and no key is stored twice.

| part | what it can be |
|---|---|
| name of a section | trimmed, on one line, possibly empty (`LintHost.Ini.IsName`) |
| key | trimmed, not empty, lowered, no delimiter in it (`LintHost.Ini.IsKey`) |
| value | a trimmed first line, possibly empty, and continuations (`LintHost.Ini.IsValue`) |
| continuation | trimmed, not empty, not a comment (`LintHost.Ini.IsContinuation`) |

Every line keeps this (`LintHost.Ini.Reading.IsStorable.line`), so every text is read to such a
document (`LintHost.Ini.isStorable_parse`), as long as lower-casing changes letters of ASCII only.
-/

namespace LintHost

open Text

namespace Ini

/-! ### Assigning to a key -/

section Assign

variable {α : Type} {key : String} {value : α} {entries : List (String × α)}

theorem mem_assign {e : String × α} (h : e ∈ assign key value entries) :
    e = (key, value) ∨ e ∈ entries := by
  induction entries with
  | nil => exact .inl (List.mem_singleton.mp h)
  | cons entry rest ih =>
    rw [assign] at h
    split at h
    · exact (List.mem_cons.mp h).imp_right (List.mem_cons_of_mem _)
    · rcases List.mem_cons.mp h with rfl | h
      · exact .inr List.mem_cons_self
      · exact (ih h).imp_right (List.mem_cons_of_mem _)

theorem nodup_assign (h : (entries.map (·.1)).Nodup) :
    ((assign key value entries).map (·.1)).Nodup := by
  induction entries with
  | nil => simp [assign]
  | cons entry rest ih =>
    obtain ⟨hnew, hrest⟩ := List.nodup_cons.mp h
    rw [assign]
    split
    · next heq =>
      rw [List.map_cons, ← heq]
      exact List.nodup_cons.mpr ⟨hnew, hrest⟩
    · next hne =>
      refine List.nodup_cons.mpr ⟨fun hmem => ?_, ih hrest⟩
      obtain ⟨e, he, hkey⟩ := List.mem_map.mp hmem
      rcases mem_assign he with rfl | he
      · exact hne hkey.symm
      · exact hnew (List.mem_map.mpr ⟨e, he, hkey⟩)

/-- A new key goes to the end. -/
theorem assign_of_not_mem (h : key ∉ entries.map (·.1)) :
    assign key value entries = entries ++ [(key, value)] := by
  induction entries with
  | nil => rfl
  | cons entry rest ih =>
    rw [List.map_cons, List.mem_cons, not_or] at h
    rw [assign, if_neg (Ne.symm h.1), ih h.2, List.cons_append]

/-- The value of the last key is replaced where it stands. -/
theorem assign_append_singleton (h : key ∉ entries.map (·.1)) (old : α) :
    assign key value (entries ++ [(key, old)]) = entries ++ [(key, value)] := by
  induction entries with
  | nil => simp [assign]
  | cons entry rest ih =>
    rw [List.map_cons, List.mem_cons, not_or] at h
    rw [List.cons_append, assign, if_neg (Ne.symm h.1), ih h.2, List.cons_append]

end Assign

/-! ### Names, keys and values -/

/-- The name of a section. -/
structure IsName (name : List Char) : Prop where
  trimmed : IsTrimmed name
  no_feed : '\n' ∉ name

/-- A key. -/
structure IsKey (key : List Char) : Prop where
  ne_nil : key ≠ []
  trimmed : IsTrimmed key
  no_feed : '\n' ∉ key
  no_delimiter : ∀ c ∈ key, isDelimiter c = false
  not_comment : isComment key = false
  not_header : key.head? ≠ some '['
  lower : toLower key = key

/-- A line that can continue a value. -/
structure IsContinuation (line : List Char) : Prop where
  ne_nil : line ≠ []
  trimmed : IsTrimmed line
  not_comment : isComment line = false

/-- A value: only its first line may be empty. -/
def IsValue (value : List Char) : Prop :=
  ∃ first more, splitOn '\n' value = first :: more ∧ IsTrimmed first ∧
    ∀ line ∈ more, IsContinuation line

theorem IsValue.of_line {line : List Char} (h : IsTrimmed line) (hfeed : '\n' ∉ line) :
    IsValue line :=
  ⟨line, [], splitOn_of_not_mem hfeed, h, nofun⟩

theorem isValue_true : IsValue "true".toList := by
  rw [show "true".toList = ['t', 'r', 'u', 'e'] from rfl]
  exact .of_line ((isTrimmed_singleton (c := 't') (by decide)).append
    (isTrimmed_singleton (c := 'e') (by decide)) (List.cons_ne_nil _ _) (List.cons_ne_nil _ _)
    ['r', 'u']) (by decide)

theorem IsValue.continue {value line : List Char} (h : IsValue value) (hline : IsContinuation line)
    (hfeed : '\n' ∉ line) : IsValue (value ++ '\n' :: line) := by
  obtain ⟨first, more, hsplit, hfirst, hmore⟩ := h
  refine ⟨first, more ++ [line], ?_, hfirst, fun l hl => ?_⟩
  · rw [splitOn_append_cons, hsplit, splitOn_of_not_mem hfeed, List.cons_append]
  · rcases List.mem_append.mp hl with hl | hl
    · exact hmore l hl
    · rwa [List.mem_singleton.mp hl]

/-! ### Documents -/

/-- A section whose keys differ and whose keys and values are such. -/
structure Section.IsStorable (entries : Section) : Prop where
  nodup : (entries.map (·.1)).Nodup
  key : ∀ e ∈ entries, IsKey e.1.toList
  value : ∀ e ∈ entries, IsValue e.2.toList

/-- A document whose sections differ in name and have names, keys and values that are such. -/
structure Document.IsStorable (doc : Document) : Prop where
  nodup : (doc.sections.map (·.1)).Nodup
  name : ∀ s ∈ doc.sections, IsName s.1.toList
  entries : ∀ s ∈ doc.sections, Section.IsStorable s.2

theorem Section.IsStorable.nil : Section.IsStorable [] :=
  ⟨List.nodup_nil, nofun, nofun⟩

theorem Section.IsStorable.assign {entries : Section} {key value : String}
    (h : Section.IsStorable entries) (hkey : IsKey key.toList) (hvalue : IsValue value.toList) :
    Section.IsStorable (Ini.assign key value entries) where
  nodup := nodup_assign h.nodup
  key e he := by
    rcases mem_assign he with rfl | he
    · exact hkey
    · exact h.key e he
  value e he := by
    rcases mem_assign he with rfl | he
    · exact hvalue
    · exact h.value e he

namespace Document

variable {doc : Document} {name key value : String}

theorem IsStorable.empty : IsStorable {} :=
  ⟨List.nodup_nil, nofun, nofun⟩

theorem IsStorable.getD_section (h : doc.IsStorable) (name : String) :
    Section.IsStorable ((doc.section? name).getD []) := by
  cases hs : doc.section? name with
  | none => exact Section.IsStorable.nil
  | some entries => exact h.entries _ (mem_of_lookup hs)

theorem IsStorable.assign {entries : Section} (h : doc.IsStorable) (hname : IsName name.toList)
    (hentries : Section.IsStorable entries) :
    IsStorable ⟨Ini.assign name entries doc.sections⟩ where
  nodup := nodup_assign h.nodup
  name s hs := by
    rcases mem_assign hs with rfl | hs
    · exact hname
    · exact h.name s hs
  entries s hs := by
    rcases mem_assign hs with rfl | hs
    · exact hentries
    · exact h.entries s hs

theorem IsStorable.withSection (h : doc.IsStorable) (hname : IsName name.toList) :
    (doc.withSection name).IsStorable :=
  h.assign hname (h.getD_section name)

theorem IsStorable.set (h : doc.IsStorable) (hname : IsName name.toList)
    (hkey : IsKey key.toList) (hvalue : IsValue value.toList) :
    (doc.set name key value).IsStorable :=
  h.assign hname ((h.getD_section name).assign hkey hvalue)

theorem IsStorable.of_get? (h : doc.IsStorable) (hget : doc.get? name key = some value) :
    IsKey key.toList ∧ IsValue value.toList := by
  obtain ⟨entries, hs, hlookup⟩ := Option.bind_eq_some_iff.mp hget
  have hentries := h.entries _ (mem_of_lookup hs)
  have hmem := mem_of_lookup hlookup
  exact ⟨hentries.key _ hmem, hentries.value _ hmem⟩

end Document

/-! ### One line -/

/-- The parts of a trimmed line: a trimmed key without a delimiter that the line starts with,
and a trimmed value made of characters of the line, or else the word for a bare key. -/
theorem keyAndValue_spec {line : List Char} (hline : IsTrimmed line) (hfeed : '\n' ∉ line) :
    (keyAndValue line).1 <+: line ∧ IsTrimmed (keyAndValue line).1 ∧
      (∀ c ∈ (keyAndValue line).1, isDelimiter c = false) ∧ IsValue (keyAndValue line).2 := by
  rw [keyAndValue]
  split
  · next hdrop =>
    rw [List.dropWhile_eq_nil_iff] at hdrop
    exact ⟨List.prefix_refl _, hline, fun c hc => by simpa using hdrop c hc,
      isValue_true⟩
  · next delimiter rest hdrop =>
    have hfront := List.takeWhile_prefix (l := line) fun c => !isDelimiter c
    have hback : rest <:+ line :=
      (List.suffix_cons delimiter rest).trans (hdrop ▸ List.dropWhile_suffix _)
    refine ⟨(trimEnd_isPrefix _).trans hfront, hline.trimEnd_isPrefix hfront, fun c hc => ?_,
      .of_line (hline.trimStart_isSuffix hback) fun hmem => hfeed ?_⟩
    · simpa using List.mem_takeWhile_imp ((trimEnd_isPrefix _).subset hc)
    · exact hback.subset ((trimStart_isSuffix _).subset hmem)

theorem isComment_eq_false_iff {line : List Char} :
    isComment line = false ↔ line.head? ≠ some '#' ∧ line.head? ≠ some ';' := by
  simp [isComment]

/-- A key that is cut off a line and lowered. -/
theorem isKey_toLower {line key : List Char} (hfront : key <+: line) (hne : key ≠ [])
    (htrim : IsTrimmed key) (hdelimiter : ∀ c ∈ key, isDelimiter c = false)
    (hfeed : '\n' ∉ line) (hcomment : isComment line = false) (hheader : line.head? ≠ some '[')
    (hcase : ∀ c ∈ line, HasAsciiCase c) : IsKey (toLower key) := by
  have hkey : ∀ c ∈ key, HasAsciiCase c := fun c hc => hcase c (hfront.subset hc)
  have hmap := toLower_eq_map hkey
  -- The lowered key starts with a sign that is not a letter only if the line does.
  have hhead : ∀ d : Char, d.isAlpha = false → (toLower key).head? = some d →
      line.head? = some d := by
    intro d hd h
    rw [hmap, List.head?_map, Option.map_eq_some_iff] at h
    obtain ⟨c, hc, hlow⟩ := h
    rw [toLower_eq_iff hd] at hlow
    exact hlow ▸ head?_of_isPrefix hfront hc
  rw [isComment_eq_false_iff] at hcomment
  exact
    { ne_nil := by simpa [hmap] using hne
      trimmed := hmap ▸ htrim.toLower
      no_feed := by
        intro hmem
        obtain ⟨c, hc, hlow⟩ := List.mem_map.mp (hmap ▸ hmem)
        rw [toLower_eq_iff (by decide)] at hlow
        exact hfeed (hlow ▸ hfront.subset hc)
      no_delimiter := by
        intro d hd
        obtain ⟨c, hc, rfl⟩ := List.mem_map.mp (hmap ▸ hd)
        have := hdelimiter c hc
        simp only [isDelimiter, Bool.or_eq_false_iff, beq_eq_false_iff_ne, ne_eq] at this ⊢
        rwa [toLower_eq_iff (by decide), toLower_eq_iff (by decide)]
      not_comment := isComment_eq_false_iff.mpr
        ⟨fun h => hcomment.1 (hhead _ (by decide) h), fun h => hcomment.2 (hhead _ (by decide) h)⟩
      not_header := fun h => hheader (hhead _ (by decide) h)
      lower := toLower_toLower hkey }

namespace Reading

/-- A reading whose document is storable, and whose section has a name. -/
structure IsStorable (r : Reading) : Prop where
  document : r.document.IsStorable
  current : IsName r.current.toList

theorem IsStorable.empty : IsStorable {} :=
  ⟨Document.IsStorable.empty, isTrimmed_nil, nofun⟩

/-- A section is entered by a name. -/
theorem isName_of_headerName? {rest name : List Char} (h : headerName? rest = some name)
    (hfeed : '\n' ∉ rest) : IsName name := by
  rw [headerName?, Option.ite_none_right_eq_some] at h
  obtain ⟨-, h⟩ := h
  rw [← Option.some.inj h]
  exact ⟨isTrimmed_trim _, fun hmem => hfeed (List.dropLast_subset _ (mem_of_mem_trim hmem))⟩

/-- What an action brings, if it brings anything, is the name of a section or a value. -/
def Action.IsSound : Action → Prop
  | .pass | .close => True
  | .enter name => IsName name.toList
  | .set _ value => IsValue value.toList

section Does

variable {r : Reading} {raw : List Char} {a : Action} {key value : String}

/-- **What a line brings** is the name of a section or a value, as long as a value that it continues is
one. -/
theorem Does.isSound (hdoes : r.Does raw a)
    (hvalues : ∀ name key value, r.document.get? name key = some value → IsValue value.toList)
    (hfeed : '\n' ∉ raw) : a.IsSound := by
  have hfeed' : '\n' ∉ trim raw := fun hc => hfeed (mem_of_mem_trim hc)
  cases hdoes with
  | blank => trivial
  | comment => trivial
  | continuation hne hcomment hopen =>
    -- The value that is continued was one before, and gets a line that can continue it.
    obtain ⟨-, hget, -⟩ := continued?_eq_some_iff.mp hopen
    have hvalue := (hvalues _ _ _ hget).continue ⟨hne, isTrimmed_trim raw, hcomment⟩ hfeed'
    simpa [Action.IsSound] using hvalue
  | header hline _ hname =>
    rw [hline] at hfeed'
    rw [Action.IsSound, String.toList_ofList]
    exact isName_of_headerName? hname fun hc => hfeed' (List.mem_cons_of_mem _ hc)
  | unclosed => trivial
  | keyless => trivial
  | entry =>
    obtain ⟨-, -, -, hvalue⟩ := keyAndValue_spec (isTrimmed_trim raw) hfeed'
    rwa [Action.IsSound, String.toList_ofList]

/-- **What a line sets** has the key of such an entry, as long as those that are stored have: a
continuation sets a key that is there, and one that is written is lowered. -/
theorem Does.isKey (hdoes : r.Does raw (.set key value))
    (hkeys : ∀ name key value, r.document.get? name key = some value → IsKey key.toList)
    (hfeed : '\n' ∉ raw) (hcase : ∀ c ∈ raw, HasAsciiCase c) : IsKey key.toList := by
  cases hdoes with
  | continuation _ _ hopen =>
    obtain ⟨-, hget, -⟩ := continued?_eq_some_iff.mp hopen
    exact hkeys _ _ _ hget
  | entry hwrites =>
    have htrim := isTrimmed_trim raw
    have hfeed' : '\n' ∉ trim raw := fun hc => hfeed (mem_of_mem_trim hc)
    obtain ⟨hfront, hkey, hdelimiter, -⟩ := keyAndValue_spec htrim hfeed'
    rw [(leads_iff htrim).mp hwrites.leads] at hfront hkey hdelimiter
    rw [String.toList_ofList]
    exact isKey_toLower hfront hwrites.ne_nil hkey hdelimiter hfeed' hwrites.not_comment
      hwrites.not_header fun c hc => hcase c (mem_of_mem_trim hc)

end Does

/-- **Every line keeps what is stored storable.** -/
theorem IsStorable.line {r : Reading} (h : r.IsStorable) {raw : List Char} (hfeed : '\n' ∉ raw)
    (hcase : ∀ c ∈ raw, HasAsciiCase c) : (r.line raw).IsStorable := by
  obtain ⟨a, hdoes⟩ := r.exists_does raw
  have hsound : a.IsSound :=
    hdoes.isSound (fun _ _ _ hget => (h.document.of_get? hget).2) hfeed
  rw [hdoes.line_eq]
  cases a with
  | pass => exact h
  | close => exact ⟨h.document, h.current⟩
  | enter name => exact ⟨h.document.withSection hsound, hsound⟩
  | set key value =>
    have hkey : IsKey key.toList :=
      hdoes.isKey (fun _ _ _ hget => (h.document.of_get? hget).1) hfeed hcase
    exact ⟨h.document.set h.current hkey hsound, h.current⟩

theorem IsStorable.foldl_line {r : Reading} (h : r.IsStorable) {ls : List (List Char)}
    (hls : ∀ l ∈ ls, '\n' ∉ l ∧ ∀ c ∈ l, HasAsciiCase c) :
    (ls.foldl Reading.line r).IsStorable := by
  induction ls generalizing r with
  | nil => exact h
  | cons l ls ih =>
    obtain ⟨hfeed, hcase⟩ := hls l List.mem_cons_self
    exact ih (h.line hfeed hcase) fun l hl => hls l (List.mem_cons_of_mem _ hl)

end Reading

/-- **Every text is read to a storable document**, if lower-casing changes letters of ASCII
only. -/
theorem isStorable_parse {text : String} (h : ∀ c ∈ text.toList, HasAsciiCase c) :
    (parse text).IsStorable := by
  refine (Reading.IsStorable.empty.foldl_line fun l hl => ?_).document
  obtain ⟨hfeed, hmem⟩ := mem_of_mem_lines hl
  exact ⟨hfeed, fun c hc => h c (hmem c hc)⟩

end Ini

end LintHost
