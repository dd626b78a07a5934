import LintHost.Proofs.Config.Storable

/-!
# Writing a configuration and reading it again

`LintHost.Ini.Document.render` writes a document as a file: each section as its header, each key
on a line with the first line of its value, and each further line of the value below it, indented.
A document that can be stored is read back from what is written, in the very order in which it
was written (`LintHost.Ini.parse_render`).

Reading leaves such documents only, so **every document that was read survives writing and
reading**, and so does each of its rearrangements: `LintHost.Ini.parse_render_parse`. The order
of sections and of keys is not part of what a document says (`LintHost.Ini.Document.Agrees`).

The proof follows the written lines. Each of the three kinds of line has a lemma that says what
reading it does (`line_header`, `line_entry`, `line_more`); what they keep in step is the last
section of the document and the key that is open.
-/

namespace LintHost

open Text

namespace Ini

/-! ### Writing -/

/-- The line of a key with the first line of its value, and the lines that continue it. -/
def entryLines (key value : List Char) : List (List Char) :=
  match splitOn '\n' value with
  | [] => []
  | first :: more => (key ++ [' ', '=', ' '] ++ first) :: more.map ([' ', ' ', ' ', ' '] ++ ·)

/-- The header of a section and the lines of its keys. -/
def sectionLines (name : String) (entries : Section) : List (List Char) :=
  (['['] ++ name.toList ++ [']']) :: entries.flatMap fun e => entryLines e.1.toList e.2.toList

namespace Document

/-- The lines of a document, in the order of its sections and keys. -/
def lines (doc : Document) : List (List Char) :=
  doc.sections.flatMap fun s => sectionLines s.1 s.2

/-- A document as the text of a file. -/
def render (doc : Document) : String :=
  String.ofList (doc.lines.flatMap fun line => line ++ ['\n'])

/-- One document has the sections of the other in any order, and in each of them the keys with
their values in any order. -/
def Arranges (doc other : Document) : Prop :=
  (doc.sections.map (·.1)).Perm (other.sections.map (·.1)) ∧
    ∀ s ∈ doc.sections, ∃ t ∈ other.sections, s.1 = t.1 ∧ s.2.Perm t.2

/-- Two documents have the same sections, and in each of them the same values. -/
def Agrees (doc other : Document) : Prop :=
  (∀ name, (doc.section? name).isSome = (other.section? name).isSome) ∧
    ∀ name key, doc.get? name key = other.get? name key

end Document

/-! ### Reading the three kinds of line -/

/-- A header opens its section. -/
theorem line_header (r : Reading) {name : String} (h : IsName name.toList) :
    r.line (['['] ++ name.toList ++ [']']) =
      { document := r.document.withSection name, current := name, openKey := none } := by
  rw [(r.does_header name.toList).line_eq, h.trimmed.trim_eq, String.ofList_toList]
  rfl

/-- The trimmed line of a key: of the blanks at its end one remains, if the value goes on. -/
theorem trim_entry {key first : List Char} (hkey : IsKey key) (hfirst : IsTrimmed first) :
    ∃ rest, trim (key ++ [' ', '=', ' '] ++ first) = key ++ ' ' :: '=' :: rest ∧
      trimStart rest = first := by
  by_cases hne : first = []
  · subst hne
    have htrim : IsTrimmed (key ++ [' '] ++ ['=']) :=
      hkey.trimmed.append (isTrimmed_singleton (by decide)) hkey.ne_nil (List.cons_ne_nil _ _) _
    refine ⟨[], ?_, rfl⟩
    have := (trim_append (c := ' ') (by decide) _).trans htrim.trim_eq
    simpa using this
  · refine ⟨' ' :: first, ?_, ?_⟩
    · rw [(hkey.trimmed.append hfirst hkey.ne_nil hne _).trim_eq]
      simp
    · rw [trimStart_cons (by decide), trimStart_eq hfirst.head]

/-- A key is cut off at the delimiter after it. -/
theorem keyAndValue_entry {key : List Char} (hkey : IsKey key) (rest : List Char) :
    keyAndValue (key ++ ' ' :: '=' :: rest) = (key, trimStart rest) := by
  have hpass : ∀ c ∈ key ++ [' '], (!isDelimiter c) = true := by
    intro c hc
    rcases List.mem_append.mp hc with hc | hc
    · rw [hkey.no_delimiter c hc, Bool.not_false]
    · rw [List.mem_singleton.mp hc]
      decide
  rw [show key ++ ' ' :: '=' :: rest = (key ++ [' ']) ++ '=' :: rest by simp, keyAndValue,
    List.dropWhile_append_of_pos hpass, List.takeWhile_append_of_pos hpass,
    List.dropWhile_cons_of_neg (by decide), List.takeWhile_cons_of_neg (by decide)]
  simp only [List.append_nil, trimEnd_append (c := ' ') (by decide) key,
    trimEnd_eq hkey.trimmed.last]

/-- The line of a key sets it and opens it. -/
theorem line_entry (r : Reading) {key : String} {first : List Char} (hkey : IsKey key.toList)
    (hfirst : IsTrimmed first) :
    r.line (key.toList ++ [' ', '=', ' '] ++ first) =
      { r with document := r.document.set r.current key (String.ofList first),
               openKey := some key } := by
  obtain ⟨rest, htrim, hrest⟩ := trim_entry hkey hfirst
  have hkv := keyAndValue_entry hkey rest
  -- The line starts as the key does, both before and after it is trimmed.
  obtain ⟨c, cs, hcs⟩ := List.exists_cons_of_ne_nil hkey.ne_nil
  have hhead : ∀ more, (key.toList ++ more).head? = key.toList.head? := by simp [hcs]
  have hindent : isIndented (key.toList ++ [' ', '=', ' '] ++ first) = false :=
    not_isIndented_of_head (c := c) (by simp [hcs]) (hkey.trimmed.head c (by simp [hcs]))
  have hwrites : r.Writes (key.toList ++ [' ', '=', ' '] ++ first) key.toList :=
    { leads := (leads_iff (isTrimmed_trim _)).mpr (by rw [htrim, hkv])
      ne_nil := hkey.ne_nil
      not_comment := by rw [htrim, isComment, hhead]; exact hkey.not_comment
      not_continued := Reading.continued?_eq_none hindent
      not_header := by rw [htrim, hhead]; exact hkey.not_header }
  rw [(Reading.Does.entry hwrites).line_eq, htrim, hkv, hkey.lower, hrest, String.ofList_toList]
  rfl

/-- An indented line continues the value of the open key. -/
theorem line_more {r : Reading} {key value : String} {l : List Char}
    (hopen : r.openKey = some key) (hget : r.document.get? r.current key = some value)
    (hl : IsContinuation l) :
    r.line ([' ', ' ', ' ', ' '] ++ l) =
      { r with document :=
          r.document.set r.current key (value ++ "\n" ++ String.ofList l) } := by
  have htrim : trim ([' ', ' ', ' ', ' '] ++ l) = l := by
    simp only [List.cons_append, List.nil_append, trim, trimStart_cons (c := ' ') (by decide)]
    rw [trimStart_eq hl.trimmed.head, trimEnd_eq hl.trimmed.last]
  have hcont : r.continued? ([' ', ' ', ' ', ' '] ++ l) = some (key, value) :=
    Reading.continued?_eq_some_iff.mpr ⟨hopen, hget, rfl⟩
  rw [(Reading.Does.continuation (by rw [htrim]; exact hl.ne_nil)
    (by rw [htrim]; exact hl.not_comment) hcont).line_eq, htrim, Reading.perform, ← hopen]

/-! ### Reading a section -/

section Last

variable {before : List (String × Section)} {name : String} {entries : Section}

theorem section?_last (h : name ∉ before.map (·.1)) :
    (⟨before ++ [(name, entries)]⟩ : Document).section? name = some entries :=
  lookup_append_singleton h

theorem set_last (h : name ∉ before.map (·.1)) (key value : String) :
    (⟨before ++ [(name, entries)]⟩ : Document).set name key value =
      ⟨before ++ [(name, assign key value entries)]⟩ := by
  rw [Document.set, section?_last h, Option.getD_some, assign_append_singleton h]

theorem withSection_new (h : name ∉ before.map (·.1)) :
    (⟨before⟩ : Document).withSection name = ⟨before ++ [(name, [])]⟩ := by
  rw [Document.withSection, Document.section?, lookup_eq_none_of_not_mem h, Option.getD_none,
    assign_of_not_mem h]

/-- The continuations of the last value are put to it. -/
theorem foldl_more (hname : name ∉ before.map (·.1)) {key : String}
    (hkey : key ∉ entries.map (·.1)) {more : List (List Char)}
    (hmore : ∀ l ∈ more, IsContinuation l) (v : List Char) :
    (more.map ([' ', ' ', ' ', ' '] ++ ·)).foldl Reading.line
        ⟨⟨before ++ [(name, entries ++ [(key, String.ofList v)])]⟩, name, some key⟩ =
      ⟨⟨before ++ [(name, entries ++ [(key, String.ofList (join '\n' (v :: more)))])]⟩, name,
        some key⟩ := by
  induction more generalizing v with
  | nil => rfl
  | cons l more ih =>
    have hget : (⟨before ++ [(name, entries ++ [(key, String.ofList v)])]⟩ : Document).get?
        name key = some (String.ofList v) := by
      rw [Document.get?, section?_last hname, Option.bind_some, lookup_append_singleton hkey]
    have hvalue : String.ofList v ++ "\n" ++ String.ofList l = String.ofList (v ++ '\n' :: l) :=
      String.toList_injective (by simp)
    rw [List.map_cons, List.foldl_cons, line_more rfl hget (hmore l List.mem_cons_self)]
    simp only [set_last hname, assign_append_singleton hkey, hvalue]
    rw [ih (fun l hl => hmore l (List.mem_cons_of_mem _ hl)), join_append_cons]

/-- The lines of a new key put it at the end of the last section. -/
theorem foldl_entryLines (hname : name ∉ before.map (·.1)) {key value : String}
    (hnew : key ∉ entries.map (·.1)) (hkey : IsKey key.toList) (hvalue : IsValue value.toList)
    (openKey : Option String) :
    (entryLines key.toList value.toList).foldl Reading.line
        ⟨⟨before ++ [(name, entries)]⟩, name, openKey⟩ =
      ⟨⟨before ++ [(name, entries ++ [(key, value)])]⟩, name, some key⟩ := by
  obtain ⟨first, more, hsplit, hfirst, hmore⟩ := hvalue
  have hjoin := join_splitOn '\n' value.toList
  rw [hsplit] at hjoin
  simp only [entryLines, hsplit]
  rw [List.foldl_cons, line_entry _ hkey hfirst]
  simp only [set_last hname, assign_of_not_mem hnew]
  rw [foldl_more hname hnew hmore, hjoin, String.ofList_toList]

/-- The lines of the keys of a section put them at the end of it, in their order. -/
theorem foldl_entries (hname : name ∉ before.map (·.1)) {added : Section}
    (h : Section.IsStorable (entries ++ added)) (openKey : Option String) :
    ∃ openKey', (added.flatMap fun e => entryLines e.1.toList e.2.toList).foldl Reading.line
        ⟨⟨before ++ [(name, entries)]⟩, name, openKey⟩ =
      ⟨⟨before ++ [(name, entries ++ added)]⟩, name, openKey'⟩ := by
  induction added generalizing entries openKey with
  | nil => exact ⟨openKey, by rw [List.append_nil]; rfl⟩
  | cons e added ih =>
    have hmem : e ∈ entries ++ e :: added := List.mem_append_right _ List.mem_cons_self
    have hnew : e.1 ∉ entries.map (·.1) := not_mem_of_nodup_append_cons h.nodup
    have hassoc : entries ++ e :: added = entries ++ [e] ++ added := by simp
    rw [List.flatMap_cons, List.foldl_append,
      foldl_entryLines hname hnew (h.key e hmem) (h.value e hmem), hassoc]
    exact ih (hassoc ▸ h) _

end Last

/-- The lines of sections put them at the end of a document that has none of their names. -/
theorem foldl_sections {before sections : List (String × Section)}
    (h : Document.IsStorable ⟨before ++ sections⟩) {r : Reading} (hr : r.document = ⟨before⟩) :
    ((sections.flatMap fun s => sectionLines s.1 s.2).foldl Reading.line r).document =
      ⟨before ++ sections⟩ := by
  induction sections generalizing before r with
  | nil => simpa using hr
  | cons s sections ih =>
    have hmem : s ∈ before ++ s :: sections := List.mem_append_right _ List.mem_cons_self
    have hnew : s.1 ∉ before.map (·.1) := not_mem_of_nodup_append_cons h.nodup
    have hassoc : before ++ s :: sections = before ++ [s] ++ sections := by simp
    have hstorable : Section.IsStorable ([] ++ s.2) := h.entries s hmem
    obtain ⟨openKey, hentries⟩ := foldl_entries hnew hstorable none
    rw [List.flatMap_cons, List.foldl_append, sectionLines, List.foldl_cons,
      line_header r (h.name s hmem), hr, withSection_new hnew, hentries, hassoc]
    exact ih (hassoc ▸ h) rfl

/-! ### Reading the written text -/

/-- No trimmed line ends with a carriage return. -/
theorem getLast?_append_ne_return {front l : List Char} (hl : IsTrimmed l)
    (hfront : front.getLast? ≠ some '\r') : (front ++ l).getLast? ≠ some '\r' := by
  rw [List.getLast?_append]
  cases hlast : l.getLast? with
  | none => simpa using hfront
  | some c =>
    rw [Option.some_or]
    intro hc
    have := hl.last c hlast
    rw [Option.some.inj hc] at this
    exact absurd this (by decide)

theorem mem_entryLines {key value l : List Char} (hkey : IsKey key) (hvalue : IsValue value)
    (hl : l ∈ entryLines key value) : '\n' ∉ l ∧ l.getLast? ≠ some '\r' := by
  obtain ⟨first, more, hsplit, hfirst, hmore⟩ := hvalue
  have hfeed : ∀ piece ∈ first :: more, '\n' ∉ piece := fun piece hp =>
    not_mem_of_mem_splitOn (hsplit ▸ hp)
  simp only [entryLines, hsplit] at hl
  rcases List.mem_cons.mp hl with rfl | hl
  · have := hfeed first List.mem_cons_self
    exact ⟨by simp [hkey.no_feed, this], getLast?_append_ne_return hfirst
      (by rw [List.getLast?_append, show [' ', '=', ' '].getLast? = some ' ' from rfl,
        Option.some_or]; decide)⟩
  · obtain ⟨piece, hp, rfl⟩ := List.mem_map.mp hl
    have := hfeed piece (List.mem_cons_of_mem _ hp)
    exact ⟨by simp [this], getLast?_append_ne_return (hmore piece hp).trimmed (by decide)⟩

theorem mem_documentLines {doc : Document} (h : doc.IsStorable) {l : List Char}
    (hl : l ∈ doc.lines) : '\n' ∉ l ∧ l.getLast? ≠ some '\r' := by
  obtain ⟨s, hs, hl⟩ := List.mem_flatMap.mp hl
  rcases List.mem_cons.mp hl with rfl | hl
  · exact ⟨by simp [(h.name s hs).no_feed], by rw [List.getLast?_concat]; decide⟩
  · obtain ⟨e, he, hl⟩ := List.mem_flatMap.mp hl
    exact mem_entryLines ((h.entries s hs).key e he) ((h.entries s hs).value e he) hl

/-- **A storable document is read back from what is written**, order included. -/
theorem parse_render {doc : Document} (h : doc.IsStorable) : parse doc.render = doc := by
  have hlines : Text.lines doc.render.toList = doc.lines := by
    rw [Document.render, String.toList_ofList]
    exact lines_ended (fun l hl => (mem_documentLines h hl).1) fun l hl =>
      (mem_documentLines h hl).2
  have hall : Document.IsStorable ⟨[] ++ doc.sections⟩ := h
  rw [parse, hlines]
  exact foldl_sections hall rfl

/-! ### Rearranging -/

theorem Section.IsStorable.perm {entries others : Section} (h : Section.IsStorable others)
    (hperm : entries.Perm others) : Section.IsStorable entries where
  nodup := (hperm.map _).nodup_iff.mpr h.nodup
  key e he := h.key e (hperm.mem_iff.mp he)
  value e he := h.value e (hperm.mem_iff.mp he)

namespace Document

theorem Arranges.isStorable {doc other : Document} (h : doc.Arranges other)
    (hother : other.IsStorable) : doc.IsStorable where
  nodup := h.1.nodup_iff.mpr hother.nodup
  name s hs := by
    obtain ⟨t, ht, hname, -⟩ := h.2 s hs
    exact hname ▸ hother.name t ht
  entries s hs := by
    obtain ⟨t, ht, -, hperm⟩ := h.2 s hs
    exact (hother.entries t ht).perm hperm

theorem isSome_section? (doc : Document) (name : String) :
    (doc.section? name).isSome = true ↔ name ∈ doc.sections.map (·.1) := by
  rw [section?, List.lookup_isSome_iff, List.mem_map]
  exact exists_congr fun s => and_congr_right fun _ => by rw [beq_iff_eq, eq_comm]

/-- **A rearranged document says the same.** -/
theorem Arranges.agrees {doc other : Document} (h : doc.Arranges other)
    (hother : other.IsStorable) : doc.Agrees other := by
  have hsome : ∀ name, (doc.section? name).isSome = (other.section? name).isSome := by
    intro name
    rw [Bool.eq_iff_iff, isSome_section?, isSome_section?, h.1.mem_iff]
  refine ⟨hsome, fun name key => ?_⟩
  cases hs : doc.section? name with
  | none =>
    have hnone : other.section? name = none := by
      rw [← Option.not_isSome_iff_eq_none, ← hsome name, hs]
      simp
    rw [get?, get?, hs, hnone]
  | some entries =>
    obtain ⟨⟨_, entries'⟩, ht, rfl, hperm⟩ := h.2 _ (mem_of_lookup hs)
    have hs' : other.section? name = some entries' :=
      (lookup_eq_some_iff_mem hother.nodup).mpr ht
    have hentries := (hother.entries _ ht).perm hperm
    rw [get?, get?, hs, hs', Option.bind_some, Option.bind_some,
      lookup_perm hentries.nodup hperm]

end Document

/-- **Every document that was read can be written out and read back**, its sections and their
keys in any order: what is read back is the document in the order in which it was written, and
it has the sections, keys and values that it had. -/
theorem parse_render_parse {text : String} (h : ∀ c ∈ text.toList, HasAsciiCase c) :
    parse (parse text).render = parse text ∧
      ∀ doc : Document, doc.Arranges (parse text) →
        parse doc.render = doc ∧ doc.Agrees (parse text) := by
  have hstorable := isStorable_parse h
  exact ⟨parse_render hstorable, fun doc hdoc =>
    ⟨parse_render (hdoc.isStorable hstorable), hdoc.agrees hstorable⟩⟩

/-- A key before any header, an empty section, and a value whose first line is empty and whose
continuations look like a header and a key. -/
theorem parse_render_parse_continued :
    let text := "top\n[]\n[empty]\n[ b ]\nKey =\n\t[c]\n  d = é\n"
    let doc : Document :=
      ⟨[("b", [("key", "\n[c]\nd = é")]), ("", [("top", "true")]), ("empty", [])]⟩
    doc.Arranges (parse text) ∧ parse (parse text).render = parse text ∧
      parse doc.render = doc ∧ doc.Agrees (parse text) := by
  intro text doc
  have hread : parse text =
      ⟨[("", [("top", "true")]), ("empty", []), ("b", [("key", "\n[c]\nd = é")])]⟩ := by
    decide +kernel
  have harranges : doc.Arranges (parse text) := by
    rw [hread]
    constructor <;> decide
  have hcase : ∀ c ∈ text.toList, HasAsciiCase c := by
    have hall : text.toList.all (fun c => decide (HasAsciiCase c)) = true := by decide +kernel
    simpa using hall
  obtain ⟨hsame, hany⟩ := parse_render_parse hcase
  exact ⟨harranges, hsame, hany doc harranges⟩

end Ini

end LintHost
