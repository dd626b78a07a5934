import LintHost.FileSystem
import LintHost.Proofs.Sequence.Entries
import LintHost.Proofs.Text.Bytes
import LintHost.Proofs.Text.Pieces

/-!
# A temporary file can be read back

A temporary file is put at a location, and whoever is handed it gets a path. This file shows
that the path leads to the location, so that what was written is what is read
(`LintHost.FileSystem.readText_createTemporary`). There are three things that might stand in
the way, and none of them does:

* the name of the file might lead elsewhere, as `..` does; the last component of a path never
  is such a name (`LintHost.FileSystem.isName_of_fileName?`);
* a name or the whole path might be too long; a temporary directory has one of a million names
  (`LintHost.FileSystem.utf8ByteSize_temporaryName_le`), and a longer file name is refused when the
  file is created;
* something might stand in the place already; of two entries for one location the new one
  counts.
-/

namespace LintHost

/-! ### Putting a path together -/

namespace Path

/-- A relative path is put after a path that does not end with a slash, with one between. -/
theorem join_text {p q : Path} (hq : q.isAbsolute = false) (hp : p.chars ≠ [])
    (hlast : p.chars.getLast? ≠ some '/') : (p.join q).text = p.text ++ "/" ++ q.text := by
  rw [join, if_neg (by simp [hq]), if_neg (not_or.mpr ⟨hp, hlast⟩)]

end Path

namespace FileSystem

/-! ### Names -/

/-- **A name**: a text that, as a segment of a path, leads one directory down. -/
structure IsName (name : String) : Prop where
  no_slash : '/' ∉ name.toList
  not_silent : Path.isSilent name.toList = false
  not_parent : name.toList ≠ ['.', '.']

namespace IsName

variable {name : String}

theorem ne_nil (h : IsName name) : name.toList ≠ [] := fun hnil => by
  have hsilent := h.not_silent
  rw [hnil] at hsilent
  simp [Path.isSilent] at hsilent

theorem not_absolute (h : IsName name) : (Path.mk name).isAbsolute = false := by
  rw [Path.isAbsolute, beq_eq_false_iff_ne]
  exact fun hhead => h.no_slash (List.mem_of_head? hhead)

end IsName

/-- The last component of a path, where it is a name at all, is one that leads down. -/
theorem isName_of_fileName? {path : Path} {name : String} (h : path.fileName? = some name) :
    IsName name := by
  have hmem : Component.name name ∈ path.components := by
    rw [Path.fileName?] at h
    split at h
    · next text hlast =>
      obtain rfl := Option.some.inj h
      exact List.mem_of_getLast? hlast
    · simp at h
  rw [Path.components, List.mem_append] at hmem
  rcases hmem with hanchor | hsegment
  · unfold Path.anchorComponent at hanchor
    split at hanchor <;> simp at hanchor
  · obtain ⟨segment, hsegment, hname⟩ := List.mem_map.mp hsegment
    obtain ⟨hpiece, hsilent⟩ := List.mem_filter.mp hsegment
    rw [Path.segmentComponent] at hname
    split at hname
    · simp at hname
    · next hparent =>
      obtain rfl := Component.name.inj hname
      rw [Bool.not_eq_true'] at hsilent
      exact ⟨by rw [String.toList_ofList]; exact Text.not_mem_of_mem_splitOn hpiece,
        by rw [String.toList_ofList]; exact hsilent,
        by rw [String.toList_ofList]; exact hparent⟩

/-- The characters of the name of a temporary directory. -/
theorem toList_temporaryName (n : Nat) :
    (temporaryName n).toList = "mypy-lint-".toList ++
      (List.replicate (6 - (Nat.toDigits 10 n).length) '0' ++ Nat.toDigits 10 n) := by
  rw [temporaryName, String.toList_append, String.toList_ofList]
  rfl

/-- The name of a temporary directory is of the shared part and of digits. -/
theorem mem_or_isDigit_of_mem_temporaryName {n : Nat} {c : Char}
    (h : c ∈ (temporaryName n).toList) : c ∈ "mypy-lint-".toList ∨ c.isDigit = true := by
  rw [toList_temporaryName, List.mem_append, List.mem_append] at h
  rcases h with hstem | hzero | hdigit
  · exact Or.inl hstem
  · exact Or.inr (List.eq_of_mem_replicate hzero ▸ rfl)
  · exact Or.inr (Nat.isDigit_of_mem_toDigits (by decide) (by decide) hdigit)

theorem nul_not_mem_temporaryName (n : Nat) : '\x00' ∉ (temporaryName n).toList := fun h =>
  absurd (mem_or_isDigit_of_mem_temporaryName h) (by decide)

theorem isName_temporaryName (n : Nat) : IsName (temporaryName n) where
  no_slash h := absurd (mem_or_isDigit_of_mem_temporaryName h) (by decide)
  not_silent := by
    rw [toList_temporaryName]
    rfl
  not_parent := by
    rw [toList_temporaryName]
    simp

theorem isName_tmp : IsName "tmp" :=
  ⟨by decide, by decide, by decide⟩

/-- The name of a temporary directory is short, since there are no more than six digits in it. -/
theorem utf8ByteSize_temporaryName_le {n : Nat} (h : n < temporaryNames) :
    (temporaryName n).utf8ByteSize ≤ 64 := by
  have hdigits : (Nat.toDigits 10 n).length ≤ 6 :=
    (Nat.length_toDigits_le_iff (by decide) (by decide)).mpr h
  have hlength : (temporaryName n).toList.length = 16 := by
    rw [toList_temporaryName, List.length_append, List.length_append, List.length_replicate]
    have hstem : "mypy-lint-".toList.length = 10 := by decide
    omega
  have hle := Text.byteSize_le (temporaryName n).toList
  rw [Text.byteSize, String.ofList_toList] at hle
  omega

/-! ### What creating a temporary file does -/

/-- A location that nothing stands at or below. -/
def Free (fs : FileSystem) (place : Location) : Prop :=
  ∀ e ∈ fs.entries, ¬place <+: e.1

/-- Removing what was put at and below a free location leaves the file system as it was. -/
theorem removeTree_append {fs : FileSystem} {place : Location} (hfree : fs.Free place)
    {more : List (Location × Entry)} (hmore : ∀ e ∈ more, place <+: e.1) :
    ({ fs with entries := more ++ fs.entries } : FileSystem).removeTree place = fs := by
  have hold : fs.entries.filter (fun e => !place.isPrefixOf e.1) = fs.entries :=
    List.filter_eq_self.mpr fun e he => by
      rw [Bool.not_eq_true', ← Bool.not_eq_true, List.isPrefixOf_iff_prefix]
      exact hfree e he
  have hnew : more.filter (fun e => !place.isPrefixOf e.1) = [] :=
    List.filter_eq_nil_iff.mpr fun e he => by
      rw [Bool.not_eq_true, Bool.not_eq_false', List.isPrefixOf_iff_prefix]
      exact hmore e he
  rw [removeTree, List.filter_append, hnew, hold, List.nil_append]

/-- **Removing a directory** takes what stands at or below it, and nothing else. -/
theorem entryAt?_removeTree (fs : FileSystem) {place : Location} (hne : place ≠ [])
    (other : Location) :
    (fs.removeTree place).entryAt? other =
      if place <+: other then none else fs.entryAt? other := by
  rw [entryAt?, entryAt?, removeTree, lookup_filter_key other (fun key => !place.isPrefixOf key)]
  by_cases hprefix : place <+: other
  · have hother : other ≠ [] := fun hnil => hne (List.prefix_nil.mp (hnil ▸ hprefix))
    rw [if_pos hprefix, if_neg hother, List.isPrefixOf_iff_prefix.mpr hprefix]
    rfl
  · have hfalse : place.isPrefixOf other = false := by
      rw [← Bool.not_eq_true, List.isPrefixOf_iff_prefix]
      exact hprefix
    rw [if_neg hprefix, hfalse]
    rfl

/-- Where nothing stands, nothing is looked up. -/
theorem Free.entryAt?_eq_none {fs : FileSystem} {place other : Location} (hfree : fs.Free place)
    (hne : place ≠ []) (h : place <+: other) : fs.entryAt? other = none := by
  have hother : other ≠ [] := fun hnil => hne (List.prefix_nil.mp (hnil ▸ h))
  rw [entryAt?, if_neg hother, List.lookup_eq_none_iff]
  intro e he
  rw [bne_iff_ne]
  rintro rfl
  exact hfree e he h

/-- What is put at and below a location changes nothing elsewhere. -/
theorem entryAt?_append {fs : FileSystem} {place other : Location}
    {more : List (Location × Entry)} (hmore : ∀ e ∈ more, place <+: e.1)
    (h : ¬place <+: other) :
    ({ fs with entries := more ++ fs.entries } : FileSystem).entryAt? other =
      fs.entryAt? other := by
  have hnone : more.lookup other = none := by
    rw [List.lookup_eq_none_iff]
    intro e he
    rw [bne_iff_ne]
    rintro rfl
    exact h (hmore e he)
  rw [entryAt?, entryAt?, List.lookup_append, hnone, Option.none_or]

/-- **A temporary directory that was made**: it has one of the names for such directories, and nothing
stood there. -/
theorem makeTemporary_eq_ok {fs made : FileSystem} {free : String}
    (h : fs.makeTemporary = .ok (made, free)) :
    fs.entryAt? ["tmp"] = some .directory ∧ fs.Free ["tmp", free] ∧
      (∃ n < temporaryNames, free = temporaryName n) ∧
      made = { fs with entries := [(["tmp", free], .directory)] ++ fs.entries } := by
  rw [makeTemporary] at h
  split at h
  · simp [throw, throwThe, MonadExceptOf.throw, bind, Except.bind] at h
  · simp [throw, throwThe, MonadExceptOf.throw, bind, Except.bind] at h
  · next hroot =>
    simp only [throw, throwThe, MonadExceptOf.throw, pure, Except.pure] at h
    split at h
    · simp at h
    · next hfound =>
      rw [freeTemporary?] at hfound
      obtain ⟨rfl, rfl⟩ := Prod.mk.inj (Except.ok.inj h)
      obtain ⟨n, hn, rfl⟩ := List.mem_map.mp (List.mem_of_find?_eq_some hfound)
      have hlt := List.mem_range.mp hn
      refine ⟨hroot, fun e he => ?_, ⟨n, by omega, rfl⟩, rfl⟩
      have hall := List.find?_some hfound
      have hentry := List.all_eq_true.mp hall e he
      rwa [decide_eq_true_eq, List.isPrefixOf_iff_prefix] at hentry

/-- **A file that was written** has a name that the system takes. -/
theorem writeBelow_eq_ok {fs written : FileSystem} {directory : Location} {name text : String}
    (h : fs.writeBelow directory name text = .ok written) :
    '\x00' ∉ name.toList ∧ name.utf8ByteSize ≤ nameLimit ∧
      written = { fs with entries := (directory ++ [name], .file (.text text)) :: fs.entries } := by
  rw [writeBelow] at h
  simp only [throw, throwThe, MonadExceptOf.throw, bind, Except.bind, pure, Except.pure] at h
  by_cases hnul : '\x00' ∈ name.toList
  · simp [if_pos hnul] at h
  · rw [if_neg hnul] at h
    by_cases hlong : nameLimit < name.utf8ByteSize
    · simp [if_pos hlong] at h
    · simp only [if_neg hlong] at h
      exact ⟨hnul, Nat.not_lt.mp hlong, (Except.ok.inj h).symm⟩

/-- **An attempt to create a temporary file** leaves the file system as it was, or has made a directory
where nothing stood, with the file in it. -/
theorem tryTemporary_cases (fs : FileSystem) (name text : String) :
    (∃ cause, fs.tryTemporary name text = (.error cause, fs)) ∨
      fs.entryAt? ["tmp"] = some .directory ∧ '\x00' ∉ name.toList ∧
        name.utf8ByteSize ≤ nameLimit ∧
        ∃ n < temporaryNames, fs.Free ["tmp", temporaryName n] ∧
          fs.tryTemporary name text =
            (.ok ⟨["tmp", temporaryName n],
              (temporaryRoot.join ⟨temporaryName n⟩).join ⟨name⟩⟩,
            { fs with entries := [(["tmp", temporaryName n, name], .file (.text text)),
              (["tmp", temporaryName n], .directory)] ++ fs.entries }) := by
  rw [tryTemporary]
  cases hmade : fs.makeTemporary with
  | error cause => exact .inl ⟨cause, rfl⟩
  | ok made =>
    obtain ⟨made, free⟩ := made
    obtain ⟨hroot, hfree, ⟨n, hn, rfl⟩, rfl⟩ := makeTemporary_eq_ok hmade
    simp only
    split
    · next cause _ =>
      -- The directory is all that was made, and it is removed again.
      exact .inl ⟨cause, by rw [removeTree_append hfree (by simp)]⟩
    · next written hwritten =>
      obtain ⟨hnul, hsize, rfl⟩ := writeBelow_eq_ok hwritten
      exact .inr ⟨hroot, hnul, hsize, n, hn, hfree, rfl⟩

/-- **A temporary file that was created**: what the file system must have been like, and what it
is like now. -/
theorem createTemporary_eq_ok {fs fs' : FileSystem} {name text : String} {file : TemporaryFile}
    (h : fs.createTemporary name text = .ok (fs', file)) :
    fs.entryAt? ["tmp"] = some .directory ∧ '\x00' ∉ name.toList ∧
      name.utf8ByteSize ≤ nameLimit ∧
      ∃ n < temporaryNames, fs.Free ["tmp", temporaryName n] ∧
        fs' = { fs with entries := [(["tmp", temporaryName n, name], .file (.text text)),
          (["tmp", temporaryName n], .directory)] ++ fs.entries } ∧
        file = ⟨["tmp", temporaryName n],
          (temporaryRoot.join ⟨temporaryName n⟩).join ⟨name⟩⟩ := by
  rw [createTemporary] at h
  obtain ⟨cause, htry⟩ | ⟨hroot, hnul, hsize, n, hn, hfree, htry⟩ :=
    fs.tryTemporary_cases name text
  · simp [htry] at h
  · rw [htry] at h
    obtain ⟨rfl, rfl⟩ := Prod.mk.inj (Except.ok.inj h)
    exact ⟨hroot, hnul, hsize, n, hn, hfree, rfl, rfl⟩

/-- **A temporary file has a place of its own**: nothing stood there, nothing else has changed, and with
the place removed all is as before. -/
theorem createTemporary_restores {fs fs' : FileSystem} {name text : String} {file : TemporaryFile}
    (h : fs.createTemporary name text = .ok (fs', file)) :
    file.directory ≠ [] ∧ fs.Free file.directory ∧
      (∀ other, ¬file.directory <+: other → fs'.entryAt? other = fs.entryAt? other) ∧
      fs'.removeTree file.directory = fs := by
  obtain ⟨-, -, -, n, -, hfree, rfl, rfl⟩ := createTemporary_eq_ok h
  have hbelow : ∀ e ∈ [((["tmp", temporaryName n, name] : Location), Entry.file (.text text)),
      (["tmp", temporaryName n], .directory)], ["tmp", temporaryName n] <+: e.1 := by
    simp
  exact ⟨List.cons_ne_nil _ _, hfree, fun other hother => entryAt?_append hbelow hother,
    removeTree_append hfree hbelow⟩

/-! ### Following the path -/

/-- A name leads one directory down. -/
theorem follow_name {fs : FileSystem} {here : Location} {name : String} {rest : List (List Char)}
    (hhere : fs.entryAt? here = some .directory) (hname : IsName name)
    (hsize : name.utf8ByteSize ≤ nameLimit) :
    fs.follow here (name.toList :: rest) = fs.follow (here ++ [name]) rest := by
  rw [follow, hhere]
  simp only [String.ofList_toList, hname.not_silent, if_neg hname.not_parent,
    if_neg (Nat.not_lt.mpr hsize), Bool.false_eq_true, if_false]

/-- The empty segment before the first slash leads nowhere else. -/
theorem follow_nil_segment {fs : FileSystem} {rest : List (List Char)} :
    fs.follow [] ([] :: rest) = fs.follow [] rest := by
  rw [follow, entryAt?, if_pos rfl]
  rfl

/-- The segments of the path of a temporary file. -/
theorem splitOn_temporaryPath {free name : String} (hfree : IsName free) (hname : IsName name) :
    Text.splitOn '/' ("/tmp/" ++ free ++ "/" ++ name).toList =
      [[], "tmp".toList, free.toList, name.toList] := by
  have htext : ("/tmp/" ++ free ++ "/" ++ name).toList =
      [] ++ '/' :: ("tmp".toList ++ '/' :: (free.toList ++ '/' :: name.toList)) := by
    simp only [String.toList_append, List.append_assoc]
    rfl
  rw [htext, Text.splitOn_append_cons_of_not_mem List.not_mem_nil,
    Text.splitOn_append_cons_of_not_mem (by decide),
    Text.splitOn_append_cons_of_not_mem hfree.no_slash, Text.splitOn_of_not_mem hname.no_slash]

/-- The text of the path of a temporary file. -/
theorem text_temporaryPath {free name : String} (hfree : IsName free) (hname : IsName name) :
    ((temporaryRoot.join ⟨free⟩).join ⟨name⟩).text = "/tmp/" ++ free ++ "/" ++ name := by
  have hdirectory : (temporaryRoot.join ⟨free⟩).text = "/tmp/" ++ free := by
    rw [Path.join_text hfree.not_absolute (by decide) (by decide)]
    rfl
  have hlast : (temporaryRoot.join ⟨free⟩).chars.getLast? ≠ some '/' := by
    have hlast := List.getLast?_eq_some_getLast hfree.ne_nil
    rw [Path.chars, hdirectory, String.toList_append, List.getLast?_append, hlast, Option.some_or]
    exact fun h => hfree.no_slash (Option.some.inj h ▸ List.getLast_mem hfree.ne_nil)
  have hne : (temporaryRoot.join ⟨free⟩).chars ≠ [] := by
    rw [Path.chars, hdirectory, String.toList_append]
    exact List.append_ne_nil_of_right_ne_nil _ hfree.ne_nil
  rw [Path.join_text hname.not_absolute hne hlast, hdirectory]

/-- The path of a temporary file leads below `/tmp`, into the directory made for it. -/
theorem locate_temporaryPath {fs : FileSystem} {n : Nat} {name : String}
    (hroot : fs.entryAt? ["tmp"] = some .directory)
    (hdirectory : fs.entryAt? ["tmp", temporaryName n] = some .directory)
    (hn : n < temporaryNames) (hname : IsName name) (hnul : '\x00' ∉ name.toList)
    (hsize : name.utf8ByteSize ≤ nameLimit) :
    fs.locate ((temporaryRoot.join ⟨temporaryName n⟩).join ⟨name⟩) =
      .ok ["tmp", temporaryName n, name] := by
  have hfree := isName_temporaryName n
  have hfreeNul := nul_not_mem_temporaryName n
  have hfreeSize := utf8ByteSize_temporaryName_le hn
  have hpath := text_temporaryPath hfree hname
  generalize temporaryName n = free at *
  have hne : ("/tmp/" ++ free ++ "/" ++ name).toList ≠ [] := by simp
  have hnuls : '\x00' ∉ ("/tmp/" ++ free ++ "/" ++ name).toList := by
    simp only [String.toList_append, List.mem_append, not_or]
    exact ⟨⟨⟨by decide, hfreeNul⟩, by decide⟩, hnul⟩
  have habsolute : (("/tmp/" ++ free ++ "/" ++ name).toList.head? == some '/') = true := by
    simp
  have hsizes : ("/tmp/" ++ free ++ "/" ++ name).utf8ByteSize < pathLimit := by
    have htmp : "/tmp/".utf8ByteSize = 5 := rfl
    have hslash : "/".utf8ByteSize = 1 := rfl
    simp only [String.utf8ByteSize_append, nameLimit, pathLimit] at *
    omega
  have hlimit : free.utf8ByteSize ≤ nameLimit := Nat.le_trans hfreeSize (by decide)
  rw [locate, Path.isAbsolute, Path.chars, hpath, if_neg hne, if_neg hnuls,
    if_neg (Nat.not_le.mpr hsizes), if_pos habsolute, splitOn_temporaryPath hfree hname,
    follow_nil_segment, follow_name (if_pos rfl) isName_tmp (by decide), List.nil_append,
    follow_name hroot hfree hlimit, List.singleton_append, follow_name hdirectory hname hsize]
  rfl

/-- **A temporary file can be read back**: its path leads to what was written. -/
theorem readText_createTemporary {fs fs' : FileSystem} {name text : String} {file : TemporaryFile}
    (hname : IsName name) (h : fs.createTemporary name text = .ok (fs', file)) :
    fs'.readText file.path = .ok text := by
  obtain ⟨hroot, hnul, hsize, n, hn, -, rfl, rfl⟩ := createTemporary_eq_ok h
  generalize hfs' : FileSystem.mk _ _ = fs'
  -- The two new entries are deeper than `/tmp`, and each of them counts at its own location.
  have hroot' : fs'.entryAt? ["tmp"] = some .directory := by
    rw [← hroot, ← hfs', entryAt?, entryAt?]
    simp [List.lookup_cons]
  have hdirectory : fs'.entryAt? ["tmp", temporaryName n] = some .directory := by
    rw [← hfs', entryAt?]
    simp [List.lookup_cons]
  have hfile : fs'.entryAt? ["tmp", temporaryName n, name] = some (.file (.text text)) := by
    rw [← hfs', entryAt?]
    simp
  rw [readText, read, look, locate_temporaryPath hroot' hdirectory hn hname hnul hsize]
  simp only [bind, Except.bind, hfile]

end FileSystem

end LintHost
