import LintHost.Config.Resolve
import LintHost.Proofs.Path.Enclosing

/-!
# The cache directory of a project

Projects that share a directory for their caches must not share a cache, since what one of them has
checked is wrong for the other. So below an absolute directory each project gets one directory of its
own, with the base name of the project, a hyphen and the digest of its whole path.

The base name is whatever the project is called, and it may itself end in a hyphen and a digest. The
digest can be told from it nonetheless, because it always has the same length
(`LintHost.Digest.length_ofText`); so equal names have equal digests
(`LintHost.digest_eq_of_cacheSubdirectory_eq`), and where the digests of two paths do not collide the
names differ. A name with a hyphen is one step down from wherever it is put
(`LintHost.isName_cacheSubdirectory`), so the cache is directly below the directory that was set,
whatever the project is called (`LintHost.cacheDirectory_of_project`).
-/

namespace LintHost

/-! ### The bytes of a text -/

/-- A text can be told from its bytes. -/
theorem Text.encode8_injective : Function.Injective encode8 := by
  intro cs ds h
  have hbytes : cs.utf8Encode = ds.utf8Encode := by
    rw [List.utf8Encode, List.utf8Encode]
    exact congrArg List.toByteArray h
  exact String.ofList_injective (String.toByteArray_inj.mp hbytes)

namespace Digest

/-! ### What a digest looks like -/

/-- A digit in base sixteen, where letters are in lower case. -/
def IsHexDigit (c : Char) : Prop :=
  ('0' ≤ c ∧ c ≤ '9') ∨ ('a' ≤ c ∧ c ≤ 'f')

theorem isHexDigit_digitChar {n : Nat} (h : n < 16) : IsHexDigit (Nat.digitChar n) := by
  have hall : ∀ n < 16, ('0' ≤ Nat.digitChar n ∧ Nat.digitChar n ≤ '9') ∨
      ('a' ≤ Nat.digitChar n ∧ Nat.digitChar n ≤ 'f') := by
    decide
  exact hall n h

theorem digitChar_inj {m n : Nat} (hm : m < 16) (hn : n < 16)
    (h : Nat.digitChar m = Nat.digitChar n) : m = n := by
  have hall : ∀ m < 16, ∀ n < 16, Nat.digitChar m = Nat.digitChar n → m = n := by decide
  exact hall m hm n hn h

theorem hex_cons (b : UInt8) (bytes : List UInt8) :
    hex (b :: bytes) = Nat.digitChar (b.toNat / 16) :: Nat.digitChar (b.toNat % 16) :: hex bytes :=
  rfl

/-- The two halves of a byte. -/
theorem halves_lt (b : UInt8) : b.toNat / 16 < 16 ∧ b.toNat % 16 < 16 := by
  have hb := b.toNat_lt
  omega

theorem length_hex (bytes : List UInt8) : (hex bytes).length = 2 * bytes.length := by
  induction bytes with
  | nil => rfl
  | cons b bytes ih =>
    rw [hex_cons, List.length_cons, List.length_cons, ih, List.length_cons]
    omega

theorem isHexDigit_of_mem_hex {bytes : List UInt8} {c : Char} (h : c ∈ hex bytes) :
    IsHexDigit c := by
  obtain ⟨b, -, hc⟩ := List.mem_flatMap.mp h
  obtain ⟨hhigh, hlow⟩ := halves_lt b
  obtain rfl | rfl : c = Nat.digitChar (b.toNat / 16) ∨ c = Nat.digitChar (b.toNat % 16) := by
    simpa using hc
  · exact isHexDigit_digitChar hhigh
  · exact isHexDigit_digitChar hlow

/-- Bytes can be told from their digits. -/
theorem hex_injective : Function.Injective hex := by
  intro xs ys h
  induction xs generalizing ys with
  | nil =>
    cases ys with
    | nil => rfl
    | cons y ys => simp [hex] at h
  | cons x xs ih =>
    cases ys with
    | nil => simp [hex] at h
    | cons y ys =>
      rw [hex_cons, hex_cons] at h
      obtain ⟨hhigh, h⟩ := List.cons.inj h
      obtain ⟨hlow, h⟩ := List.cons.inj h
      have hx := halves_lt x
      have hy := halves_lt y
      have hhigh := digitChar_inj hx.1 hy.1 hhigh
      have hlow := digitChar_inj hx.2 hy.2 hlow
      have hbyte : x.toNat = y.toNat := by omega
      rw [UInt8.toNat_inj.mp hbyte, ih h]

theorem length_md5 (message : List UInt8) : (md5 message).length = 16 := by
  simp [md5, littleEndian]

/-- **A digest is written with thirty-two digits**, whatever it is the digest of. -/
theorem length_ofText (text : List Char) : (ofText text).length = 32 := by
  rw [ofText, length_hex, length_md5]

end Digest

/-! ### The name -/

theorem toList_cacheSubdirectory (directory : Path) :
    (cacheSubdirectory directory).toList =
      (directory.fileName?.getD "").toList ++ '-' :: Digest.ofText directory.chars := by
  simp [cacheSubdirectory]

/-- The name of the cache directory leads one step down. -/
theorem isName_cacheSubdirectory (directory : Path) :
    FileSystem.IsName (cacheSubdirectory directory) := by
  have hhyphen : '-' ∈ (cacheSubdirectory directory).toList := by
    rw [toList_cacheSubdirectory]
    exact List.mem_append_right _ List.mem_cons_self
  refine ⟨fun hslash => ?_, ?_, fun hparent => ?_⟩
  · -- A slash could only come from the base name, which is a component, or from the digits.
    rw [toList_cacheSubdirectory, List.mem_append, List.mem_cons] at hslash
    rcases hslash with hbase | hhyphen | hdigit
    · cases hname : directory.fileName? with
      | none => simp [hname] at hbase
      | some name =>
        rw [hname, Option.getD_some] at hbase
        exact (FileSystem.isName_of_fileName? hname).no_slash hbase
    · exact absurd hhyphen (by decide)
    · exact absurd (Digest.isHexDigit_of_mem_hex hdigit) (by unfold Digest.IsHexDigit; decide)
  · rw [Path.isSilent, Bool.or_eq_false_iff, beq_eq_false_iff_ne, beq_eq_false_iff_ne]
    constructor <;> intro heq <;> rw [heq] at hhyphen <;> simp at hhyphen
  · rw [hparent] at hhyphen
    simp at hhyphen

/-- **Equal names have equal digests**, since what stands after the base name always has the same
length. -/
theorem digest_eq_of_cacheSubdirectory_eq {directory directory' : Path}
    (h : cacheSubdirectory directory = cacheSubdirectory directory') :
    Digest.ofText directory.chars = Digest.ofText directory'.chars := by
  have hchars := congrArg String.toList h
  rw [toList_cacheSubdirectory, toList_cacheSubdirectory] at hchars
  have hlength : ('-' :: Digest.ofText directory.chars).length =
      ('-' :: Digest.ofText directory'.chars).length := by
    rw [List.length_cons, List.length_cons, Digest.length_ofText, Digest.length_ofText]
  exact (List.cons.inj (List.append_inj' hchars hlength).2).2

/-! ### The directory -/

/-- The digests of two paths do not collide: only one text has the digest of both. -/
def Digest.NoCollision (p q : Path) : Prop :=
  md5 (Text.encode8 p.chars) = md5 (Text.encode8 q.chars) →
    Text.encode8 p.chars = Text.encode8 q.chars

theorem cacheSubdirectory_ne {directory directory' : Path}
    (hdigest : Digest.NoCollision directory directory')
    (hne : directory.text ≠ directory'.text) :
    cacheSubdirectory directory ≠ cacheSubdirectory directory' := by
  intro heq
  have hbytes := hdigest (Digest.hex_injective (digest_eq_of_cacheSubdirectory_eq heq))
  exact hne (String.toList_inj.mp (Text.encode8_injective hbytes))

section Absolute

variable {config : EffectiveConfig} (h : (Path.mk config.cacheDirectory).isAbsolute = true)
include h

theorem cacheDirectory_of_isAbsolute (directory : Path) :
    cacheDirectory config directory =
      .ok ((Path.mk config.cacheDirectory).join ⟨cacheSubdirectory directory⟩) := by
  have hne : config.cacheDirectory ≠ "" := fun hempty => by
    rw [hempty] at h
    simp [Path.isAbsolute, Path.chars] at h
  rw [cacheDirectory, if_neg hne]
  exact if_pos h

theorem components_of_cacheDirectory {directory path : Path}
    (hpath : cacheDirectory config directory = .ok path) :
    path.components =
      (Path.mk config.cacheDirectory).components ++ [.name (cacheSubdirectory directory)] := by
  rw [cacheDirectory_of_isAbsolute h] at hpath
  rw [← Except.ok.inj hpath, Path.components_join_name _ (isName_cacheSubdirectory directory)]

end Absolute

/-- **The cache directory of a project.** Without a setting there is none; a relative setting is taken
as it is; and below an absolute one each project gets one directory, named by its base name and
thirty-two digits, so that it is never outside of what is set. Two projects with different paths have
directories with different names, as long as the digests of their paths do not collide. -/
theorem cacheDirectory_of_project (config : EffectiveConfig) :
    let template : Path := ⟨config.cacheDirectory⟩
    (template.text = "" → ∀ directory,
      cacheDirectory config directory = .error .emptyCacheDirectory) ∧
    (template.text ≠ "" → template.isAbsolute = false → ∀ directory, ∃ path,
      cacheDirectory config directory = .ok path ∧ path.text = template.text) ∧
    (template.isAbsolute = true → ∀ directory, ∃ path,
      cacheDirectory config directory = .ok path ∧
      (∃ digits : String, digits.length = 32 ∧ (∀ c ∈ digits.toList, Digest.IsHexDigit c) ∧
        path.components =
          template.components ++ [.name (directory.fileName?.getD "" ++ "-" ++ digits)]) ∧
      template.Encloses path ∧
      ∀ directory' path', directory.text ≠ directory'.text →
        Digest.NoCollision directory directory' → cacheDirectory config directory' = .ok path' →
        path.components.getLast? ≠ path'.components.getLast?) := by
  intro template
  refine ⟨fun hempty directory => if_pos hempty, fun hne hrelative directory => ?_,
    fun habsolute directory => ?_⟩
  · refine ⟨template, ?_, rfl⟩
    rw [cacheDirectory, if_neg hne]
    exact if_neg (by rw [hrelative]; decide)
  · have hpath := cacheDirectory_of_isAbsolute habsolute directory
    have hcomponents := components_of_cacheDirectory habsolute hpath
    refine ⟨_, hpath, ⟨String.ofList (Digest.ofText directory.chars), ?_, ?_, hcomponents⟩,
      Path.encloses_iff.mpr ⟨_, List.cons_ne_nil _ _, hcomponents⟩,
      fun directory' path' hne hdigest hpath' heq => ?_⟩
    · rw [String.length_ofList, Digest.length_ofText]
    · rw [String.toList_ofList]
      exact fun c => Digest.isHexDigit_of_mem_hex
    · rw [hcomponents, components_of_cacheDirectory habsolute hpath', List.getLast?_concat,
        List.getLast?_concat] at heq
      exact cacheSubdirectory_ne hdigest hne (Component.name.inj (Option.some.inj heq))

/-- The root of the file system has no base name, and another project is called a hyphen and the
digest of the root. -/
theorem cacheDirectory_of_project_like_digest :
    let config : EffectiveConfig :=
      { executable := "mypy", baseArguments := [], searchPath := "", incremental := true,
        cacheDirectory := "/c/..", configFile := none }
    let other : Path := ⟨"/w/-6666cd76f96956469e7be39d750cc7d9"⟩
    ∃ path path', cacheDirectory config ⟨"/"⟩ = .ok path ∧ cacheDirectory config other = .ok path' ∧
      (Path.mk "/").text ≠ other.text ∧ Digest.NoCollision ⟨"/"⟩ other ∧
      path = ⟨"/c/../-6666cd76f96956469e7be39d750cc7d9"⟩ ∧
      path.components.getLast? ≠ path'.components.getLast? := by
  intro config other
  have habsolute : (Path.mk config.cacheDirectory).isAbsolute = true := by decide
  have hne : (Path.mk "/").text ≠ other.text := by decide
  have hdigest : Digest.NoCollision ⟨"/"⟩ other := by
    unfold Digest.NoCollision
    decide +kernel
  obtain ⟨-, -, hproject⟩ := cacheDirectory_of_project config
  obtain ⟨path, hpath, -, -, hdiffers⟩ := hproject habsolute ⟨"/"⟩
  obtain ⟨path', hpath', -⟩ := hproject habsolute other
  have hname : cacheDirectory config ⟨"/"⟩ = .ok ⟨"/c/../-6666cd76f96956469e7be39d750cc7d9"⟩ := by
    rw [cacheDirectory_of_isAbsolute habsolute]
    exact congrArg Except.ok (by decide +kernel)
  exact ⟨path, path', hpath, hpath', hne, hdigest, Except.ok.inj (hpath.symm.trans hname),
    hdiffers other path' hne hdigest hpath'⟩

end LintHost
