import Excision.Job.File
import Excision.Proofs.Path.Slash
import Excision.Proofs.Storage.Reading

/-!
# The format of a job file

The extension of a path alone decides in which format a job file is read.  Letter case does not
count, whatever letters outside ASCII become when they are made small (`HasSmallForm`), for none
of them becomes a letter of an extension (`HasSmallForm.eq_iff`).  A path with another extension
is refused without any request to the disk, and one with an extension of a format is read in
that format (`loadJob_eq_iff`).  So neither the directory, nor what stands before the
extension, nor letter case, nor the choice of separators matters (`loadJob_by_extension`).
-/

namespace Excision

namespace JobFormat

/-- The extensions of a format in small letters. -/
def extensions : JobFormat → List Text
  | toml => [['t', 'o', 'm', 'l']]
  | json => [['j', 's', 'o', 'n']]
  | yaml => [['y', 'a', 'm', 'l'], ['y', 'm', 'l']]

/-- The letters of the extensions. -/
def letters : Text := ['t', 'o', 'm', 'l', 'j', 's', 'n', 'y', 'a']

/-- The second text is the first in small letters, as far as extensions go: ASCII letters have
the usual small form, and another character has any that is not empty and has no letter of an
extension in it. -/
inductive HasSmallForm : Text → Text → Prop where
  | nil : HasSmallForm [] []
  | ascii {c : Char} {text small : Text} (hc : c.toNat < 128) (h : HasSmallForm text small) :
      HasSmallForm (c :: text) (c.toLower :: small)
  | other {c : Char} {form text small : Text} (hc : 128 ≤ c.toNat) (hne : form ≠ [])
      (hletters : ∀ d ∈ form, d ∉ letters) (h : HasSmallForm text small) :
      HasSmallForm (c :: text) (form ++ small)

/-! ### Small forms -/

theorem toNat_lt_of_mem_letters {c : Char} (h : c ∈ letters) :
  c.toNat < 128
  := by
  have hall : letters.all (·.toNat < 128) = true := by decide
  exact of_decide_eq_true (List.all_eq_true.mp hall c h)

theorem mem_letters_of_mem_extensions {format : JobFormat} {extension : Text}
    (h : extension ∈ format.extensions) :
  ∀ c ∈ extension, c ∈ letters
  := by
  have hall : format.extensions.all (·.all letters.contains) = true := by
    cases format with
    | toml => decide
    | json => decide
    | yaml => decide
  simp only [List.all_eq_true, List.contains_iff_mem] at hall
  exact hall extension h

theorem toLower_of_not_ascii {c : Char} (h : 128 ≤ c.toNat) :
  c.toLower = c
  := by
  unfold Char.toLower
  rw [dif_neg]
  rintro ⟨-, hle⟩
  have hnat : c.toNat ≤ 90 := UInt32.le_iff_toNat_le.mp hle
  omega

/-- Of small forms of a text none is a word of letters of extensions but the one that has the
ASCII letters alone made small. -/
theorem HasSmallForm.eq_iff {text small word : Text} (h : HasSmallForm text small)
    (hword : ∀ c ∈ word, c ∈ letters) :
  small = word ↔ text.lowerAscii = word
  := by
  induction h generalizing word with
  | nil => rfl
  | ascii hc h ih =>
    cases word with
    | nil => simp [Text.lowerAscii]
    | cons d word =>
      rw [List.forall_mem_cons] at hword
      have hrest := ih hword.2
      simp only [Text.lowerAscii, List.map_cons, List.cons.injEq] at hrest ⊢
      rw [hrest]
  | @other c form text small hc hne hletters h ih =>
    cases word with
    | nil => simp [Text.lowerAscii, hne]
    | cons d word =>
      rw [List.forall_mem_cons] at hword
      -- Neither text begins with a letter of an extension.
      constructor
      · intro hsmall
        cases form with
        | nil => contradiction
        | cons e form =>
          obtain rfl : e = d := (List.cons.inj hsmall).1
          exact absurd hword.1 (hletters e List.mem_cons_self)
      · intro hlower
        rw [Text.lowerAscii, List.map_cons, toLower_of_not_ascii hc, List.cons.injEq] at hlower
        have hascii := toNat_lt_of_mem_letters (hlower.1 ▸ hword.1)
        omega

/-- Making the ASCII letters small and leaving the other characters as they are gives a small
form. -/
theorem hasSmallForm_lowerAscii (text : Text) :
  HasSmallForm text (Text.lowerAscii text)
  := by
  induction text with
  | nil => exact .nil
  | cons c text ih =>
    by_cases hc : c.toNat < 128
    · exact .ascii hc ih
    · have hnot : 128 ≤ c.toNat := Nat.le_of_not_lt hc
      have hother : HasSmallForm (c :: text) ([c] ++ Text.lowerAscii text) := by
        apply HasSmallForm.other hnot (List.cons_ne_nil c []) _ ih
        intro d hd hmem
        obtain rfl := List.mem_singleton.mp hd
        exact hc (toNat_lt_of_mem_letters hmem)
      rw [Text.lowerAscii, List.map_cons, toLower_of_not_ascii hnot]
      exact hother

/-! ### The format of an extension -/

theorem ofLowerExtension?_eq_some_iff {extension : Text} {format : JobFormat} :
  ofLowerExtension? extension = some format ↔ extension ∈ format.extensions
  := by
  unfold ofLowerExtension?
  cases format with
  | toml => grind [extensions]
  | json => grind [extensions]
  | yaml => grind [extensions]

/-- A format is that of an extension exactly if it has the small form of the extension. -/
theorem HasSmallForm.ofExtension?_eq_some_iff {extension small : Text}
    (h : HasSmallForm extension small) {format : JobFormat} :
  ofExtension? extension = some format ↔ small ∈ format.extensions
  := by
  unfold ofExtension?
  rw [ofLowerExtension?_eq_some_iff]
  constructor
  · intro hmem
    rwa [(h.eq_iff (mem_letters_of_mem_extensions hmem)).mpr rfl]
  · intro hmem
    rwa [(h.eq_iff (mem_letters_of_mem_extensions hmem)).mp rfl]

theorem HasSmallForm.ofExtension?_eq_none_iff {extension small : Text}
    (h : HasSmallForm extension small) :
  ofExtension? extension = none ↔ ∀ format : JobFormat, small ∉ format.extensions
  := by
  rw [Option.eq_none_iff_forall_ne_some]
  simp only [ne_eq, h.ofExtension?_eq_some_iff]

end JobFormat

namespace Storage

open JobFormat

/-- The job in the file of a path, which is read in this format whatever its extension is. -/
def loadJobAs (format : JobFormat) (path : SlashPath) : Attempt FileError Job := do
  let text ← readText path
  Attempt.report (.jobFileRead path format)
  match format.jobOfText? text with
  | some job => return job
  | none => throw (.notAJob format path)

variable {path : SlashPath} {format : JobFormat}

theorem loadJob_of_none (h : ofExtension? (extensionOf path) = none) :
  loadJob path = throw (.unsupportedFormat (extensionOf path))
  := by
  unfold loadJob
  dsimp only
  rw [h]

theorem loadJob_of_some (h : ofExtension? (extensionOf path) = some format) :
  loadJob path = loadJobAs format path
  := by
  unfold loadJob
  dsimp only
  rw [h]
  rfl

/-- The first report of a script for which every file that it reads is empty. -/
def firstReport? {α : Type} : Script α → Option Report
  | .done _ => none
  | .ask (.report report) _ => some report
  | .ask (.readBytes _) next => firstReport? (next (.ok (Text.toBytes [])))
  | .ask _ _ => none

theorem firstReport?_loadJobAs (format : JobFormat) (path : SlashPath) :
  firstReport? (loadJobAs format path).run = some (.jobFileRead path format)
  := by
  -- The reading comes first, and an empty file can be read as a text.
  change firstReport? (((Script.done _).bind (ExceptT.bindCont _)).bind _) = _
  simp only [Script.bind, ExceptT.bindCont, Text.ofBytes?_toBytes]
  rfl

/-- A job file is read in a format exactly if that is the format of the extension. -/
theorem loadJob_eq_iff :
  loadJob path = loadJobAs format path ↔ ofExtension? (extensionOf path) = some format
  := by
  constructor
  · intro h
    -- The formats are told apart by what the log tells.
    have hreport := congrArg (fun attempt => firstReport? attempt.run) h
    rw [firstReport?_loadJobAs] at hreport
    cases hformat : ofExtension? (extensionOf path) with
    | none =>
      rw [loadJob_of_none hformat] at hreport
      contradiction
    | some other =>
      rw [loadJob_of_some hformat, firstReport?_loadJobAs] at hreport
      cases hreport
      rfl
  · apply loadJob_of_some

/-- A job file that is read in some format is never refused for its extension. -/
theorem loadJobAs_ne_unsupported (session : Session) (extension : Text) :
  ((loadJobAs format path).exec session).1 ≠ .error (.unsupportedFormat extension)
  := by
  unfold loadJobAs
  rw [Attempt.exec_bind, exec_readText]
  cases session.disk.readBytes path.text with
  | error cause => simp
  | ok bytes =>
  dsimp only
  cases Text.ofBytes? bytes with
  | none => simp
  | some text =>
  dsimp only
  rw [Attempt.exec_bind, Attempt.exec_report]
  dsimp only
  cases format.jobOfText? text with
  | none => simp
  | some job => simp

/-- A job file is refused for its extension exactly if that is the extension of no format. -/
theorem loadJob_unsupported_iff {session : Session} {extension : Text} :
  ((loadJob path).exec session).1 = .error (.unsupportedFormat extension)
    ↔ extension = extensionOf path ∧ ofExtension? (extensionOf path) = none
  := by
  cases hformat : ofExtension? (extensionOf path) with
  | none =>
    rw [loadJob_of_none hformat, Attempt.exec_throw]
    simp [eq_comm]
  | some format =>
    rw [loadJob_of_some hformat]
    simp [loadJobAs_ne_unsupported]

/-- Job files whose extensions have a small form in common are read in the same format. -/
theorem loadJob_eq_iff_of_smallForm {other : SlashPath} {small : Text}
    (h : HasSmallForm (extensionOf path) small) (h' : HasSmallForm (extensionOf other) small)
    (format : JobFormat) :
  loadJob path = loadJobAs format path ↔ loadJob other = loadJobAs format other
  := by
  rw [loadJob_eq_iff, loadJob_eq_iff, h.ofExtension?_eq_some_iff, h'.ofExtension?_eq_some_iff]

/-- How a path falls apart, and what of it decides the format of a job file.  The path of a text
has no backslash and is its own path.  It has no file name exactly if it is made of slashes
alone, and otherwise the file name is the one name with which it is made; the extension is what
that name has after its last dot, with something before it.  A job file is refused for its
extension, without any request to the disk, exactly if the extension in small letters, or the
empty text where there is none, is that of no format, and is read in a format exactly if it is
one of that format.  The format stays the same whatever the directory is, and, where there is an
extension, whatever stands before it and however it is capitalized; and two texts that differ in
their separators alone have the same path. -/
theorem loadJob_by_extension (text : Text) :
  let path := SlashPath.ofText text
  ('\\' ∉ path.text ∧ SlashPath.ofText path.text = path)
  ∧ (path.fileName? = none ↔ ∀ c ∈ path.text, c = '/')
  ∧ (∀ name, path.fileName? = some name
      ↔ ∃ directory count, path.MadeOf directory name count)
  ∧ (∀ extension, path.extension? = some extension
      ↔ ∃ stem, path.fileName? = some (stem ++ '.' :: extension) ∧ stem ≠ []
        ∧ '.' ∉ extension)
  ∧ (∀ small, HasSmallForm (path.extension?.getD []) small →
      (∀ session extension,
        ((loadJob path).exec session).1 = .error (.unsupportedFormat extension)
          ↔ extension = path.extension?.getD [] ∧ ∀ format : JobFormat, small ∉ format.extensions)
      ∧ ((∀ format : JobFormat, small ∉ format.extensions) →
          loadJob path = throw (.unsupportedFormat (path.extension?.getD [])))
      ∧ ∀ format, loadJob path = loadJobAs format path ↔ small ∈ format.extensions)
  ∧ (∀ other directory directory' name count count', path.MadeOf directory name count →
      (SlashPath.ofText other).MadeOf directory' name count' →
      ∀ format, loadJob path = loadJobAs format path
        ↔ loadJob (.ofText other) = loadJobAs format (.ofText other))
  ∧ (∀ other directory directory' stem stem' extension extension' small count count',
      path.MadeWith directory stem extension count →
      (SlashPath.ofText other).MadeWith directory' stem' extension' count' →
      HasSmallForm extension small → HasSmallForm extension' small →
      ∀ format, loadJob path = loadJobAs format path
        ↔ loadJob (.ofText other) = loadJobAs format (.ofText other))
  ∧ ∀ other, List.Forall₂ SlashPath.SameUpToSeparator text other →
      SlashPath.ofText other = path
  := by
  intro path
  refine ⟨⟨SlashPath.notMem_ofText text, SlashPath.ofText_text_ofText text⟩,
    SlashPath.fileName?_eq_none_iff, fun name => SlashPath.fileName?_eq_some_iff,
    fun extension => SlashPath.extension?_eq_some_iff, ?_, ?_, ?_, ?_⟩
  · intro small hsmall
    refine ⟨?_, ?_, ?_⟩
    · intro session extension
      rw [loadJob_unsupported_iff, extensionOf, hsmall.ofExtension?_eq_none_iff]
    · intro hnone
      apply loadJob_of_none (hsmall.ofExtension?_eq_none_iff.mpr hnone)
    · intro format
      rw [loadJob_eq_iff]
      apply hsmall.ofExtension?_eq_some_iff
  · intro other directory directory' name count count' h h' format
    rw [loadJob_eq_iff, loadJob_eq_iff, extensionOf, extensionOf, h.extension?_eq h']
  · intro other directory directory' stem stem' extension extension' small count count' h h'
      hsmall hsmall'
    apply loadJob_eq_iff_of_smallForm
    · rw [extensionOf, h.extension?_eq]
      exact hsmall
    · rw [extensionOf, h'.extension?_eq]
      exact hsmall'
  · intro other hother
    exact (SlashPath.ofText_eq_iff.mpr hother).symm

/-- The file `j\c.v.TOML/` is read as `j/c.v.TOML/` and in the same format as `x.tOml`, whatever
the disk is, and `c.v` is refused. -/
theorem loadJob_by_extension_sample :
  let text : Text := ['j', '\\', 'c', '.', 'v', '.', 'T', 'O', 'M', 'L', '/']
  let path := SlashPath.ofText text
  path.MadeWith ['j', '/'] ['c', '.', 'v'] ['T', 'O', 'M', 'L'] 1
    ∧ path.fileName? = some ['c', '.', 'v', '.', 'T', 'O', 'M', 'L']
    ∧ HasSmallForm ['T', 'O', 'M', 'L'] ['t', 'o', 'm', 'l']
    ∧ HasSmallForm ['t', 'O', 'm', 'l'] ['t', 'o', 'm', 'l']
    ∧ loadJob path = loadJobAs .toml path
    ∧ loadJob ⟨['x', '.', 't', 'O', 'm', 'l']⟩ = loadJobAs .toml ⟨['x', '.', 't', 'O', 'm', 'l']⟩
    ∧ loadJob ⟨['c', '.', 'v']⟩ = throw (.unsupportedFormat ['v'])
    ∧ SlashPath.ofText ['j', '/', 'c', '.', 'v', '.', 'T', 'O', 'M', 'L', '\\'] = path
  := by
  intro text path
  have hmade : path.MadeWith ['j', '/'] ['c', '.', 'v'] ['T', 'O', 'M', 'L'] 1 :=
    ⟨⟨rfl, .inr (by decide), by decide, by decide⟩, by decide, by decide⟩
  have hother : (SlashPath.ofText ['x', '.', 't', 'O', 'm', 'l']).MadeWith [] ['x']
      ['t', 'O', 'm', 'l'] 0 :=
    ⟨⟨rfl, .inl rfl, by decide, by decide⟩, by decide, by decide⟩
  have hsmall : HasSmallForm ['T', 'O', 'M', 'L'] ['t', 'o', 'm', 'l'] :=
    hasSmallForm_lowerAscii _
  have hsmall' : HasSmallForm ['t', 'O', 'm', 'l'] ['t', 'o', 'm', 'l'] :=
    hasSmallForm_lowerAscii _
  obtain ⟨-, -, hname, -, hformat, -, halter, hseparators⟩ := loadJob_by_extension text
  obtain ⟨-, -, -, -, hrefused, -, -, -⟩ := loadJob_by_extension ['c', '.', 'v']
  have hload : loadJob path = loadJobAs .toml path :=
    ((hformat _ hsmall).2.2 .toml).mpr (by decide)
  refine ⟨hmade, (hname _).mpr ⟨_, _, hmade.madeOf⟩, hsmall, hsmall', hload, ?_, ?_, ?_⟩
  · apply (halter _ _ _ _ _ _ _ _ _ _ hmade hother hsmall hsmall' .toml).mp hload
  · apply (hrefused _ (hasSmallForm_lowerAscii _)).2.1
    intro format
    cases format with
    | toml => decide
    | json => decide
    | yaml => decide
  · apply hseparators
    simp [text, SlashPath.SameUpToSeparator]

end Storage

end Excision
