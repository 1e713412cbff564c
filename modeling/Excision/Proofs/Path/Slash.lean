import Excision.Path.Slash
import Excision.Proofs.Text.Split
import Mathlib.Data.List.Forall2

/-!
# Slash paths taken apart

The text of a slash path is a directory, which is empty or ends with a slash, then the file name
and then any number of slashes, and it is so in one way only as far as the name goes
(`fileName?_eq_some_iff`); only a path of nothing but slashes has no file name
(`fileName?_eq_none_iff`).  The extension is what the name has after its last dot, where
something stands before that dot (`extension?_eq_some_iff`).  Two texts have the same slash path
exactly if they differ in nothing but which of the two separators they have
(`ofText_eq_iff`).
-/

namespace Excision

namespace SlashPath

/-- The text of the path is a directory, a name in it and a number of slashes. -/
structure MadeOf (path : SlashPath) (directory name : Text) (count : Nat) : Prop where
  /-- They make up the text. -/
  text_eq : path.text = directory ++ (name ++ List.replicate count '/')
  /-- The directory is empty or ends with a slash. -/
  directory_ends : directory = [] ∨ ['/'] <:+ directory
  /-- The name is not empty. -/
  name_ne_nil : name ≠ []
  /-- There is no slash in the name. -/
  notMem_name : '/' ∉ name

/-- The path is made with a name that has a stem and an extension. -/
structure MadeWith (path : SlashPath) (directory stem extension : Text) (count : Nat) :
    Prop where
  /-- They make up the path, with a dot between stem and extension. -/
  madeOf : path.MadeOf directory (stem ++ '.' :: extension) count
  /-- The stem is not empty. -/
  stem_ne_nil : stem ≠ []
  /-- There is no dot in the extension. -/
  notMem_extension : '.' ∉ extension

variable {path : SlashPath} {name : Text}

/-! ### File names -/

/-- A path has no file name exactly if it is made of slashes alone. -/
theorem fileName?_eq_none_iff :
  path.fileName? = none ↔ ∀ c ∈ path.text, c = '/'
  := by
  have hempty : path.text.reverse.dropWhile (· == '/') = [] ↔ ∀ c ∈ path.text, c = '/' := by
    simp [List.dropWhile_eq_nil_iff]
  rw [← hempty]
  unfold fileName?
  cases hrest : path.text.reverse.dropWhile (· == '/') with
  | nil => simp
  | cons c rest =>
    -- What is left when the slashes are gone begins, from the back, with the name.
    have hhead := Text.head_dropWhile (· == '/') path.text.reverse
    rw [hrest] at hhead
    have hc : c ≠ '/' := by simpa using hhead c rfl
    simp [hc]

theorem MadeOf.fileName?_eq {directory : Text} {count : Nat}
    (h : path.MadeOf directory name count) :
  path.fileName? = some name
  := by
  have hreverse : path.text.reverse
      = List.replicate count '/' ++ (name.reverse ++ directory.reverse) := by
    simp [h.text_eq]
  -- From the back the name is met at the first character that is no slash.
  have hslashes : ∀ c ∈ List.replicate count '/', (c == '/') = true := by simp
  have hlast : ∀ c ∈ (name.reverse ++ directory.reverse).head?, (c == '/') = false := by
    intro c hc
    obtain ⟨last, front, hname⟩ : ∃ last front, name.reverse = last :: front := by
      apply List.exists_cons_of_ne_nil
      simpa using h.name_ne_nil
    obtain rfl : last = c := by simpa [hname] using hc
    have hmem : last ∈ name := by
      rw [← List.mem_reverse, hname]
      exact List.mem_cons_self
    rw [beq_eq_false_iff_ne]
    rintro rfl
    exact h.notMem_name hmem
  -- It goes on to the slash before it, or to the front.
  have hword : ∀ c ∈ name.reverse, (c != '/') = true := by
    intro c hc
    rw [bne_iff_ne]
    rintro rfl
    exact h.notMem_name (List.mem_reverse.mp hc)
  have hdirectory : ∀ c ∈ directory.reverse.head?, (c != '/') = false := by
    rcases h.directory_ends with rfl | ⟨front, rfl⟩
    · simp
    · simp
  unfold fileName?
  rw [hreverse, Text.dropWhile_append_of_head hslashes hlast,
    Text.takeWhile_append_of_head hword hdirectory, List.reverse_reverse]
  simp [h.name_ne_nil]

theorem exists_madeOf (h : path.fileName? = some name) :
  ∃ directory count, path.MadeOf directory name count
  := by
  obtain ⟨slashes, rest, htext, -, hrest, hslashes, -⟩ :=
    Text.exists_cut (· == '/') path.text.reverse
  obtain ⟨word, back, rfl, hword, -, hplain, hhead⟩ := Text.exists_cut (· != '/') rest
  unfold fileName? at h
  rw [hrest, hword] at h
  dsimp only at h
  split at h
  · contradiction
  next hne =>
  rw [Option.some.injEq] at h
  subst h
  have hreplicate : slashes = List.replicate slashes.length '/' :=
    List.eq_replicate_of_mem fun c hc => by simpa using hslashes c hc
  refine ⟨back.reverse, slashes.length, ?_, ?_, hne, ?_⟩
  · rw [hreplicate] at htext
    simpa using congrArg List.reverse htext
  · cases back with
    | nil => exact .inl rfl
    | cons c back =>
      have hc : c = '/' := by simpa using hhead c rfl
      exact .inr ⟨back.reverse, by simp [hc]⟩
  · intro hmem
    simpa using hplain '/' (List.mem_reverse.mp hmem)

/-- The file name is the one name with which the path can be made. -/
theorem fileName?_eq_some_iff :
  path.fileName? = some name ↔ ∃ directory count, path.MadeOf directory name count
  := by
  constructor
  · apply exists_madeOf
  · rintro ⟨directory, count, h⟩
    apply h.fileName?_eq

/-! ### Extensions -/

/-- The extension of a path is what its file name has after the last dot, where that is not the
first character. -/
theorem extension?_eq_some_iff {extension : Text} :
  path.extension? = some extension
    ↔ ∃ stem, path.fileName? = some (stem ++ '.' :: extension) ∧ stem ≠ [] ∧ '.' ∉ extension
  := by
  unfold extension?
  cases path.fileName? with
  | none => simp
  | some name =>
  simp only [Option.bind_eq_bind, Option.bind_some, Option.some.injEq]
  constructor
  · intro h
    obtain ⟨back, front, hname, hback, hfront, hplain, hhead⟩ :=
      Text.exists_cut (· != '.') name.reverse
    rw [hback, hfront] at h
    split at h
    · cases h
    · cases h
    next hnone hsingle =>
      rw [Option.some.injEq] at h
      subst h
      cases front with
      | nil => exact absurd rfl hnone
      | cons c front =>
        obtain rfl : c = '.' := by simpa using hhead c rfl
        refine ⟨front.reverse, ?_, ?_, ?_⟩
        · simpa using congrArg List.reverse hname
        · rw [Ne, List.reverse_eq_nil_iff]
          rintro rfl
          exact hsingle '.' rfl
        · intro hmem
          simpa using hplain '.' (List.mem_reverse.mp hmem)
  · rintro ⟨stem, rfl, hstem, hdot⟩
    have hreverse : (stem ++ '.' :: extension).reverse
        = extension.reverse ++ ('.' :: stem.reverse) := by simp
    have hback : ∀ c ∈ extension.reverse, (c != '.') = true := by
      intro c hc
      rw [bne_iff_ne]
      rintro rfl
      exact hdot (List.mem_reverse.mp hc)
    have hfront : ∀ c ∈ ('.' :: stem.reverse).head?, (c != '.') = false := by simp
    rw [hreverse, Text.dropWhile_append_of_head hback hfront,
      Text.takeWhile_append_of_head hback hfront, List.reverse_reverse]
    cases hstem' : stem.reverse with
    | nil => exact absurd (List.reverse_eq_nil_iff.mp hstem') hstem
    | cons c front => rfl

theorem MadeWith.extension?_eq {directory stem extension : Text} {count : Nat}
    (h : path.MadeWith directory stem extension count) :
  path.extension? = some extension
  := extension?_eq_some_iff.mpr ⟨stem, h.madeOf.fileName?_eq, h.stem_ne_nil, h.notMem_extension⟩

/-- Paths made with the same name have the same extension, or both have none. -/
theorem MadeOf.extension?_eq {other : SlashPath} {directory directory' : Text}
    {count count' : Nat} (h : path.MadeOf directory name count)
    (h' : other.MadeOf directory' name count') :
  path.extension? = other.extension?
  := by
  unfold extension?
  rw [h.fileName?_eq, h'.fileName?_eq]

/-! ### Backslashes -/

theorem text_ofText_append (front back : Text) :
  (ofText (front ++ back)).text = (ofText front).text ++ (ofText back).text
  := List.map_append

theorem text_ofText_of_notMem {text : Text} (h : '\\' ∉ text) :
  (ofText text).text = text
  := by
  have hmap : text.map (fun c => if c = '\\' then '/' else c) = text.map id := by
    apply List.map_congr_left
    intro c hc
    apply if_neg
    rintro rfl
    apply h hc
  exact hmap.trans (List.map_id text)

theorem notMem_ofText (text : Text) :
  '\\' ∉ (ofText text).text
  := by
  intro hmem
  obtain ⟨c, -, hc⟩ := List.mem_map.mp hmem
  split at hc
  · contradiction
  · contradiction

/-- The path of a path is that path. -/
theorem ofText_text_ofText (text : Text) :
  ofText (ofText text).text = ofText text
  := by
  have htext := text_ofText_of_notMem (notMem_ofText text)
  exact congrArg mk htext

/-- The characters are the same, or both stand between the parts of a path. -/
def SameUpToSeparator (c d : Char) : Prop :=
  c = d ∨ (c ∈ ['/', '\\'] ∧ d ∈ ['/', '\\'])

/-- Two texts have the same path exactly if they differ in nothing but their separators. -/
theorem ofText_eq_iff {text other : Text} :
  ofText text = ofText other ↔ List.Forall₂ SameUpToSeparator text other
  := by
  have hchar (c d : Char) :
      (if c = '\\' then '/' else c) = (if d = '\\' then '/' else d) ↔ SameUpToSeparator c d
    := by
    unfold SameUpToSeparator
    by_cases hc : c = '\\'
    · by_cases hd : d = '\\'
      · simp [hc, hd]
      · simp [hc, hd, eq_comm]
    · by_cases hd : d = '\\'
      · simp [hc, hd]
      · simp only [List.mem_cons, List.not_mem_nil, or_false, if_false, hc, hd]
        constructor
        · exact .inl
        · rintro (rfl | ⟨rfl, rfl⟩)
          · rfl
          · rfl
  unfold ofText
  rw [SlashPath.mk.injEq, ← List.forall₂_eq_eq_eq, List.forall₂_map_left_iff,
    List.forall₂_map_right_iff]
  simp only [hchar]

end SlashPath

end Excision
