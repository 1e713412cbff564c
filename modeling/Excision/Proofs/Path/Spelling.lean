import Excision.Proofs.Path.Host
import Excision.Proofs.Path.Slash
import Mathlib.Tactic.ByContra
import Mathlib.Tactic.Push

/-!
# Spellings of paths

A path can be written in several ways: empty parts and single dots may stand between its
names, and a slash path turns backslashes into slashes.  What the parent of a path and a path
inside a directory are, up to parts that name nothing (`names_parent?`, `splitAt_join_part`),
and which parts a slash path has (`SlashPath.parts_eq_flatMap`).  Where the last name has no
backslash, it makes no difference whether the parent is taken before or after the
backslashes are turned (`SlashPath.alike_join_parent?`).
-/

namespace Excision

namespace HostPath

/-! ### Names among the parts -/

/-- The parts that name something. -/
def names (parts : List Text) : List Text := parts.filter fun part => !isVoidPart part

@[simp] theorem names_append (front back : List Text) :
  names (front ++ back) = names front ++ names back
  := List.filter_append front back

theorem names_eq_nil_iff {parts : List Text} :
  names parts = [] ↔ ∀ part ∈ parts, isVoidPart part = true
  := by
  simp [names]

theorem names_reverse_dropWhile (parts : List Text) :
  names (parts.dropWhile isVoidPart).reverse = names parts.reverse
  := by
  conv =>
    rhs
    rw [← List.takeWhile_append_dropWhile (p := isVoidPart) (l := parts)]
  have hvoid : names (parts.takeWhile isVoidPart).reverse = [] := by
    rw [names_eq_nil_iff]
    intro part hpart
    apply List.mem_takeWhile_imp (List.mem_reverse.mp hpart)
  rw [List.reverse_append, names_append, hvoid, List.append_nil]

theorem names_splitAt_joinWith {parts : List Text} (h : ∀ part ∈ parts, '/' ∉ part) :
  names (Text.splitAt '/' (Text.joinWith '/' parts)) = names parts
  := by
  by_cases hparts : parts = []
  · subst hparts
    rfl
  · rw [Text.splitAt_joinWith hparts h]

/-- Two paths begin at the same place, have the same names before some last parts, and end in
the same last parts. -/
structure Alike (path other : Text) : Prop where
  /-- Both begin at the root or neither does. -/
  isAbsolute_eq : isAbsolute path = isAbsolute other
  /-- The parts differ in what names nothing and is not at the end. -/
  parts : ∃ front front' back, Text.splitAt '/' path = front ++ back
    ∧ Text.splitAt '/' other = front' ++ back ∧ names front = names front' ∧ back ≠ []

/-! ### Parents -/

section

variable {path parent name : Text} {front blanks : List Text}

theorem isAbsolute_eq_of_parent? (h : parent? path = some parent) :
  isAbsolute parent = isAbsolute path
  := by
  by_cases hnil : parent = []
  · subst hnil
    cases path with
    | nil => rfl
    | cons c path =>
      -- The parent of an absolute path begins with the root.
      by_cases hc : c = '/'
      · subst hc
        unfold parent? at h
        split at h
        · contradiction
        · simp [anchor] at h
      · simp [isAbsolute, Text.startsWith, List.isPrefixOf, Ne.symm hc]
  · rcases isHead_of_parent? h with rfl | ⟨rfl, habsolute⟩ | ⟨rest, rfl⟩
    · contradiction
    · rw [habsolute]
      rfl
    · rw [isAbsolute_append hnil]

/-- A path with a name has a parent. -/
theorem exists_parent? (hpath : Text.splitAt '/' path = front ++ name :: blanks)
    (hblanks : ∀ part ∈ blanks, part = []) (hvoid : isVoidPart name = false) :
  ∃ parent, parent? path = some parent
  := by
  obtain ⟨head, head', middle, -, hparts, -, -⟩ := backParts_of_splitAt hpath hblanks hvoid
  unfold parent?
  rw [hparts]
  exact ⟨_, rfl⟩

/-- The parent has the names that stand before the last. -/
theorem names_parent? (hpath : Text.splitAt '/' path = front ++ name :: blanks)
    (hblanks : ∀ part ∈ blanks, part = []) (hvoid : isVoidPart name = false)
    (h : parent? path = some parent) :
  names (Text.splitAt '/' parent) = names front
  := by
  obtain ⟨head, head', middle, rfl, hparts, hhead, hhead'⟩ :=
    backParts_of_splitAt hpath hblanks hvoid
  have hhead_isHead := isHead_of_parent? h
  unfold parent? at h
  rw [hparts] at h
  simp only [Option.some.injEq] at h
  -- Behind the anchor the parent has the names of the body.
  generalize hbody : Text.joinWith '/' ((head' ++ middle).reverse.dropWhile isVoidPart).reverse
    = body at h
  have hmem : ∀ part ∈ ((head' ++ middle).reverse.dropWhile isVoidPart).reverse, '/' ∉ part := by
    intro part hpart
    have hsuffix := List.dropWhile_suffix (l := (head' ++ middle).reverse) isVoidPart
    have hback := hsuffix.mem (List.mem_reverse.mp hpart)
    have hmem : part ∈ backParts path := by
      rw [hparts]
      apply List.mem_cons_of_mem _ hback
    apply Text.notMem_of_mem_splitAt (List.mem_reverse.mp ((backParts_suffix path).mem hmem))
  have hnames : names (Text.splitAt '/' body) = names (head ++ middle) := by
    rw [← hbody, names_splitAt_joinWith hmem, names_reverse_dropWhile, List.reverse_reverse,
      names_append, names_append, names_eq_nil_iff.mpr hhead, names_eq_nil_iff.mpr hhead']
  rw [← hnames, ← h]
  unfold anchor at h ⊢
  split
  · rfl
  next =>
    have hnone : backParts ['.'] = [] := rfl
    rw [hnone] at hparts
    contradiction
  next rest =>
    -- After a dot the parent ends or goes on with a slash, since the path does.
    subst h
    cases body with
    | nil => rfl
    | cons c body =>
      rcases hhead_isHead with h | ⟨h, -⟩ | ⟨rest', h⟩
      · contradiction
      · simp at h
      · simp only [List.cons_append, List.nil_append, List.cons.injEq, true_and] at h
        obtain ⟨rfl, -⟩ := h
        rfl
  · rfl

/-- A path without a parent directory in its text is nothing but its last name. -/
theorem front_eq_nil_of_parent? (hpath : Text.splitAt '/' path = front ++ name :: blanks)
    (hblanks : ∀ part ∈ blanks, part = []) (hvoid : isVoidPart name = false)
    (h : parent? path = some []) :
  front = []
  := by
  have hnames := names_parent? hpath hblanks hvoid h
  cases front with
  | nil => rfl
  | cons part front =>
    -- The first part would be a name of the parent, or make the anchor of the path.
    have hpart : isVoidPart part = true := by
      apply names_eq_nil_iff.mp hnames.symm
      apply List.mem_cons_self
    have hhead : path = part ++ '/' :: Text.joinWith '/' (front ++ name :: blanks) := by
      rw [← Text.joinWith_splitAt '/' path, hpath]
      have hback : front ++ name :: blanks ≠ [] := by simp
      apply Text.joinWith_append (List.cons_ne_nil part []) hback
    obtain ⟨head, head', middle, -, hparts, -, -⟩ := backParts_of_splitAt hpath hblanks hvoid
    unfold parent? at h
    rw [hparts] at h
    simp only [isVoidPart, Bool.or_eq_true, beq_iff_eq] at hpart
    rcases hpart with rfl | rfl
    · subst hhead
      simp [anchor] at h
    · subst hhead
      simp [anchor] at h

end

/-! ### Paths inside a directory -/

theorem isAbsolute_join {directory part : Text} (h : isAbsolute part = false) :
  isAbsolute (join directory part) = isAbsolute directory
  := by
  unfold join
  rw [if_neg (by simp [h])]
  by_cases hnil : directory = []
  · subst hnil
    apply h
  · split
    · apply isAbsolute_append hnil
    · apply isAbsolute_append hnil

/-- A path inside a directory has the names of the directory before its own parts. -/
theorem splitAt_join_part (directory : Text) {part : Text} (h : isAbsolute part = false) :
  ∃ front, Text.splitAt '/' (join directory part) = front ++ Text.splitAt '/' part
    ∧ names front = names (Text.splitAt '/' directory)
  := by
  unfold join
  rw [if_neg (by simp [h])]
  split
  next hends =>
    rw [Bool.or_eq_true, decide_eq_true_eq, Text.endsWith_iff] at hends
    rcases hends with rfl | ⟨front, rfl⟩
    · exact ⟨[], rfl, rfl⟩
    · refine ⟨Text.splitAt '/' front, ?_, ?_⟩
      · rw [List.append_assoc, List.singleton_append, Text.splitAt_append_cons]
      · rw [Text.splitAt_append_cons, names_append]
        exact (List.append_nil _).symm
  · exact ⟨Text.splitAt '/' directory, Text.splitAt_append_cons '/' directory part, rfl⟩

/-! ### Empty parts at the end -/

theorem eq_nil_of_mem_splitAt {slashes part : Text} (hslashes : ∀ c ∈ slashes, c = '/')
    (hpart : part ∈ Text.splitAt '/' slashes) :
  part = []
  := by
  induction slashes with
  | nil => simpa [Text.splitAt] using hpart
  | cons c slashes ih =>
    rw [List.forall_mem_cons] at hslashes
    rw [hslashes.1, Text.splitAt, if_pos rfl] at hpart
    rcases List.mem_cons.mp hpart with rfl | hpart
    · rfl
    · apply ih hslashes.2 hpart

/-- Slashes after a part make empty parts. -/
theorem exists_blanks_of_slashes {word slashes : Text} (hword : '/' ∉ word)
    (hslashes : ∀ c ∈ slashes, c = '/') :
  ∃ blanks, Text.splitAt '/' (word ++ slashes) = word :: blanks ∧ ∀ part ∈ blanks, part = []
  := by
  cases slashes with
  | nil => exact ⟨[], by rw [List.append_nil, Text.splitAt_of_notMem hword], by simp⟩
  | cons c slashes =>
    rw [List.forall_mem_cons] at hslashes
    refine ⟨Text.splitAt '/' slashes, ?_, fun part => eq_nil_of_mem_splitAt hslashes.2⟩
    rw [hslashes.1, Text.splitAt_append_cons, Text.splitAt_of_notMem hword]
    rfl

/-- Unless all parts are empty, there is a last one that is not. -/
theorem exists_last_part {parts : List Text} (h : ∃ part ∈ parts, part ≠ []) :
  ∃ front name blanks, parts = front ++ name :: blanks ∧ name ≠ []
    ∧ ∀ part ∈ blanks, part = []
  := by
  induction parts with
  | nil => simp at h
  | cons part parts ih =>
    by_cases hparts : ∃ part ∈ parts, part ≠ []
    · obtain ⟨front, name, blanks, rfl, hname, hblanks⟩ := ih hparts
      exact ⟨part :: front, name, blanks, rfl, hname, hblanks⟩
    · push Not at hparts
      refine ⟨[], part, parts, rfl, ?_, hparts⟩
      rintro rfl
      obtain ⟨other, hother, hne⟩ := h
      rcases List.mem_cons.mp hother with rfl | hother
      · contradiction
      · exact hne (hparts other hother)

/-- There is but one last part that is not empty. -/
theorem last_part_unique {front front' blanks blanks' : List Text} {name name' : Text}
    (h : front ++ name :: blanks = front' ++ name' :: blanks') (hname : name ≠ [])
    (hname' : name' ≠ []) (hblanks : ∀ part ∈ blanks, part = [])
    (hblanks' : ∀ part ∈ blanks', part = []) :
  name = name'
  := by
  rcases List.append_eq_append_iff.mp h with ⟨middle, -, hrest⟩ | ⟨middle, -, hrest⟩
  · cases middle with
    | nil => exact (List.cons.inj hrest).1
    | cons part middle =>
      rw [List.cons_append, List.cons.injEq] at hrest
      exact absurd (hblanks name' (by simp [hrest.2])) hname'
  · cases middle with
    | nil => exact (List.cons.inj hrest).1.symm
    | cons part middle =>
      rw [List.cons_append, List.cons.injEq] at hrest
      exact absurd (hblanks' name (by simp [hrest.2])) hname

end HostPath

/-! ### Slash paths -/

namespace SlashPath

open HostPath

/-- The parts of the slash path of a text. -/
def parts (text : Text) : List Text := Text.splitAt '/' (ofText text).text

/-- The parts of a slash path are those of the text, taken apart at the backslashes. -/
theorem parts_eq_flatMap (text : Text) :
  parts text = (Text.splitAt '/' text).flatMap parts
  := by
  induction text with
  | nil => rfl
  | cons c rest ih =>
    have hcons (text : Text) : parts (c :: text)
        = Text.splitAt '/' ((if c = '\\' then '/' else c) :: (ofText text).text) := rfl
    by_cases hslash : c = '/'
    · subst hslash
      rw [hcons, if_neg (by decide), Text.splitAt, if_pos rfl, Text.splitAt, if_pos rfl,
        List.flatMap_cons, ← ih]
      rfl
    · have hne := Text.splitAt_ne_nil '/' rest
      rw [Text.splitAt, if_neg hslash]
      cases hrest : Text.splitAt '/' rest with
      | nil => contradiction
      | cons head others =>
        rw [hrest, List.flatMap_cons] at ih
        rw [List.flatMap_cons, hcons, hcons]
        change Text.splitAt '/' (ofText rest).text = _ at ih
        by_cases hback : c = '\\'
        · rw [if_pos hback, Text.splitAt, if_pos rfl, Text.splitAt, if_pos rfl, ih]
          rfl
        · have hhead := Text.splitAt_ne_nil '/' (ofText head).text
          rw [if_neg hback, Text.splitAt, if_neg hslash, Text.splitAt, if_neg hslash, ih]
          unfold parts
          cases hparts : Text.splitAt '/' (ofText head).text with
          | nil => contradiction
          | cons first others => rfl

theorem parts_of_notMem {part : Text} (hslash : '/' ∉ part) (hback : '\\' ∉ part) :
  parts part = [part]
  := by
  unfold parts
  rw [text_ofText_of_notMem hback, Text.splitAt_of_notMem hslash]

theorem flatMap_parts_blanks {blanks : List Text} (h : ∀ part ∈ blanks, part = []) :
  blanks.flatMap parts = blanks
  := by
  induction blanks with
  | nil => rfl
  | cons part blanks ih =>
    rw [List.forall_mem_cons] at h
    rw [List.flatMap_cons, ih h.2, h.1]
    rfl

/-- Parts with the same names have them still when they are taken apart at the
backslashes. -/
theorem names_flatMap {front front' : List Text} (h : names front = names front') :
  names (front.flatMap parts) = names (front'.flatMap parts)
  := by
  have hfilter (front : List Text) :
      names (front.flatMap parts) = names ((names front).flatMap parts)
    := by
    induction front with
    | nil => rfl
    | cons part front ih =>
      rw [List.flatMap_cons, names_append, ih]
      cases hvoid : isVoidPart part with
      | false => simp [names, hvoid]
      | true =>
        simp only [isVoidPart, Bool.or_eq_true, beq_iff_eq] at hvoid
        rcases hvoid with rfl | rfl
        · rfl
        · rfl
  rw [hfilter front, hfilter front', h]

/-- The last name of a slash path is its last part that is not empty. -/
theorem exists_parts_of_fileName? {path : SlashPath} {name : Text}
    (h : path.fileName? = some name) :
  ∃ front blanks, Text.splitAt '/' path.text = front ++ name :: blanks
    ∧ ∀ part ∈ blanks, part = []
  := by
  obtain ⟨directory, count, hmade⟩ := exists_madeOf h
  have hslashes : ∀ c ∈ List.replicate count '/', c = '/' := fun _ => List.eq_of_mem_replicate
  obtain ⟨blanks, hparts, hblanks⟩ := exists_blanks_of_slashes hmade.notMem_name hslashes
  rw [hmade.text_eq]
  rcases hmade.directory_ends with rfl | ⟨front, rfl⟩
  · exact ⟨[], blanks, hparts, hblanks⟩
  · refine ⟨Text.splitAt '/' front, blanks, ?_, hblanks⟩
    rw [List.append_assoc, List.singleton_append, Text.splitAt_append_cons, hparts]

/-- Where the last name of a slash path names something, the text has it last as well, if
there is no backslash in the last name of the text. -/
theorem exists_parts_of_notMem {text name : Text} (hname : (ofText text).fileName? = some name)
    (hvoid : isVoidPart name = false)
    (hback : ∀ last, HostPath.fileName? text = some last → '\\' ∉ last) :
  ∃ front blanks, Text.splitAt '/' text = front ++ name :: blanks
    ∧ (∀ part ∈ blanks, part = []) ∧ '\\' ∉ name
  := by
  have hne : name ≠ [] := by
    rintro rfl
    contradiction
  obtain ⟨front, blanks, hparts, hblanks⟩ := exists_parts_of_fileName? hname
  replace hparts := (parts_eq_flatMap text).symm.trans hparts
  -- Some part of the text is not empty, or all parts of the slash path would be.
  have hexists : ∃ part ∈ Text.splitAt '/' text, part ≠ [] := by
    by_contra hempty
    push Not at hempty
    rw [flatMap_parts_blanks hempty] at hparts
    apply hne
    apply hempty
    simp [hparts]
  obtain ⟨front', last, blanks', hsplit, hlast, hblanks'⟩ := exists_last_part hexists
  have hplain : '\\' ∉ last := by
    by_cases hspecial : isVoidPart last = true ∨ last = ['.', '.']
    · simp only [isVoidPart, Bool.or_eq_true, beq_iff_eq, hlast, false_or] at hspecial
      rcases hspecial with rfl | rfl
      · decide
      · decide
    · push Not at hspecial
      apply hback
      apply fileName?_of_splitAt hsplit hblanks' (by simpa using hspecial.1) hspecial.2
  have hmem : last ∈ Text.splitAt '/' text := by simp [hsplit]
  have hslash : '/' ∉ last := Text.notMem_of_mem_splitAt hmem
  obtain rfl : last = name := by
    rw [hsplit, List.flatMap_append, List.flatMap_cons, parts_of_notMem hslash hplain,
      flatMap_parts_blanks hblanks', List.singleton_append] at hparts
    apply last_part_unique hparts hlast hne hblanks' hblanks
  exact ⟨front', blanks', hsplit, hblanks', hplain⟩

section

variable {path part parent parent' name : Text} {front blanks : List Text}

/-- The parts of a slash path before its last name, if that has no backslash. -/
theorem parts_of_splitAt (hpath : Text.splitAt '/' path = front ++ name :: blanks)
    (hblanks : ∀ part ∈ blanks, part = []) (hname : '\\' ∉ name) :
  parts path = front.flatMap parts ++ name :: blanks
  := by
  have hmem : name ∈ Text.splitAt '/' path := by simp [hpath]
  have hslash : '/' ∉ name := Text.notMem_of_mem_splitAt hmem
  rw [parts_eq_flatMap, hpath, List.flatMap_append, List.flatMap_cons,
    parts_of_notMem hslash hname, flatMap_parts_blanks hblanks]
  rfl

theorem isAbsolute_ofText_append {head : Text} (h : head ≠ []) (rest : Text) :
  isAbsolute (ofText (head ++ rest)).text = isAbsolute (ofText head).text
  := by
  rw [text_ofText_append]
  apply isAbsolute_append
  simpa [ofText] using h

/-- The parent begins at the root exactly if the path does, also when backslashes are
turned. -/
theorem isAbsolute_ofText_parent? (hpath : Text.splitAt '/' path = front ++ name :: blanks)
    (hblanks : ∀ part ∈ blanks, part = []) (hvoid : isVoidPart name = false)
    (hname : '\\' ∉ name) (hparent : parent? path = some parent) :
  isAbsolute (ofText parent).text = isAbsolute (ofText path).text
  := by
  by_cases hnil : parent = []
  · -- The path begins with its last name.
    subst hnil
    obtain rfl := front_eq_nil_of_parent? hpath hblanks hvoid hparent
    obtain ⟨rest, hrest⟩ : ∃ rest, path = name ++ rest := by
      rw [← Text.joinWith_splitAt '/' path, hpath]
      cases blanks with
      | nil => exact ⟨[], (List.append_nil name).symm⟩
      | cons blank blanks => exact ⟨'/' :: Text.joinWith '/' (blank :: blanks), rfl⟩
    have hne : name ≠ [] := by
      rintro rfl
      contradiction
    have hmem : name ∈ Text.splitAt '/' path := by simp [hpath]
    have hslash : '/' ∉ name := Text.notMem_of_mem_splitAt hmem
    rw [hrest, isAbsolute_ofText_append hne, text_ofText_of_notMem hname,
      isAbsolute_of_notMem hslash]
    rfl
  · rcases isHead_of_parent? hparent with rfl | ⟨rfl, habsolute⟩ | ⟨rest, rfl⟩
    · contradiction
    · obtain ⟨rest, rfl⟩ := isAbsolute_eq_true_iff.mp habsolute
      rfl
    · rw [isAbsolute_ofText_append hnil]

theorem isAbsolute_of_ofText {text : Text} (h : isAbsolute (ofText text).text = false) :
  isAbsolute text = false
  := by
  rw [← Bool.not_eq_true, isAbsolute_eq_true_iff]
  rintro ⟨rest, rfl⟩
  contradiction

/-- A text that begins with no backslash is absolute if its slash path is. -/
theorem isAbsolute_of_head {text : Text} (h : isAbsolute (ofText text).text = true)
    (hhead : text.head? ≠ some '\\') :
  isAbsolute text = true
  := by
  cases text with
  | nil => contradiction
  | cons c text =>
    have hc : c ≠ '\\' := by
      rintro rfl
      contradiction
    have hcons : (ofText (c :: text)).text = c :: (ofText text).text := by
      rw [ofText, List.map_cons, if_neg hc, ofText]
    rw [hcons, isAbsolute_eq_true_iff] at h
    obtain ⟨rest, hrest⟩ := h
    rw [(List.cons.inj hrest).1, isAbsolute_eq_true_iff]
    exact ⟨text, rfl⟩

theorem isAbsolute_ofText_join {directory : Text} (hpart : isAbsolute (ofText part).text = false) :
  isAbsolute (ofText (join directory part)).text = isAbsolute (ofText directory).text
  := by
  unfold join
  rw [if_neg (by simp [isAbsolute_of_ofText hpart])]
  by_cases hnil : directory = []
  · subst hnil
    exact hpart
  · split
    · apply isAbsolute_ofText_append hnil
    · apply isAbsolute_ofText_append hnil

/-- It makes no difference whether the parent is taken before or after the backslashes are
turned, where the last name has none. -/
theorem alike_join_parent? (hpath : Text.splitAt '/' path = front ++ name :: blanks)
    (hblanks : ∀ part ∈ blanks, part = []) (hvoid : isVoidPart name = false)
    (hname : '\\' ∉ name) (hpart : isAbsolute (ofText part).text = false)
    (hparent : parent? path = some parent) (hparent' : parent? (ofText path).text = some parent') :
  Alike (ofText (join parent part)).text (join parent' (ofText part).text)
  where
  isAbsolute_eq := by
    rw [isAbsolute_ofText_join hpart, isAbsolute_join hpart,
      isAbsolute_ofText_parent? hpath hblanks hvoid hname hparent,
      isAbsolute_eq_of_parent? hparent']
  parts := by
    have hrelative := isAbsolute_of_ofText hpart
    obtain ⟨inside, hinside, hinside_names⟩ := splitAt_join_part parent hrelative
    obtain ⟨inside', hinside', hinside_names'⟩ := splitAt_join_part parent' hpart
    refine ⟨inside.flatMap parts, inside', parts part, ?_, hinside', ?_, ?_⟩
    · change parts (join parent part) = _
      rw [parts_eq_flatMap, hinside, List.flatMap_append, ← parts_eq_flatMap]
    · have hfront := names_parent? hpath hblanks hvoid hparent
      have hfront' := names_parent? (parts_of_splitAt hpath hblanks hname) hblanks hvoid hparent'
      rw [hinside_names', hfront']
      apply names_flatMap
      rw [hinside_names, hfront]
    · apply Text.splitAt_ne_nil

end

end SlashPath

end Excision
