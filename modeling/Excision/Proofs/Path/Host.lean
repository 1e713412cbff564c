import Excision.Path.Host
import Excision.Proofs.Text.Split
import Mathlib.Tactic.Use

/-!
# Heads and last names of paths

What the parent and the last name of a path are in terms of its text.  The parent of a path
is one of its heads: the text before one of its slashes, the root, or nothing
(`isHead_of_mem_ancestors`).  A path made by putting a name in the place of the last one ends
with that name (`splitAt_withFileName`).
-/

namespace Excision

namespace HostPath

/-! ### Heads -/

/-- What a path begins with: nothing, the root if it is absolute, or the text before one of
its slashes. -/
def IsHead (head path : Text) : Prop :=
  head = [] ∨ (head = ['/'] ∧ isAbsolute path = true) ∨ ∃ rest, path = head ++ '/' :: rest

theorem isAbsolute_eq_true_iff {path : Text} :
  isAbsolute path = true ↔ ∃ rest, path = '/' :: rest
  := by
  rw [isAbsolute, Text.startsWith_iff]
  exact ⟨fun ⟨rest, h⟩ => ⟨rest, h.symm⟩, fun ⟨rest, h⟩ => ⟨rest, h.symm⟩⟩

theorem isAbsolute_of_notMem {name : Text} (h : '/' ∉ name) :
  isAbsolute name = false
  := by
  rw [← Bool.not_eq_true, isAbsolute_eq_true_iff]
  rintro ⟨rest, rfl⟩
  simp at h

theorem isAbsolute_append {head : Text} (h : head ≠ []) (rest : Text) :
  isAbsolute (head ++ rest) = isAbsolute head
  := by
  cases head with
  | nil => contradiction
  | cons c head => rfl

theorem IsHead.trans {head middle path : Text} (h : IsHead head middle)
    (h' : IsHead middle path) :
  IsHead head path
  := by
  rcases h with rfl | ⟨rfl, habsolute⟩ | ⟨rest, rfl⟩
  · exact .inl rfl
  · rcases h' with rfl | ⟨rfl, h'⟩ | ⟨rest, rfl⟩
    · contradiction
    · exact .inr (.inl ⟨rfl, h'⟩)
    · refine .inr (.inl ⟨rfl, ?_⟩)
      rw [isAbsolute_append _ _, habsolute]
      rintro rfl
      contradiction
  · rcases h' with h' | ⟨h', -⟩ | ⟨rest', rfl⟩
    · simp at h'
    · cases head with
      | nil => exact .inl rfl
      | cons c head => simp at h'
    · refine .inr (.inr ⟨rest ++ '/' :: rest', ?_⟩)
      simp

/-- The anchor and the body make up the path. -/
theorem anchor_append_drop (path : Text) :
  anchor path ++ path.drop (anchor path).length = path
  := by
  unfold anchor
  split <;> rfl

/-- The parts of the body, from the last that names something on, are a part of all. -/
theorem backParts_suffix (path : Text) :
  backParts path <:+ (Text.splitAt '/' (path.drop (anchor path).length)).reverse
  := List.dropWhile_suffix _

/-- The anchor of a path is one of its heads, unless the path is nothing but a dot. -/
theorem isHead_anchor {path : Text} (h : backParts path ≠ []) :
  IsHead (anchor path) path
  := by
  unfold anchor
  split
  · exact .inr (.inl ⟨rfl, rfl⟩)
  · exact absurd rfl h
  next rest => exact .inr (.inr ⟨rest, rfl⟩)
  · exact .inl rfl

/-- The parent of a path is one of its heads. -/
theorem isHead_of_parent? {path parent : Text} (h : parent? path = some parent) :
  IsHead parent path
  := by
  unfold parent? at h
  split at h
  next =>
    split at h
    · cases h
      exact .inl rfl
    · contradiction
  next last front hparts =>
    cases h
    obtain ⟨tail, htail⟩ := backParts_suffix path
    obtain ⟨blanks, hblanks⟩ := List.dropWhile_suffix (l := front) isVoidPart
    rw [hparts] at htail
    -- The parts of the body are those of the parent and some more.
    have hbody : Text.splitAt '/' (path.drop (anchor path).length)
        = (front.dropWhile isVoidPart).reverse ++ (blanks.reverse ++ last :: tail.reverse)
      := by
      have := congrArg List.reverse htail
      rw [← hblanks] at this
      simpa using this.symm
    by_cases hfront : (front.dropWhile isVoidPart).reverse = []
    · rw [hfront]
      have hne : backParts path ≠ [] := by simp [hparts]
      simpa [Text.joinWith] using isHead_anchor hne
    · refine .inr (.inr ⟨Text.joinWith '/' (blanks.reverse ++ last :: tail.reverse), ?_⟩)
      conv =>
        lhs
        rw [← anchor_append_drop path, ← Text.joinWith_splitAt '/' (path.drop _), hbody,
          Text.joinWith_append hfront (by simp)]
      simp

/-- All the paths above a path are heads of it. -/
theorem isHead_of_mem_ancestors {count : Nat} {path ancestor parent : Text}
    (hparent : parent? path = some parent) (h : ancestor ∈ ancestors count parent) :
  IsHead ancestor path
  := by
  induction count generalizing path parent with
  | zero => simp [ancestors] at h
  | succ count ih =>
    rw [ancestors] at h
    rcases List.mem_cons.mp h with rfl | h
    · apply isHead_of_parent? hparent
    · cases hnext : parent? parent with
      | none => simp [hnext] at h
      | some next =>
        rw [hnext] at h
        apply (ih hnext h).trans
        apply isHead_of_parent? hparent

/-! ### Last names -/

theorem notMem_of_fileName? {path name : Text} (h : fileName? path = some name) :
  '/' ∉ name
  := by
  unfold fileName? at h
  split at h
  · contradiction
  next part front hparts =>
    split at h
    · contradiction
    · cases h
      have hmem : name ∈ backParts path := by simp [hparts]
      have := (backParts_suffix path).mem hmem
      apply Text.notMem_of_mem_splitAt (List.mem_reverse.mp this)

/-- A path ends with the name that is put into a directory. -/
theorem splitAt_join {directory name : Text} (h : '/' ∉ name) :
  ∃ front, Text.splitAt '/' (join directory name) = front ++ [name]
  := by
  unfold join
  rw [if_neg (by simp [isAbsolute_of_notMem h])]
  split
  next hends =>
    rw [Bool.or_eq_true, decide_eq_true_eq, Text.endsWith_iff] at hends
    rcases hends with rfl | ⟨front, rfl⟩
    · exact ⟨[], Text.splitAt_of_notMem h⟩
    · use Text.splitAt '/' front
      rw [List.append_assoc, List.singleton_append, Text.splitAt_append_cons,
        Text.splitAt_of_notMem h]
  · use Text.splitAt '/' directory
    rw [Text.splitAt_append_cons, Text.splitAt_of_notMem h]

/-- A path ends with the name that is put in the place of its last part. -/
theorem splitAt_withFileName (path : Text) {name : Text} (h : '/' ∉ name) :
  ∃ front, Text.splitAt '/' (withFileName path name) = front ++ [name]
  := by
  unfold withFileName
  split
  · apply splitAt_join h
  · apply splitAt_join h

/-- The parts of a path and of its body differ in the first, which names nothing. -/
theorem splitAt_body (path : Text) :
  ∃ head head' rest, Text.splitAt '/' path = head ++ rest
    ∧ Text.splitAt '/' (path.drop (anchor path).length) = head' ++ rest
    ∧ (∀ part ∈ head, isVoidPart part = true) ∧ ∀ part ∈ head', isVoidPart part = true
  := by
  unfold anchor
  split
  next rest => exact ⟨[[]], [], Text.splitAt '/' rest, rfl, rfl, by simp [isVoidPart]⟩
  next => exact ⟨[['.']], [[]], [], rfl, rfl, by simp [isVoidPart]⟩
  next rest => exact ⟨[['.']], [[]], Text.splitAt '/' rest, rfl, rfl, by simp [isVoidPart]⟩
  next => exact ⟨[], [], Text.splitAt '/' path, rfl, rfl, by simp⟩

/-- The parts before the last that is not empty, if that names something.  They are those of
the body but for parts that name nothing. -/
theorem backParts_of_splitAt {path name : Text} {front blanks : List Text}
    (hpath : Text.splitAt '/' path = front ++ name :: blanks) (hblanks : ∀ part ∈ blanks, part = [])
    (hvoid : isVoidPart name = false) :
  ∃ head head' middle, front = head ++ middle ∧ backParts path = name :: (head' ++ middle).reverse
    ∧ (∀ part ∈ head, isVoidPart part = true) ∧ ∀ part ∈ head', isVoidPart part = true
  := by
  obtain ⟨head, head', rest, hsplit, hbody, hhead, hhead'⟩ := splitAt_body path
  -- The name stands behind the head, which names nothing.
  have hrest : ∃ middle, rest = middle ++ name :: blanks ∧ front = head ++ middle := by
    rw [hsplit] at hpath
    rcases List.append_eq_append_iff.mp hpath with
      ⟨middle, hfront, hmiddle⟩ | ⟨middle, hmiddle, hname⟩
    · exact ⟨middle, hmiddle, hfront⟩
    · cases middle with
      | nil => exact ⟨[], by simpa using hname.symm, by simpa using hmiddle.symm⟩
      | cons part middle =>
        rw [List.cons_append, List.cons.injEq] at hname
        have := hhead name (by rw [hmiddle, hname.1]; simp)
        simp [hvoid] at this
  obtain ⟨middle, rfl, hfront⟩ := hrest
  refine ⟨head, head', middle, hfront, ?_, hhead, hhead'⟩
  unfold backParts
  rw [hbody]
  have hreverse : (head' ++ (middle ++ name :: blanks)).reverse
      = blanks.reverse ++ name :: (head' ++ middle).reverse := by simp
  rw [hreverse, List.dropWhile_append_of_pos, List.dropWhile_cons_of_neg (by simp [hvoid])]
  intro part hpart
  simp [isVoidPart, hblanks part (List.mem_reverse.mp hpart)]

/-- The last name of a path is the last part that is not empty, if that names something. -/
theorem fileName?_of_splitAt {path name : Text} {front blanks : List Text}
    (hpath : Text.splitAt '/' path = front ++ name :: blanks) (hblanks : ∀ part ∈ blanks, part = [])
    (hvoid : isVoidPart name = false) (hup : name ≠ ['.', '.']) :
  fileName? path = some name
  := by
  obtain ⟨head, head', middle, -, hparts, -, -⟩ := backParts_of_splitAt hpath hblanks hvoid
  simp [fileName?, hparts, hup]

end HostPath

end Excision
