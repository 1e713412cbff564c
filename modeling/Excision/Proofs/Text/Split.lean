import Excision.Text.Basic
import Mathlib.Data.List.TakeWhile

/-!
# Splitting and joining

`Text.splitAt` and `Text.joinWith` are the splitting and the joining of the list library, so
that they undo each other: joining the parts of a text gives the text, and splitting joined
parts gives the parts, where none of them holds the separator.  A text is cut in two before the
first character that fails a test in one way alone (`takeWhile_append_of_head`,
`dropWhile_append_of_head`).
-/

namespace Excision

namespace Text

variable {sep : Char}

theorem splitAt_eq_splitOn (sep : Char) (text : Text) :
  splitAt sep text = text.splitOn sep
  := by
  induction text with
  | nil => rfl
  | cons c rest ih =>
    rw [splitAt, List.splitOn_cons_eq_if_modifyHead, ih]
    split
    next h => simp [h]
    next h =>
      rw [if_neg (by simpa using h)]
      cases hrest : rest.splitOn sep with
      | nil => exact absurd hrest (List.splitOn_ne_nil sep rest)
      | cons part parts => rfl

theorem joinWith_eq_intercalate (sep : Char) (parts : List Text) :
  joinWith sep parts = [sep].intercalate parts
  := by
  fun_induction joinWith sep parts with
  | case1 => rfl
  | case2 part => simp
  | case3 part parts hne ih =>
    cases parts with
    | nil => exact absurd rfl hne
    | cons other parts => rw [ih, List.intercalate_cons_cons, List.append_assoc,
        List.singleton_append]

theorem splitAt_ne_nil (sep : Char) (text : Text) :
  splitAt sep text ≠ []
  := by
  rw [splitAt_eq_splitOn]
  apply List.splitOn_ne_nil

@[simp] theorem joinWith_splitAt (sep : Char) (text : Text) :
  joinWith sep (splitAt sep text) = text
  := by
  rw [joinWith_eq_intercalate, splitAt_eq_splitOn]
  apply List.intercalate_splitOn

theorem splitAt_joinWith {parts : List Text} (hne : parts ≠ [])
    (hsep : ∀ part ∈ parts, sep ∉ part) :
  splitAt sep (joinWith sep parts) = parts
  := by
  rw [joinWith_eq_intercalate, splitAt_eq_splitOn]
  apply List.splitOn_intercalate sep hsep hne

theorem splitAt_of_notMem {text : Text} (h : sep ∉ text) :
  splitAt sep text = [text]
  := by
  rw [splitAt_eq_splitOn]
  apply List.splitOn_eq_singleton h

theorem splitAt_append_cons (sep : Char) (text rest : Text) :
  splitAt sep (text ++ sep :: rest) = splitAt sep text ++ splitAt sep rest
  := by
  simp only [splitAt_eq_splitOn]
  apply List.splitOn_append_cons_of_beq
  apply beq_self_eq_true

/-- No part holds the separator. -/
theorem notMem_of_mem_splitAt {text part : Text} (h : part ∈ splitAt sep text) :
  sep ∉ part
  := by
  induction text generalizing part with
  | nil =>
    rw [splitAt, List.mem_singleton] at h
    simp [h]
  | cons c rest ih =>
    rw [splitAt] at h
    split at h
    next hc =>
      rcases List.mem_cons.mp h with rfl | h
      · simp
      · apply ih h
    next hc =>
      cases hrest : splitAt sep rest with
      | nil => exact absurd hrest (splitAt_ne_nil sep rest)
      | cons head parts =>
        rw [hrest] at h ih
        rcases List.mem_cons.mp h with rfl | h
        · have hhead : sep ∉ head := ih List.mem_cons_self
          simp [hhead, Ne.symm hc]
        · apply ih (List.mem_cons_of_mem head h)

theorem joinWith_append {front back : List Text} (hfront : front ≠ []) (hback : back ≠ []) :
  joinWith sep (front ++ back) = joinWith sep front ++ sep :: joinWith sep back
  := by
  induction front with
  | nil => contradiction
  | cons part front ih =>
    cases front with
    | nil =>
      cases back with
      | nil => contradiction
      | cons other back => rfl
    | cons other front =>
      have hrec := ih (by simp)
      simp only [List.cons_append, joinWith] at hrec ⊢
      rw [hrec, List.append_assoc, List.cons_append]

/-! ### Cutting before a character that fails a test -/

section

variable {test : Char → Bool} {front back : Text}

/-- The second part, if it is not empty, begins with a character that fails the test. -/
theorem head_dropWhile (test : Char → Bool) (text : Text) :
  ∀ c ∈ (text.dropWhile test).head?, test c = false
  := by
  intro c hc
  have hnot := List.head?_dropWhile_not test text
  rw [hc] at hnot
  exact hnot

/-- A text falls into a part that passes the test throughout and one that fails it at once. -/
theorem exists_cut (test : Char → Bool) (text : Text) :
  ∃ front back, text = front ++ back ∧ text.takeWhile test = front
    ∧ text.dropWhile test = back ∧ (∀ c ∈ front, test c = true)
    ∧ ∀ c ∈ back.head?, test c = false
  := ⟨_, _, List.takeWhile_append_dropWhile.symm, rfl, rfl, fun _ => List.mem_takeWhile_imp,
    head_dropWhile test text⟩

variable (hfront : ∀ c ∈ front, test c = true) (hback : ∀ c ∈ back.head?, test c = false)

include hfront hback

theorem takeWhile_append_of_head :
  (front ++ back).takeWhile test = front
  := by
  rw [List.takeWhile_append_of_pos hfront]
  cases back with
  | nil => simp
  | cons c back =>
    have hc : test c = false := hback c rfl
    simp [hc]

theorem dropWhile_append_of_head :
  (front ++ back).dropWhile test = back
  := by
  rw [List.dropWhile_append_of_pos hfront]
  cases back with
  | nil => rfl
  | cons c back =>
    have hc : test c = false := hback c rfl
    simp [hc]

end

end Text

end Excision
