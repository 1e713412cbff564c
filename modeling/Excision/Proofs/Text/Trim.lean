import Excision.Proofs.Text.Split
import Excision.Text.Blank

/-!
# Trimming

A text of blank characters put in front of another does not change what is left of it after
trimming (`trim_append_of_blank`), a text that has no blank character at either end is left
as it is (`trim_eq_self`), and nothing is left of a text exactly when it is blank throughout
(`trim_eq_nil_iff`).  Only a text without blank characters at its ends begins what is left of
it (`trimmed_of_isPrefix_trim`).
-/

namespace Excision

namespace Text

/-- Every character of the text is blank. -/
def Blank (text : Text) : Prop := ∀ c ∈ text, isBlank c = true

instance (text : Text) : Decidable (Blank text) :=
  decidable_of_iff (text.all isBlank = true) List.all_eq_true

/-- Neither the first nor the last character of the text is blank. -/
structure Trimmed (text : Text) : Prop where
  /-- The first character is not blank. -/
  head : ∀ c ∈ text.head?, isBlank c = false
  /-- The last character is not blank. -/
  last : ∀ c ∈ text.getLast?, isBlank c = false

instance (text : Text) : Decidable (Trimmed text) :=
  decidable_of_iff
    (text.head?.all (!isBlank ·) = true ∧ text.getLast?.all (!isBlank ·) = true) <| by
  simp only [Option.all_eq_true, Bool.not_eq_true']
  exact ⟨fun h => ⟨h.1, h.2⟩, fun h => ⟨h.head, h.last⟩⟩

theorem trimStart_of_head {text : Text} (h : ∀ c ∈ text.head?, isBlank c = false) :
  text.trimStart = text
  := by
  cases text with
  | nil => rfl
  | cons c text =>
    have hc : isBlank c = false := h c rfl
    simp [trimStart, hc]

/-- Trimming does nothing to a text without blank characters at its ends. -/
theorem trim_eq_self {text : Text} (h : Trimmed text) :
  text.trim = text
  := by
  have hlast : trimStart text.reverse = text.reverse := by
    apply trimStart_of_head
    rw [List.head?_reverse]
    apply h.last
  rw [trim, trimStart_of_head h.head]
  calc
    trimEnd text = (trimStart text.reverse).reverse := rfl
    _ = text.reverse.reverse := by rw [hlast]
    _ = text := List.reverse_reverse text

/-- Blank characters in front do not count when a text is trimmed. -/
theorem trim_append_of_blank {blanks : Text} (h : Blank blanks) (text : Text) :
  trim (blanks ++ text) = trim text
  := by
  rw [trim, trimStart, List.dropWhile_append_of_pos h]
  rfl

theorem trimStart_eq_nil_iff {text : Text} :
  text.trimStart = [] ↔ Blank text
  := List.dropWhile_eq_nil_iff

theorem trimEnd_eq_nil_iff {text : Text} :
  text.trimEnd = [] ↔ Blank text
  := by
  rw [trimEnd, List.reverse_eq_nil_iff, List.dropWhile_eq_nil_iff]
  simp [Blank]

/-- Nothing is left of a text after trimming exactly when it is blank throughout. -/
theorem trim_eq_nil_iff {text : Text} :
  text.trim = [] ↔ Blank text
  := by
  rw [trim, trimEnd_eq_nil_iff]
  constructor
  · intro h c hc
    rw [← List.takeWhile_append_dropWhile (p := isBlank) (l := text), List.mem_append] at hc
    rcases hc with hc | hc
    · apply List.mem_takeWhile_imp hc
    · apply h c hc
  · intro h
    rw [trimStart_eq_nil_iff.mpr h]
    simp [Blank]

theorem isBlankText_iff {text : Text} :
  text.isBlankText = true ↔ Blank text
  := by
  rw [isBlankText, List.isEmpty_iff, trim_eq_nil_iff]

/-! ### What is left of a text -/

theorem trimStart_suffix (text : Text) :
  text.trimStart <:+ text
  := List.dropWhile_suffix isBlank

theorem trimEnd_prefix (text : Text) :
  text.trimEnd <+: text
  := by
  rw [← List.reverse_suffix, trimEnd, List.reverse_reverse]
  apply List.dropWhile_suffix

/-- What is left behind the blank characters in front begins with no blank character. -/
theorem head_trimStart (text : Text) :
  ∀ c ∈ text.trimStart.head?, isBlank c = false
  := head_dropWhile isBlank text

theorem last_trimEnd (text : Text) :
  ∀ c ∈ text.trimEnd.getLast?, isBlank c = false
  := by
  rw [trimEnd, List.getLast?_reverse]
  apply head_trimStart

/-- A text that begins what trimming leaves of it has no blank character at either end. -/
theorem trimmed_of_isPrefix_trim {text : Text} (h : text <+: text.trim) :
  Trimmed text
  := by
  have hend : text.trim <+: text.trimStart := trimEnd_prefix text.trimStart
  have hstart : text.trimStart = text := by
    apply text.trimStart_suffix.eq_of_length_le
    apply (h.trans hend).length_le
  rw [trim, hstart] at h
  have hwhole : text.trimEnd = text := text.trimEnd_prefix.eq_of_length_le h.length_le
  constructor
  · rw [← hstart]
    apply head_trimStart
  · rw [← hwhole]
    apply last_trimEnd

end Text

end Excision
