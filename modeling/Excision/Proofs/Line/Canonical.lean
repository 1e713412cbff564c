import Excision.Line.Basic

/-!
# Canonical lines

Cutting a text into lines gives lines of one shape only, and such lines are called canonical
here: none is empty, a line feed stands only at the end of a line, and every line but the
last ends with one.  Joining canonical lines and cutting the text again gives the same lines
(`ofText_flatten`).  Leaving lines out of canonical lines leaves canonical lines
(`Canonical.sublist`).
-/

namespace Excision

namespace Line

/-- The shape of the lines that a text is cut into. -/
structure Canonical (lines : List Line) : Prop where
  /-- No line is empty. -/
  ne_nil : ∀ line ∈ lines, line ≠ []
  /-- A line feed stands only at the end of a line. -/
  feed_last : ∀ line ∈ lines, '\n' ∉ line.dropLast
  /-- Every line but the last ends with a line feed. -/
  ended : ∀ line ∈ lines.dropLast, line.getLast? = some '\n'

theorem canonical_nil :
  Canonical []
  := ⟨by simp, by simp, by simp⟩

/-- Lines are canonical when the first has the shape of a line, ended if others follow it,
and the others are canonical. -/
theorem canonical_cons_iff {line : Line} {lines : List Line} :
  Canonical (line :: lines) ↔
    line ≠ [] ∧ '\n' ∉ line.dropLast ∧ (lines ≠ [] → line.getLast? = some '\n')
      ∧ Canonical lines
  := by
  constructor
  · rintro ⟨hne, hfeed, hended⟩
    simp only [List.forall_mem_cons] at hne hfeed
    have hfirst : lines ≠ [] → line.getLast? = some '\n' := by
      intro hlines
      apply hended
      simp [List.dropLast_cons_of_ne_nil hlines]
    have hothers : ∀ other ∈ lines.dropLast, other.getLast? = some '\n' := by
      intro other hother
      have hlines : lines ≠ [] := by
        rintro rfl
        simp at hother
      apply hended
      simp [List.dropLast_cons_of_ne_nil hlines, hother]
    exact ⟨hne.1, hfeed.1, hfirst, hne.2, hfeed.2, hothers⟩
  · rintro ⟨hne, hfeed, hended, h⟩
    constructor
    · simpa using ⟨hne, h.ne_nil⟩
    · simpa using ⟨hfeed, h.feed_last⟩
    · by_cases hlines : lines = []
      · simp [hlines]
      · rw [List.dropLast_cons_of_ne_nil hlines]
        simpa using ⟨hended hlines, h.ended⟩

/-- Leaving lines out of canonical lines leaves canonical lines. -/
theorem Canonical.sublist {lines part : List Line} (h : Canonical lines)
    (hpart : part.Sublist lines) :
  Canonical part
  := by
  induction hpart with
  | slnil => apply canonical_nil
  | cons line _ ih =>
    obtain ⟨-, -, -, hlines⟩ := canonical_cons_iff.mp h
    apply ih hlines
  | @cons_cons part lines line hpart ih =>
    obtain ⟨hne, hfeed, hended, hlines⟩ := canonical_cons_iff.mp h
    -- A line that is followed by another in the part is followed by one in the whole.
    have hended' : part ≠ [] → line.getLast? = some '\n' := by
      intro hne'
      apply hended
      rintro rfl
      apply hne' (List.sublist_nil.mp hpart)
    apply canonical_cons_iff.mpr ⟨hne, hfeed, hended', ih hlines⟩

/-! ### Cutting -/

/-- The first line of a text ends at the first line feed. -/
theorem ofText_append_feed {body : Text} (h : '\n' ∉ body) (text : Text) :
  ofText (body ++ '\n' :: text) = (body ++ ['\n']) :: ofText text
  := by
  induction body with
  | nil => simp [ofText]
  | cons c body ih =>
    simp only [List.mem_cons, not_or] at h
    simp [ofText, ih h.2, Ne.symm h.1]

/-- A text without a line feed is one line. -/
theorem ofText_of_notMem {text : Text} (hne : text ≠ []) (h : '\n' ∉ text) :
  ofText text = [text]
  := by
  induction text with
  | nil => contradiction
  | cons c text ih =>
    simp only [List.mem_cons, not_or] at h
    by_cases htext : text = []
    · simp [htext, ofText, Ne.symm h.1]
    · simp [ofText, ih htext h.2, Ne.symm h.1]

/-- The lines of a text are canonical. -/
theorem canonical_ofText (text : Text) :
  Canonical (ofText text)
  := by
  induction text with
  | nil => apply canonical_nil
  | cons c text ih =>
    unfold ofText
    split
    next hc =>
      subst hc
      apply canonical_cons_iff.mpr ⟨by simp, by simp, by simp, ih⟩
    next hc =>
      split
      next => apply canonical_cons_iff.mpr ⟨by simp, by simp, by simp, canonical_nil⟩
      next line lines hlines =>
        rw [hlines] at ih
        obtain ⟨hne, hfeed, hended, h⟩ := canonical_cons_iff.mp ih
        have hfeed' : '\n' ∉ (c :: line).dropLast := by
          simp [List.dropLast_cons_of_ne_nil hne, Ne.symm hc, hfeed]
        have hended' : lines ≠ [] → (c :: line).getLast? = some '\n' := by
          intro hlines
          rw [List.getLast?_cons_of_ne_nil hne]
          apply hended hlines
        apply canonical_cons_iff.mpr ⟨by simp, hfeed', hended', h⟩

/-- Joining canonical lines and cutting the text again gives the same lines. -/
theorem ofText_flatten {lines : List Line} (h : Canonical lines) :
  ofText lines.flatten = lines
  := by
  induction lines with
  | nil => rfl
  | cons line lines ih =>
    obtain ⟨hne, hfeed, hended, hlines⟩ := canonical_cons_iff.mp h
    by_cases hlast : line.getLast? = some '\n'
    · obtain ⟨body, rfl⟩ := List.getLast?_eq_some_iff.mp hlast
      simp only [List.dropLast_concat] at hfeed
      rw [List.flatten_cons, List.append_assoc, List.singleton_append,
        ofText_append_feed hfeed, ih hlines]
    · -- Only the last line may be without a line feed.
      obtain rfl : lines = [] :=
        Classical.byContradiction fun hlines => hlast (hended hlines)
      rw [List.flatten_singleton]
      apply ofText_of_notMem hne
      intro hmem
      rw [← List.dropLast_concat_getLast hne, List.mem_append, List.mem_singleton] at hmem
      rcases hmem with hmem | hmem
      · apply hfeed hmem
      · apply hlast
        rw [List.getLast?_eq_some_getLast hne, hmem]

end Line

end Excision
