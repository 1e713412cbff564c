import Excision.Removal

/-!
# Cuts

A span cuts a list of lines into the lines of the span and the rest.  Both keep the lines in
their order: put back where they were taken out, the lines of the span give the whole list
again (`cut_append`), the rest is a part of the list (`rest_sublist`), and each line of the
two stands where the span says (`getElem?_removed`, `getElem?_rest`).
-/

namespace Excision

namespace Span

/-- A span cuts a list exactly if its lines exist and come in order. -/
theorem cut_eq_ok_iff {span : Span} {lines : List Line} {cut : Cut} :
  span.cut lines = .ok cut ↔
    (span.first ≤ span.last ∧ span.last < lines.length)
      ∧ cut.removed = (lines.take (span.last + 1)).drop span.first
      ∧ cut.rest = lines.take span.first ++ lines.drop (span.last + 1)
  := by
  unfold Span.cut
  split
  next h =>
    rw [Except.ok.injEq]
    constructor
    · rintro rfl
      exact ⟨h, rfl, rfl⟩
    · rintro ⟨-, hremoved, hrest⟩
      cases cut
      simp_all
  next h => simp [h]

section

variable {span : Span} {lines : List Line} {cut : Cut}

theorem cut_append (h : span.cut lines = .ok cut) :
  lines.take span.first ++ cut.removed ++ lines.drop (span.last + 1) = lines
  := by
  obtain ⟨⟨hle, -⟩, hremoved, -⟩ := cut_eq_ok_iff.mp h
  have htake : lines.take span.first = (lines.take (span.last + 1)).take span.first := by
    rw [List.take_take, Nat.min_eq_left (by omega)]
  rw [hremoved, htake, List.take_append_drop, List.take_append_drop]

theorem rest_sublist (h : span.cut lines = .ok cut) :
  cut.rest.Sublist lines
  := by
  obtain ⟨⟨hle, -⟩, -, hrest⟩ := cut_eq_ok_iff.mp h
  rw [hrest]
  conv =>
    rhs
    rw [← List.take_append_drop span.first lines]
  apply List.Sublist.append_left
  apply List.drop_sublist_drop_left
  omega

theorem length_removed (h : span.cut lines = .ok cut) :
  cut.removed.length = span.last - span.first + 1
  := by
  obtain ⟨⟨hle, hlt⟩, hremoved, -⟩ := cut_eq_ok_iff.mp h
  rw [hremoved, List.length_drop, List.length_take]
  omega

/-- The lines of the span begin with line `first`. -/
theorem getElem?_removed (h : span.cut lines = .ok cut) {i : Nat}
    (hi : i < cut.removed.length) :
  cut.removed[i]? = lines[span.first + i]?
  := by
  obtain ⟨⟨hle, -⟩, hremoved, -⟩ := cut_eq_ok_iff.mp h
  rw [length_removed h] at hi
  rw [hremoved, List.getElem?_drop, List.getElem?_take_of_lt (by omega)]

/-- A line of the span stands between its first and its last line. -/
theorem exists_getElem?_of_mem_removed (h : span.cut lines = .ok cut) {line : Line}
    (hline : line ∈ cut.removed) :
  ∃ i, span.first ≤ i ∧ i ≤ span.last ∧ lines[i]? = some line
  := by
  obtain ⟨i, hi⟩ := List.mem_iff_getElem?.mp hline
  have hlt : i < cut.removed.length := (List.getElem?_eq_some_iff.mp hi).1
  have hlength := length_removed h
  obtain ⟨⟨hle, -⟩, -, -⟩ := cut_eq_ok_iff.mp h
  rw [getElem?_removed h hlt] at hi
  exact ⟨span.first + i, by omega, by omega, hi⟩

/-- The lines behind the span move up by the length of the span. -/
theorem getElem?_rest (h : span.cut lines = .ok cut) {i : Nat} (hi : span.last < i) :
  cut.rest[i - cut.removed.length]? = lines[i]?
  := by
  have hlength := length_removed h
  obtain ⟨⟨hle, hlt⟩, -, hrest⟩ := cut_eq_ok_iff.mp h
  rw [hrest, List.getElem?_append_right, List.getElem?_drop]
  · rw [List.length_take]
    congr 1
    omega
  · rw [List.length_take]
    omega

end

end Span

end Excision
