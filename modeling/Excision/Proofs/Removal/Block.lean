import Excision.Proofs.Line.Canonical
import Excision.Proofs.Removal.Cut
import Excision.Proofs.Resolver.Strategy

/-!
# Removing a block

Removing a block from a text takes out the lines that the resolver finds and nothing else.
`Excises` says what that means for the text: it falls into what stands before the block, the
block, and what stands after it, the first and the last line of the block are as the
resolver wants them, and the boundary line stays.  Whenever a block is removed this holds,
and when none is removed the error is that of the resolver (`removeBlock_excises`).
-/

namespace Excision

/-- The removal takes a block of the resolver out of the text, between `before` and
`after`. -/
structure Removal.Excises (removal : Removal) (resolver : Resolver)
    (text before after : Text) : Prop where
  /-- What stands before the block are the lines before the first of the span. -/
  before_eq : before = ((Line.ofText text).take removal.span.first).flatten
  /-- The text is what stands before the block, the block and what stands after it. -/
  text_eq : text = before ++ removal.removed.flatten ++ after
  /-- The rest of the text is left as it is. -/
  content_eq : removal.content = before ++ after
  /-- No line before the block holds the start marker. -/
  before_start : ∀ line ∈ Line.ofText before, ¬ resolver.startMarker <:+: line
  /-- The first line of the block holds the start marker. -/
  head_start : ∃ line ∈ removal.removed.head?, resolver.startMarker <:+: line
  /-- The last line of the block has the content of the closing line. -/
  last_content :
    ∃ line ∈ removal.removed.getLast?,
      line.content = resolver.indent.text ++ resolver.closingToken
  /-- No line of the block holds the boundary marker. -/
  removed_boundary : ∀ line ∈ removal.removed, ¬ resolver.boundaryMarker <:+: line
  /-- The boundary line holds the boundary marker, and is a line of the rest as well. -/
  boundary_kept :
    ∃ line, (Line.ofText text)[removal.span.boundary]? = some line
      ∧ resolver.boundaryMarker <:+: line
      ∧ (Line.ofText removal.content)[removal.span.boundary - removal.removed.length]?
          = some line
  /-- The lines of the span stand in order before the boundary line. -/
  span_lt :
    removal.span.first < removal.span.last ∧ removal.span.last < removal.span.boundary
      ∧ removal.span.boundary < (Line.ofText text).length
  /-- The block has the lines of the span. -/
  length_removed : removal.removed.length = removal.span.last - removal.span.first + 1
  /-- There are at least two. -/
  two_le_length : 2 ≤ removal.removed.length

namespace Resolver

section

variable {resolver : Resolver} {text : Text}

/-! ### The outcome of a removal -/

/-- A span that is found can be cut out. -/
theorem Finds.exists_cut {lines : List Line} {span : Span}
    (h : resolver.Finds lines span) :
  ∃ cut, span.cut lines = .ok cut
  := by
  have hends := h.ends.1
  have hlt := hends.start_lt
  have hlength := hends.content.lt_length
  exact ⟨_, if_pos ⟨hlt.le, hlength⟩⟩

/-- A removal finds a span and cuts it out. -/
theorem value_removeBlock (resolver : Resolver) (text : Text) :
  (resolver.removeBlock text).value
    = (resolver.resolve (Line.ofText text)).value.bind fun span =>
        (span.cut (Line.ofText text)).map fun cut => ⟨span, cut.rest.flatten, cut.removed⟩
  := by
  simp [removeBlock]

/-- The block is removed exactly if it is found, and what is left are the other lines. -/
theorem removeBlock_eq_ok_iff {removal : Removal} :
  (resolver.removeBlock text).value = .ok removal ↔
    ∃ span cut, resolver.Finds (Line.ofText text) span
      ∧ span.cut (Line.ofText text) = .ok cut
      ∧ removal = ⟨span, cut.rest.flatten, cut.removed⟩
  := by
  rw [value_removeBlock]
  constructor
  · intro h
    cases hspan : (resolver.resolve (Line.ofText text)).value with
    | error error =>
      rw [hspan] at h
      contradiction
    | ok span =>
      have hfinds := resolve_eq_ok_iff.mp hspan
      obtain ⟨cut, hcut⟩ := hfinds.exists_cut
      rw [hspan, Except.bind, hcut] at h
      cases h
      exact ⟨span, cut, hfinds, hcut, rfl⟩
  · rintro ⟨span, cut, hfinds, hcut, rfl⟩
    rw [resolve_of_finds hfinds, Except.bind, hcut, Except.map]

/-- No block is removed exactly if none is found, and the error says why. -/
theorem removeBlock_eq_error_iff {error : BlockError} :
  (resolver.removeBlock text).value = .error error
    ↔ (resolver.resolve (Line.ofText text)).value = .error error
  := by
  rw [value_removeBlock]
  cases hspan : (resolver.resolve (Line.ofText text)).value with
  | error other => simp [Except.bind]
  | ok span =>
    obtain ⟨cut, hcut⟩ := (resolve_eq_ok_iff.mp hspan).exists_cut
    simp [Except.bind, hcut, Except.map]

/-- A resolver never answers that a span is out of range. -/
theorem Fails.ne_spanOutOfRange {lines : List Line} {error : BlockError}
    (h : resolver.Fails lines error) (span : Span) (length : Nat) :
  error ≠ .spanOutOfRange span length
  := by
  rintro rfl
  cases h with
  | unusable h => cases h
  | unlocated _ h => cases h

/-! ### The lines of the block -/

variable {lines : List Line} {span : Span} {cut : Cut}

theorem Finds.head?_removed (h : resolver.Finds lines span)
    (hcut : span.cut lines = .ok cut) :
  ∃ line ∈ cut.removed.head?, resolver.startMarker <:+: line
  := by
  obtain ⟨line, hline, hmarker⟩ := h.located.isLeast_start.1
  have hlength := Span.length_removed hcut
  refine ⟨line, ?_, hmarker⟩
  rw [List.head?_eq_getElem?, Span.getElem?_removed hcut (by omega)]
  apply hline

theorem Finds.getLast?_removed (h : resolver.Finds lines span)
    (hcut : span.cut lines = .ok cut) :
  ∃ line ∈ cut.removed.getLast?, line.content = resolver.closingLine
  := by
  obtain ⟨line, hline, hcontent⟩ := h.ends.1.content
  have hlength := Span.length_removed hcut
  have hlt := h.ends.1.start_lt
  refine ⟨line, ?_, hcontent⟩
  rw [List.getLast?_eq_getElem?, Span.getElem?_removed hcut (by omega)]
  have hlast : span.first + (cut.removed.length - 1) = span.last := by omega
  rw [hlast]
  apply hline

/-- No line of the block holds the boundary marker, for the boundary line is the first. -/
theorem Finds.notMem_removed (h : resolver.Finds lines span)
    (hcut : span.cut lines = .ok cut) {line : Line} (hline : line ∈ cut.removed) :
  ¬ resolver.boundaryMarker <:+: line
  := by
  intro hmarker
  obtain ⟨i, hfirst, hlast, hi⟩ := Span.exists_getElem?_of_mem_removed hcut hline
  have hle : span.boundary ≤ i :=
    h.located.isLeast_boundary.2 ⟨hfirst, line, hi, hmarker⟩
  have hlt := h.ends.1.lt_boundary
  omega

/-- No line before the block holds the start marker, for the start line is the first. -/
theorem Finds.notMem_take (h : resolver.Finds lines span) {line : Line}
    (hline : line ∈ lines.take span.first) :
  ¬ resolver.startMarker <:+: line
  := by
  intro hmarker
  obtain ⟨i, hi⟩ := List.mem_iff_getElem?.mp hline
  rw [List.getElem?_take] at hi
  split at hi
  next hlt =>
    have hle : span.first ≤ i := h.located.isLeast_start.2 ⟨line, hi, hmarker⟩
    omega
  next => contradiction

end

/-- A block that is removed is taken out exactly, and the text around it stays. If no block
is removed, the error is the one that the resolver gives on the lines of the text, which is
never that a span is out of range. -/
theorem removeBlock_excises (resolver : Resolver) (text : Text) :
  (∀ removal, (resolver.removeBlock text).value = .ok removal →
    ∃ before after, removal.Excises resolver text before after)
  ∧ (∀ error, (resolver.removeBlock text).value = .error error ↔
      (resolver.resolve (Line.ofText text)).value = .error error)
  ∧ ∀ span length, (resolver.removeBlock text).value ≠ .error (.spanOutOfRange span length)
  := by
  refine ⟨?_, fun error => removeBlock_eq_error_iff, ?_⟩
  · intro removal h
    obtain ⟨span, cut, hfinds, hcut, rfl⟩ := removeBlock_eq_ok_iff.mp h
    have hstart := hfinds.ends.1.start_lt
    have hboundary := hfinds.ends.1.lt_boundary
    have hlength := Span.length_removed hcut
    obtain ⟨-, -, hrest⟩ := Span.cut_eq_ok_iff.mp hcut
    -- What is left, and what stands before the block, is cut into the same lines again.
    have hcanonical := Line.canonical_ofText text
    have hlines_rest : Line.ofText cut.rest.flatten = cut.rest :=
      Line.ofText_flatten (hcanonical.sublist (Span.rest_sublist hcut))
    have hlines_before : Line.ofText ((Line.ofText text).take span.first).flatten
        = (Line.ofText text).take span.first
      := Line.ofText_flatten (hcanonical.sublist (List.take_sublist _ _))
    use ((Line.ofText text).take span.first).flatten
    use ((Line.ofText text).drop (span.last + 1)).flatten
    exact {
      before_eq := rfl
      text_eq := by
        rw [← List.flatten_append, ← List.flatten_append, Span.cut_append hcut,
          Line.flatten_ofText]
      content_eq := by
        rw [hrest, List.flatten_append]
      before_start := by
        intro line hline
        rw [hlines_before] at hline
        apply hfinds.notMem_take hline
      head_start := hfinds.head?_removed hcut
      last_content := hfinds.getLast?_removed hcut
      removed_boundary := fun _ hline => hfinds.notMem_removed hcut hline
      boundary_kept := by
        obtain ⟨line, hline, hmarker⟩ := hfinds.located.isLeast_boundary.1.2
        use line, hline, hmarker
        rw [hlines_rest, Span.getElem?_rest hcut hboundary]
        apply hline
      span_lt := ⟨hstart, hboundary, hfinds.located.isLeast_boundary.1.2.lt_length⟩
      length_removed := hlength
      two_le_length := by
        simp only [hlength]
        omega }
  · intro span length h
    have hfails := resolve_eq_error_iff.mp (removeBlock_eq_error_iff.mp h)
    apply hfails.ne_spanOutOfRange span length rfl

/-- The block of the sample goes, and the carriage return of its last line with it. -/
theorem removeBlock_sample :
  ∃ before after,
    Removal.Excises ⟨⟨1, 5, 7⟩, ['A', '\n', 'B', '\n', 'E'], (sampleLines.take 6).drop 1⟩
      (sample (.balanced ['<', 'd'])) sampleLines.flatten before after
  := by
  have h := removeBlock_excises (sample (.balanced ['<', 'd'])) sampleLines.flatten
  apply h.1 _ rfl

end Resolver

end Excision
