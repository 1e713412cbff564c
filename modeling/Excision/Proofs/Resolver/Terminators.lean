import Excision.Proofs.Resolver.Indentation

/-!
# Line terminators

The answer of a resolver does not depend on how the lines of a document are terminated.  What
it compares with the closing line and what it counts by is the content of a line; indentation
is the same with and without a terminator; and a marker that holds neither a carriage return
nor a line feed stands in a line exactly if it stands in its content (`Line.isInfix_content_iff`).
So documents whose lines have the same contents, one by one, have the same answer
(`resolve_eq_of_contents`).
-/

namespace Excision

/-- A text that shares no character with the end of another stands in the whole exactly if it
stands in what comes before that end. -/
theorem Text.isInfix_append_iff {needle text tail : Text} (h : ∀ c ∈ tail, c ∉ needle) :
  needle <:+: text ++ tail ↔ needle <:+: text
  := by
  have hnil {part : Text} (htail : part ⊆ tail) (hneedle : part ⊆ needle) : part = [] := by
    rw [List.eq_nil_iff_forall_not_mem]
    intro c hc
    apply h c (htail hc) (hneedle hc)
  constructor
  · intro hinfix
    obtain htext | htail | ⟨front, back, rfl, hfront, hback⟩ := List.infix_append_iff.mp hinfix
    · apply htext
    · rw [hnil htail.subset (List.Subset.refl _)]
      apply List.nil_infix
    · rw [hnil hback.subset (List.subset_append_right _ _), List.append_nil]
      apply hfront.isInfix
  · intro hinfix
    apply hinfix.trans (List.prefix_append _ _).isInfix

/-- A marker without a carriage return and a line feed never touches the terminator of a
line. -/
theorem Line.isInfix_content_iff {marker : Text} (hreturn : '\r' ∉ marker)
    (hfeed : '\n' ∉ marker) (line : Line) :
  marker <:+: line ↔ marker <:+: line.content
  := by
  obtain ⟨terminator, hterminator, hline⟩ := line.exists_terminator
  conv =>
    lhs
    rw [hline]
  apply Text.isInfix_append_iff
  intro c hc
  simp only [List.mem_cons, List.not_mem_nil, or_false] at hterminator
  rcases hterminator with rfl | rfl | rfl
  · contradiction
  · obtain rfl := List.mem_singleton.mp hc
    apply hfeed
  · obtain rfl | rfl : c = '\r' ∨ c = '\n' := by simpa using hc
    · apply hreturn
    · apply hfeed

/-! ### Lines with the same contents -/

theorem Line.indentation_eq_of_content {line other : Line} (h : line.content = other.content) :
  line.indentation = other.indentation
  := by
  rw [← line.indentation_content, h, other.indentation_content]

section

variable {lines others : List Line} (h : lines.map Line.content = others.map Line.content)

include h

/-- A property that lines with the same content share holds of the same lines. -/
theorem Line.at_iff_of_contents {p : Line → Prop}
    (hp : ∀ line other : Line, line.content = other.content → p line → p other)
    (index : Nat) :
  Line.At p lines index ↔ Line.At p others index
  := by
  have hindex : lines[index]?.map Line.content = others[index]?.map Line.content := by
    rw [← List.getElem?_map, ← List.getElem?_map, h]
  unfold Line.At
  cases hline : lines[index]? with
  | none =>
    rw [hline, Option.map_none, eq_comm, Option.map_eq_none_iff] at hindex
    rw [hindex]
  | some line =>
    rw [hline, Option.map_some, eq_comm, Option.map_eq_some_iff] at hindex
    obtain ⟨other, hother, hcontent⟩ := hindex
    simp only [hother, Option.mem_some_iff, exists_eq_left']
    exact ⟨hp line other hcontent.symm, hp other line hcontent⟩

end

namespace Resolver

section

variable {resolver : Resolver} {openToken : Text}

theorem closes_iff_of_content {line other : Line} (h : line.content = other.content) :
  resolver.Closes line ↔ resolver.Closes other
  := by
  rw [Closes, Closes, h]

theorem opens_iff_of_content {line other : Line} (h : line.content = other.content) :
  resolver.Opens openToken line ↔ resolver.Opens openToken other
  := by
  rw [Opens, Opens, h]

/-- Lines with the same contents lead to the same depth. -/
theorem foldl_tally_of_contents {lines others : List Line}
    (h : lines.map Line.content = others.map Line.content) (depth : Nat) :
  lines.foldl (resolver.tally openToken) depth = others.foldl (resolver.tally openToken) depth
  := by
  induction lines generalizing others depth with
  | nil =>
    obtain rfl : others = [] := by simpa using h.symm
    rfl
  | cons line lines ih =>
    cases others with
    | nil => contradiction
    | cons other others =>
      obtain ⟨hcontent, hrest⟩ := List.cons.inj h
      have htally :
          resolver.tally openToken depth line = resolver.tally openToken depth other
        := by
        simp only [tally, opens_iff_of_content hcontent, closes_iff_of_content hcontent]
      rw [List.foldl_cons, List.foldl_cons, htally, ih hrest]

end

section

variable {resolver : Resolver} {lines others : List Line}
  (h : lines.map Line.content = others.map Line.content)

include h

theorem depth_eq_of_contents (openToken : Text) (start index : Nat) :
  resolver.depth openToken lines start index = resolver.depth openToken others start index
  := by
  apply foldl_tally_of_contents
  rw [List.map_drop, List.map_drop, List.map_take, List.map_take, h]

/-- The block may end on the same lines. -/
theorem endsOn_iff_of_contents (start boundary index : Nat) :
  resolver.EndsOn lines start boundary index ↔ resolver.EndsOn others start boundary index
  := by
  have hexact : Line.At (·.content = resolver.closingLine) lines index
      ↔ Line.At (·.content = resolver.closingLine) others index
    := by
    apply Line.at_iff_of_contents h
    intro line other hcontent hline
    rwa [← hcontent]
  have hcloses : Line.At resolver.ClosesExactly lines index
      ↔ Line.At resolver.ClosesExactly others index
    := by
    apply Line.at_iff_of_contents h
    rintro line other hcontent ⟨hline, hclosing⟩
    rw [hcontent] at hclosing
    exact ⟨(closes_iff_of_content hcontent).mp hline, hclosing⟩
  unfold EndsOn
  split
  next => rw [hexact]
  next => rw [ClosesBlock, ClosesBlock, hcloses, depth_eq_of_contents h]

theorem indented_iff_of_contents (start : Nat) :
  resolver.Indented lines start ↔ resolver.Indented others start
  := by
  apply Line.at_iff_of_contents h
  intro line other hcontent hline
  rwa [← Line.indentation_eq_of_content hcontent]

/-- Lines hold a marker alike, if it holds no character of a terminator. -/
theorem at_marker_iff_of_contents {marker : Text}
    (hmarker : '\r' ∉ marker ∧ '\n' ∉ marker) (index : Nat) :
  Line.At (marker <:+: ·) lines index ↔ Line.At (marker <:+: ·) others index
  := by
  apply Line.at_iff_of_contents h
  intro line other hcontent hline
  rw [Line.isInfix_content_iff hmarker.1 hmarker.2] at hline ⊢
  rwa [← hcontent]

variable (hstart : '\r' ∉ resolver.startMarker ∧ '\n' ∉ resolver.startMarker)
  (hboundary : '\r' ∉ resolver.boundaryMarker ∧ '\n' ∉ resolver.boundaryMarker)

include hstart hboundary

theorem Located.of_contents {start boundary : Nat}
    (hlocated : resolver.Located lines start boundary) :
  resolver.Located others start boundary
  := by
  obtain ⟨hfirst, hlimit⟩ := hlocated
  simp only [at_marker_iff_of_contents h hstart] at hfirst
  simp only [at_marker_iff_of_contents h hboundary] at hlimit
  exact ⟨hfirst, hlimit⟩

theorem Unlocated.of_contents {error : BlockError}
    (hunlocated : resolver.Unlocated lines error) :
  resolver.Unlocated others error
  := by
  cases hunlocated with
  | start habsent =>
    simp only [at_marker_iff_of_contents h hstart] at habsent
    exact .start habsent
  | boundary hfirst habsent =>
    simp only [at_marker_iff_of_contents h hstart] at hfirst
    simp only [at_marker_iff_of_contents h hboundary] at habsent
    exact .boundary hfirst habsent

theorem Finds.of_contents {span : Span} (hfinds : resolver.Finds lines span) :
  resolver.Finds others span
  := by
  refine ⟨hfinds.usable, hfinds.located.of_contents h hstart hboundary, ?_, ?_⟩
  · apply (indented_iff_of_contents h _).mp hfinds.indented
  · simpa only [endsOn_iff_of_contents h] using hfinds.ends

theorem Fails.of_contents {error : BlockError} (hfails : resolver.Fails lines error) :
  resolver.Fails others error
  := by
  cases hfails with
  | unusable hunusable => exact .unusable hunusable
  | unlocated husable hunlocated =>
    exact .unlocated husable (hunlocated.of_contents h hstart hboundary)
  | @misindented start boundary line husable hlocated hline hindent =>
    -- The line of the other document is indented alike, so that the error names the same text.
    obtain ⟨other, hother, hsame⟩ :
        Line.At (·.indentation = line.indentation) others start
      := by
      refine (Line.at_iff_of_contents h ?_ start).mp ⟨line, hline, rfl⟩
      intro line' other' hcontent hline'
      rw [← hline', Line.indentation_eq_of_content hcontent]
    rw [← hsame] at hindent ⊢
    exact .misindented husable (hlocated.of_contents h hstart hboundary) hother hindent
  | unclosed husable hlocated hindented habsent =>
    apply Fails.unclosed husable (hlocated.of_contents h hstart hboundary)
      ((indented_iff_of_contents h _).mp hindented)
    simpa only [endsOn_iff_of_contents h] using habsent

end

/-- Line terminators do not influence the answer.  If no marker holds a carriage return or a
line feed, the answer is the same, span or error, for any two documents of as many lines whose
lines have the same contents, whichever of them end with a line feed, with a carriage return
and a line feed, or with nothing. -/
theorem resolve_eq_of_contents {resolver : Resolver}
    (hstart : '\r' ∉ resolver.startMarker ∧ '\n' ∉ resolver.startMarker)
    (hboundary : '\r' ∉ resolver.boundaryMarker ∧ '\n' ∉ resolver.boundaryMarker)
    {lines others : List Line} (h : lines.map Line.content = others.map Line.content) :
  (resolver.resolve lines).value = (resolver.resolve others).value
  := by
  obtain ⟨span, hfinds⟩ | ⟨error, hfails⟩ := resolver.finds_or_fails lines
  · rw [resolve_of_finds hfinds, resolve_of_finds (hfinds.of_contents h hstart hboundary)]
  · rw [resolve_of_fails hfails, resolve_of_fails (hfails.of_contents h hstart hboundary)]

/-- The sample with other terminators. -/
theorem resolve_eq_of_contents_sample :
  let others : List Line :=
    [['A', '\r', '\n'], ['S'], [' ', ' ', '<', 'd', '>', '\r', '\n'],
      ['\t', '<', 'd', '>', '\r', '\n'], [' ', ' ', '<', '/', 'd', '>'],
      [' ', ' ', '<', '/', 'd', '>', '\n'], ['B', '\n'], ['E', '\r', '\n']]
  sampleLines.map Line.content = others.map Line.content
    ∧ ((sample .firstExact).resolve others).value = .ok ⟨1, 4, 7⟩
    ∧ ((sample (.balanced ['<', 'd'])).resolve others).value = .ok ⟨1, 5, 7⟩
  := by
  intro others
  have h : sampleLines.map Line.content = others.map Line.content := by decide
  refine ⟨h, ?_, ?_⟩
  · rw [← resolve_eq_of_contents (by decide) (by decide) h]
    rfl
  · rw [← resolve_eq_of_contents (by decide) (by decide) h]
    rfl

end Resolver

end Excision
