import Excision.Proofs.Resolver.Strategy

/-!
# The indentation of a block

The spaces and tabs that the first and the last line of a block begin with.  Those of the
first line are a part of the indent.  The last line has the text of the closing line, so that
it begins with the indent and then with the spaces and tabs of the closing token
(`Finds.indentation_last`): it is indented by exactly the indent if and only if the closing
token begins with something else.  The balanced strategy accepts no other closing token.
-/

namespace Excision

/-! ### The indentation of a line -/

namespace Line

/-- A line is its content and a terminator. -/
theorem exists_terminator (line : Line) :
  ∃ terminator ∈ [[], ['\n'], ['\r', '\n']], line = line.content ++ terminator
  := by
  unfold content
  split
  next rest h =>
    refine ⟨['\r', '\n'], by simp, ?_⟩
    simpa using congrArg List.reverse h
  next rest _ h =>
    refine ⟨['\n'], by simp, ?_⟩
    simpa using congrArg List.reverse h
  next => exact ⟨[], by simp, by simp⟩

/-- The terminator of a line is no part of its indentation. -/
theorem indentation_content (line : Line) :
  indentation line.content = line.indentation
  := by
  obtain ⟨terminator, hterminator, hline⟩ := line.exists_terminator
  have hnone : terminator.takeWhile isIndentChar = [] := by
    simp only [List.mem_cons, List.not_mem_nil, or_false] at hterminator
    rcases hterminator with rfl | rfl | rfl
    · rfl
    · rfl
    · rfl
  conv =>
    rhs
    rw [hline]
  unfold indentation
  rw [List.takeWhile_append, hnone]
  split
  next hlength =>
    rw [List.append_nil, (List.takeWhile_prefix isIndentChar).eq_of_length hlength]
  next => rfl

/-- Behind an indent a text is indented by the indent and its own spaces and tabs. -/
theorem indentation_append (indent : Indent) (text : Text) :
  indentation (indent.text ++ text) = indent.text ++ indentation text
  := List.takeWhile_append_of_pos (List.all_eq_true.mp indent.blank)

theorem indentation_eq_nil_iff {text : Text} :
  indentation text = [] ↔ ∀ c ∈ text.head?, isIndentChar c = false
  := by
  cases text with
  | nil => simp [indentation]
  | cons c text => simp [indentation, List.takeWhile_cons]

/-- What begins a text without blank characters at its ends begins with no space or tab. -/
theorem indentation_of_isPrefix_trim {head text : Text} (h : head <+: text.trim) :
  indentation head = []
  := by
  rw [indentation_eq_nil_iff]
  intro c hc
  have hprefix : text.trim <+: text.trimStart := Text.trimEnd_prefix text.trimStart
  have htrimmed : c ∈ text.trimStart.head? := by
    obtain ⟨rest, hrest⟩ := h.trans hprefix
    rw [← hrest]
    cases head with
    | nil => contradiction
    | cons d head => exact hc
  have hblank : isBlank c = false := text.head_trimStart c htrimmed
  rw [← Bool.not_eq_true]
  intro hindent
  simp only [isIndentChar, Bool.or_eq_true, beq_iff_eq] at hindent
  rcases hindent with rfl | rfl
  · contradiction
  · contradiction

end Line

/-! ### The indentation of the first and the last line -/

namespace Resolver

section

variable {resolver : Resolver} {lines : List Line} {span : Span}

/-- The last line of a block is indented by the indent and by the spaces and tabs that the
closing token begins with. -/
theorem Finds.indentation_last (h : resolver.Finds lines span) :
  Line.At (fun line => line.indentation
    = resolver.indent.text ++ Line.indentation resolver.closingToken) lines span.last
  := by
  obtain ⟨line, hline, hcontent⟩ := h.ends.1.content
  refine ⟨line, hline, ?_⟩
  calc
    line.indentation = Line.indentation line.content := line.indentation_content.symm
    _ = Line.indentation (resolver.indent.text ++ resolver.closingToken) := by
      rw [hcontent, closingLine]
    _ = resolver.indent.text ++ Line.indentation resolver.closingToken :=
      Line.indentation_append _ _

/-- With the balanced strategy the closing token of a block begins with no space or tab. -/
theorem Finds.indentation_closingToken (h : resolver.Finds lines span) {openToken : Text}
    (hstrategy : resolver.strategy = .balanced openToken) :
  Line.indentation resolver.closingToken = []
  := by
  have hends : resolver.EndsOn lines span.first span.boundary span.last := h.ends.1
  simp only [EndsOn, hstrategy] at hends
  obtain ⟨-, -, ⟨line, -, hcloses, -⟩, -⟩ := hends
  apply Line.indentation_of_isPrefix_trim hcloses

/-- The indentation of the first line of a block is a part of the indent.  That of the last
line is exactly the indent if and only if the closing token begins with no space or tab, and
always so with the balanced strategy; otherwise it is longer by these. -/
theorem resolve_indentation (h : (resolver.resolve lines).value = .ok span) :
  Line.At (fun line => line.indentation <+: resolver.indent.text) lines span.first
    ∧ (Line.At (fun line => line.indentation = resolver.indent.text) lines span.last ↔
        ∀ c ∈ resolver.closingToken.head?, Line.isIndentChar c = false)
    ∧ (∀ openToken, resolver.strategy = .balanced openToken →
        Line.At (fun line => line.indentation = resolver.indent.text) lines span.last)
    ∧ Line.At (fun line => line.indentation
        = resolver.indent.text ++ Line.indentation resolver.closingToken) lines span.last
  := by
  have hfinds := resolve_eq_ok_iff.mp h
  obtain ⟨line, hline, hindentation⟩ := hfinds.indentation_last
  have hexact : Line.At (fun line => line.indentation = resolver.indent.text) lines span.last
      ↔ Line.indentation resolver.closingToken = []
    := by
    constructor
    · rintro ⟨other, hother, hexact⟩
      rw [Option.mem_def.mp hline, Option.mem_some_iff] at hother
      subst hother
      rw [hexact] at hindentation
      apply List.self_eq_append_right.mp hindentation
    · intro hnone
      rw [hnone, List.append_nil] at hindentation
      exact ⟨line, hline, hindentation⟩
  refine ⟨hfinds.indented, ?_, ?_, line, hline, hindentation⟩
  · rw [hexact, Line.indentation_eq_nil_iff]
  · intro openToken hstrategy
    apply hexact.mpr (hfinds.indentation_closingToken hstrategy)

end

/-- The last line of the block of the sample is indented by its two spaces. -/
theorem resolve_indentation_sample :
  ((sample .firstExact).resolve sampleLines).value = .ok ⟨1, 4, 7⟩
    ∧ Line.At (fun line => line.indentation = [' ', ' ']) sampleLines 4
  := by
  have h : ((sample .firstExact).resolve sampleLines).value = .ok ⟨1, 4, 7⟩ := rfl
  have hfirst : ∀ c ∈ (sample .firstExact).closingToken.head?, Line.isIndentChar c = false := by
    rintro c ⟨⟩
    rfl
  obtain ⟨-, hexact, -⟩ := resolve_indentation h
  exact ⟨h, hexact.mpr hfirst⟩

/-- A closing token that begins with a space: the block ends on a line that is indented by
one space more than the indent, and not on the next one, which is indented by the indent. -/
theorem resolve_deeper_closing :
  let resolver : Resolver :=
    { sample .firstExact with closingToken := [' ', '<', '/', 'd', '>'] }
  let lines : List Line :=
    [['S', '\n'], [' ', ' ', ' ', '<', '/', 'd', '>', '\n'], [' ', ' ', '<', '/', 'd', '>', '\n'],
      ['E']]
  (resolver.resolve lines).value = .ok ⟨0, 1, 3⟩
    ∧ ¬ Line.At (fun line => line.indentation = resolver.indent.text) lines 1
    ∧ Line.At (fun line => line.indentation = resolver.indent.text) lines 2
  := by
  decide

end Resolver

end Excision
