import Excision.Proofs.Job.Acceptance
import Excision.Proofs.Resolver.Indentation
import Excision.Proofs.Resolver.Insertion

/-!
# Elements

An element has a name.  Its opening tag begins with `<` and the name, and its closing tag is the
name between `</` and `>`.  A job whose closing token is the closing tag of an element, and which
gives no opening token, has `<` and the name as its opening token, and so it counts the elements
whose names begin with that name: the opening tag of an element opens a construct exactly if its
name begins so and it does not close itself (`opens_iff_of_isOpeningTag`).  Tags of other
elements may stand in a block without changing where it ends
(`resolver_insertIdx_of_element`).
-/

namespace Excision

/-! ### Tags -/

/-- Whether a name ends before this character: it is blank, or `/` or `>`. -/
def endsName (c : Char) : Bool := isBlank c || c == '/' || c == '>'

/-- A text that can be the name of an element. -/
structure IsElementName (name : Text) : Prop where
  /-- There is at least one character. -/
  ne_nil : name ≠ []
  /-- No character ends the name. -/
  unbroken : ∀ c ∈ name, endsName c = false

instance (name : Text) : Decidable (IsElementName name) :=
  decidable_of_iff (name ≠ [] ∧ name.all (!endsName ·) = true) <| by
  simp only [List.all_eq_true, Bool.not_eq_true']
  exact ⟨fun h => ⟨h.1, h.2⟩, fun h => ⟨h.ne_nil, h.unbroken⟩⟩

/-- The closing tag of an element. -/
def closingTag (name : Text) : Text := ['<', '/'] ++ name ++ ['>']

/-- The text is an opening tag of an element: the name ends where the rest of the tag begins,
and in the rest anything may stand. -/
def IsOpeningTag (name text : Text) : Prop :=
  ∃ rest, text = '<' :: (name ++ (rest ++ ['>'])) ∧ ∀ c ∈ rest.head?, endsName c = true

section

variable {name other : Text}

theorem IsElementName.isBlank_eq_false (h : IsElementName name) {c : Char} (hc : c ∈ name) :
  isBlank c = false
  := by
  have hends := h.unbroken c hc
  simp only [endsName, Bool.or_eq_false_iff] at hends
  apply hends.1.1

theorem IsElementName.trim_eq (h : IsElementName name) :
  name.trim = name
  := by
  apply Text.trim_eq_self
  constructor
  · intro c hc
    apply h.isBlank_eq_false (List.mem_of_mem_head? hc)
  · intro c hc
    apply h.isBlank_eq_false (List.mem_of_getLast? hc)

/-- A name that begins a text with another name in front begins that name, if the text goes on
with a character that ends a name. -/
theorem IsElementName.isPrefix_append_iff (h : IsElementName name) {rest : Text}
    (hrest : ∀ c ∈ rest.head?, endsName c = true) :
  name <+: other ++ rest ↔ name <+: other
  := by
  constructor
  · intro hbegins
    obtain hname | ⟨tail, rfl⟩ :=
      List.prefix_or_prefix_of_prefix hbegins (List.prefix_append other rest)
    · apply hname
    · -- What the name has more than the other is the front of the rest, so it is nothing.
      cases tail with
      | nil => simp
      | cons c tail =>
        obtain ⟨back, hback⟩ := (List.prefix_append_right_inj other).mp hbegins
        have hends : endsName c = true := by
          apply hrest
          rw [← hback]
          rfl
        rw [h.unbroken c (by simp)] at hends
        contradiction
  · intro hbegins
    apply hbegins.trans (List.prefix_append other rest)

/-- The opening tag of an element begins with `<` and a name exactly if its name begins with
that name. -/
theorem IsOpeningTag.isPrefix_iff (hname : IsElementName name) {text : Text}
    (h : IsOpeningTag other text) :
  '<' :: name <+: text ↔ name <+: other
  := by
  obtain ⟨rest, rfl, hrest⟩ := h
  rw [List.cons_prefix_cons, eq_self, true_and]
  apply hname.isPrefix_append_iff
  cases rest with
  | nil =>
    rintro c ⟨⟩
    rfl
  | cons d rest => exact hrest

/-- No closing tag begins with `<` and a name. -/
theorem not_isPrefix_closingTag (hname : IsElementName name) :
  ¬ '<' :: name <+: closingTag other
  := by
  obtain ⟨c, rest, rfl⟩ := List.exists_cons_of_ne_nil hname.ne_nil
  intro hbegins
  simp only [closingTag, List.cons_append, List.nil_append, List.cons_prefix_cons] at hbegins
  obtain ⟨-, rfl, -⟩ := hbegins
  have hends := hname.unbroken '/' List.mem_cons_self
  contradiction

end

/-! ### The lines that count -/

/-- What is left of a line after trimming stands in the line. -/
theorem Line.trim_content_isInfix (line : Line) :
  line.content.trim <:+: line
  := by
  obtain ⟨terminator, -, hline⟩ := line.exists_terminator
  have hcontent : line.content <+: line := ⟨terminator, hline.symm⟩
  have hend : line.content.trim <+: line.content.trimStart := Text.trimEnd_prefix _
  have hstart : line.content.trimStart <:+ line.content := Text.trimStart_suffix _
  apply (hend.isInfix.trans hstart.isInfix).trans hcontent.isInfix

namespace Resolver

variable {resolver : Resolver} {name other : Text} {line : Line}
  (hname : IsElementName name) (hnone : ¬ resolver.closingToken <:+: line)

theorem not_closes_of_notInfix (hnone : ¬ resolver.closingToken <:+: line) :
  ¬ resolver.Closes line
  := by
  intro hcloses
  apply hnone
  apply (List.IsPrefix.isInfix hcloses).trans line.trim_content_isInfix

include hname

theorem not_opens_of_closingTag (htag : line.content.trim = closingTag other) :
  ¬ resolver.Opens ('<' :: name) line
  := by
  rintro ⟨hbegins, -⟩
  rw [htag] at hbegins
  apply not_isPrefix_closingTag hname hbegins

include hnone

/-- The opening tag of an element opens a construct exactly if its name begins with the name of
the opening token and it does not close itself. -/
theorem opens_iff_of_isOpeningTag (htag : IsOpeningTag other line.content.trim) :
  resolver.Opens ('<' :: name) line
    ↔ name <+: other ∧ ¬ ['/', '>'] <:+ line.content.trim
  := by
  rw [Opens, htag.isPrefix_iff hname]
  constructor
  · rintro ⟨hbegins, hself, -⟩
    exact ⟨hbegins, hself⟩
  · rintro ⟨hbegins, hself⟩
    refine ⟨hbegins, hself, ?_⟩
    intro hinfix
    apply hnone
    apply hinfix.trans line.trim_content_isInfix

/-- A tag opens no construct if it is a closing tag, or if it closes itself, or if its name does
not begin with the name of the opening token. -/
theorem not_opens_of_tag
    (htag : IsOpeningTag other line.content.trim ∨ line.content.trim = closingTag other)
    (hother : line.content.trim = closingTag other ∨ ['/', '>'] <:+ line.content.trim
      ∨ ¬ name <+: other) :
  ¬ resolver.Opens ('<' :: name) line
  := by
  by_cases htext : line.content.trim = closingTag other
  · apply not_opens_of_closingTag hname htext
  · rw [opens_iff_of_isOpeningTag hname hnone (htag.resolve_right htext)]
    rintro ⟨hbegins, hself⟩
    rcases hother.resolve_left htext with hsuffix | hnot
    · apply hself hsuffix
    · apply hnot hbegins

end Resolver

/-! ### Derived opening tokens -/

namespace Job

/-- From the closing tag of an element `<` and its name is derived. -/
theorem HasStrategy.eq_derived {job : Job} {strategy : Strategy} {name : Text}
    (h : job.HasStrategy strategy) (hstrategy : job.strategy = some .balanced)
    (hopen : job.openToken = none) (hname : IsElementName name)
    (hclosing : job.closing = closingTag name) :
  strategy = .balanced ('<' :: name)
  := by
  cases h with
  | first hfirst =>
    rw [hstrategy] at hfirst
    simp at hfirst
  | given _ hgiven =>
    rw [hopen] at hgiven
    contradiction
  | @derived name' _ _ hclosing' _ =>
    rw [hclosing, closingTag, List.append_cancel_right_eq, List.append_cancel_left_eq]
      at hclosing'
    rw [← hclosing', hname.trim_eq]

/-- Which elements a job with a derived opening token counts.  Let a job with the balanced
strategy and no opening token have the closing tag of an element as its closing token, and let
its resolver find a block.  A line that holds neither the boundary marker nor the closing tag,
and is a tag of some element, may be put anywhere into the block behind its first line: if it
is a closing tag, or an opening tag that closes itself, or an opening tag of an element whose
name does not begin with the name of the closing tag, the block is found with that line in it.
All other opening tags are counted as opening lines. -/
theorem resolver_insertIdx_of_element {job : Job} {name other : Text} {resolver : Resolver}
    {lines : List Line} {span : Span} {line : Line} {place : Nat}
    (hstrategy : job.strategy = some .balanced) (hopen : job.openToken = none)
    (hname : IsElementName name) (hclosing : job.closing = closingTag name)
    (hresolver : job.resolver.value = .ok resolver)
    (hspan : (resolver.resolve lines).value = .ok span)
    (hfirst : span.first < place) (hlast : place ≤ span.last)
    (htag : IsOpeningTag other line.content.trim ∨ line.content.trim = closingTag other)
    (hmarker : ¬ resolver.boundaryMarker <:+: line) (hnone : ¬ closingTag name <:+: line) :
  (line.content.trim = closingTag other ∨ ['/', '>'] <:+ line.content.trim
      ∨ ¬ name <+: other →
    (resolver.resolve (lines.insertIdx place line)).value
      = .ok ⟨span.first, span.last + 1, span.boundary + 1⟩)
  ∧ (IsOpeningTag other line.content.trim → ¬ ['/', '>'] <:+ line.content.trim →
      name <+: other → resolver.Opens ('<' :: name) line)
  := by
  obtain ⟨_, hsettles⟩ := exists_settles_of_value hresolver
  have hbalanced : resolver.strategy = .balanced ('<' :: name) :=
    hsettles.strategy.eq_derived hstrategy hopen hname hclosing
  rw [← hclosing, ← hsettles.closingToken] at hnone
  constructor
  · intro hother
    have hopens : ¬ resolver.Opens ('<' :: name) line :=
      Resolver.not_opens_of_tag hname hnone htag hother
    apply Resolver.resolve_of_finds
    apply (Resolver.resolve_eq_ok_iff.mp hspan).insertIdx hopens
      (Resolver.not_closes_of_notInfix hnone) hbalanced hmarker hfirst hlast
  · intro htag hself hbegins
    apply (Resolver.opens_iff_of_isOpeningTag hname hnone htag).mpr ⟨hbegins, hself⟩

/-- A job that cuts out a block of elements with the name `b`. -/
def elementJob : Job where
  startMarker := some ['S']
  boundaryMarker := some ['E']
  indentWidth := some 2
  closingToken := some (closingTag ['b'])
  strategy := some .balanced

/-- The resolver of the job, with the opening token that is derived. -/
def elementResolver : Resolver :=
  { Resolver.sample (.balanced ['<', 'b']) with closingToken := closingTag ['b'] }

/-- A block with one element. -/
def elementLines : List Line :=
  [['S', '\n'], [' ', ' ', '<', 'b', '>', '\n'], [' ', ' ', '<', '/', 'b', '>', '\n'], ['E']]

/-- The block may have in it the opening tag of an element `i`, which has an attribute, and an
element `br` that closes itself, but the opening tag of an element `br` is counted. -/
theorem resolver_insertIdx_of_element_sample :
  elementJob.resolver.value = .ok elementResolver
    ∧ (elementResolver.resolve elementLines).value = .ok ⟨0, 2, 3⟩
    ∧ (elementResolver.resolve
        (elementLines.insertIdx 2 ['<', 'i', ' ', 'x', '>', '\r', '\n'])).value
      = .ok ⟨0, 3, 4⟩
    ∧ (elementResolver.resolve (elementLines.insertIdx 1 ['<', 'b', 'r', '/', '>', '\n'])).value
      = .ok ⟨0, 3, 4⟩
    ∧ elementResolver.Opens ['<', 'b'] ['<', 'b', 'r', '>', '\n']
  := by
  have hname : IsElementName ['b'] := by decide
  have hresolver : elementJob.resolver.value = .ok elementResolver := by decide
  have hspan : (elementResolver.resolve elementLines).value = .ok ⟨0, 2, 3⟩ := by decide
  refine ⟨hresolver, hspan, ?_, ?_, ?_⟩
  · have htag : IsOpeningTag ['i'] ['<', 'i', ' ', 'x', '>'] := by
      refine ⟨[' ', 'x'], rfl, ?_⟩
      rintro _ ⟨⟩
      rfl
    apply (resolver_insertIdx_of_element rfl rfl hname rfl hresolver hspan (by decide)
      (by decide) (.inl htag) (by decide) (by decide)).1
    exact .inr (.inr (by decide))
  · have htag : IsOpeningTag ['b', 'r'] ['<', 'b', 'r', '/', '>'] := by
      refine ⟨['/'], rfl, ?_⟩
      rintro _ ⟨⟩
      rfl
    apply (resolver_insertIdx_of_element rfl rfl hname rfl hresolver hspan (by decide)
      (by decide) (.inl htag) (by decide) (by decide)).1
    exact .inr (.inl (by decide))
  · have htag : IsOpeningTag ['b', 'r'] ['<', 'b', 'r', '>'] := ⟨[], rfl, by simp⟩
    apply (resolver_insertIdx_of_element rfl rfl hname rfl hresolver hspan Nat.zero_lt_one
      (by decide) (.inl htag) (by decide) (by decide)).2 htag (by decide)
    decide

/-- With the opening tag of an element `br` in it, whose name begins with `b` and is another
one, the block is not found any more. -/
theorem resolver_counts_longer_name :
  let line : Line := ['<', 'b', 'r', '>', '\n']
  elementJob.resolver.value = .ok elementResolver
    ∧ (elementResolver.resolve elementLines).value = .ok ⟨0, 2, 3⟩
    ∧ IsElementName ['b'] ∧ IsElementName ['b', 'r']
    ∧ IsOpeningTag ['b', 'r'] line.content.trim
    ∧ ¬ elementResolver.boundaryMarker <:+: line ∧ ¬ closingTag ['b'] <:+: line
    ∧ (elementResolver.resolve (elementLines.insertIdx 2 line)).value
      = .error (.noClosingLine [' ', ' ', '<', '/', 'b', '>'] 1 4)
  := by
  refine ⟨by decide, by decide, by decide, by decide, ?_, by decide, by decide, by decide⟩
  exact ⟨[], rfl, by simp⟩

end Job

end Excision
