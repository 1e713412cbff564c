import Excision.Proofs.Resolver.Outcome

/-!
# The answers of the two strategies

With the first-exact strategy the block ends on the first line with the exact content of the
closing line (`resolve_firstExact_iff`).  With the balanced strategy it ends on the first
such line that also closes the one construct open before it (`resolve_balanced_iff`).
-/

namespace Excision

namespace Resolver

/-- A resolver for blocks that begin on a line with `S`, stand before one with `E` and end
with `</d>` behind two spaces. -/
def sample (strategy : Strategy) : Resolver where
  startMarker := ['S']
  boundaryMarker := ['E']
  indent := ⟨[' ', ' '], by decide, by decide⟩
  closingToken := ['<', '/', 'd', '>']
  strategy := strategy

/-- A document with two constructs, one in the other, on its lines 2 to 5. The closing lines
of both are indented alike. -/
def sampleLines : List Line :=
  [['A', '\n'], ['S', '\n'], [' ', ' ', '<', 'd', '>', '\n'], ['\t', '<', 'd', '>', '\n'],
    [' ', ' ', '<', '/', 'd', '>', '\n'], [' ', ' ', '<', '/', 'd', '>', '\r', '\n'],
    ['B', '\n'], ['E']]

/-- With the first-exact strategy the answer is a span exactly when no text of the resolver
is empty and its lines are the first with the start marker, the first from there on with the
boundary marker, and the first between them with the content of the closing line, while the
indentation of the start line is a part of the indent. All other answers name the first
condition that fails. -/
theorem resolve_firstExact_iff (resolver : Resolver)
    (hstrategy : resolver.strategy = .firstExact) (lines : List Line) :
  (∀ span, (resolver.resolve lines).value = .ok span ↔
    (resolver.startMarker ≠ [] ∧ resolver.boundaryMarker ≠ [] ∧ resolver.closingToken ≠ [])
    ∧ IsLeast {i | Line.At (resolver.startMarker <:+: ·) lines i} span.first
    ∧ IsLeast {i | span.first ≤ i ∧ Line.At (resolver.boundaryMarker <:+: ·) lines i}
        span.boundary
    ∧ Line.At (fun line => line.indentation <+: resolver.indent.text) lines span.first
    ∧ IsLeast {i | span.first < i ∧ i < span.boundary
        ∧ Line.At (·.content = resolver.indent.text ++ resolver.closingToken) lines i}
        span.last)
  ∧ ∀ error, (resolver.resolve lines).value = .error error ↔ resolver.Fails lines error
  := by
  constructor
  · intro span
    have hends (index : Nat) :
        resolver.EndsOn lines span.first span.boundary index
          ↔ span.first < index ∧ index < span.boundary
            ∧ Line.At (·.content = resolver.closingLine) lines index
      := by
      simp only [EndsOn, hstrategy]
    rw [resolve_eq_ok_iff]
    constructor
    · rintro ⟨husable, hlocated, hindented, hleast⟩
      simp only [hends] at hleast
      exact ⟨⟨husable.startMarker_ne_nil, husable.boundaryMarker_ne_nil,
        husable.closingToken_ne_nil⟩, hlocated.isLeast_start, hlocated.isLeast_boundary,
        hindented, hleast⟩
    · rintro ⟨⟨hstart, hboundary, htoken⟩, hfirst, hbound, hindented, hleast⟩
      refine ⟨⟨hstart, hboundary, htoken, ?_⟩, ⟨hfirst, hbound⟩, hindented, ?_⟩
      · intro openToken hbalanced
        rw [hstrategy] at hbalanced
        contradiction
      · simp only [hends]
        apply hleast
  · intro error
    apply resolve_eq_error_iff

/-- Line 4 of the sample is the first with the content of the closing line. -/
theorem resolve_firstExact_sample :
  (sample .firstExact).strategy = .firstExact
    ∧ ((sample .firstExact).resolve sampleLines).value = .ok ⟨1, 4, 7⟩
    ∧ IsLeast {i | 1 < i ∧ i < 7
        ∧ Line.At (·.content = [' ', ' '] ++ ['<', '/', 'd', '>']) sampleLines i} 4
  := by
  refine ⟨rfl, rfl, ?_⟩
  have h := (resolve_firstExact_iff (sample .firstExact) rfl sampleLines).1 ⟨1, 4, 7⟩
  apply (h.mp rfl).2.2.2.2

/-- With the balanced strategy no line both closes and opens a construct. When the settings
pass and both markers and the start line are in order, the answer is the span that ends on
the first line that closes the block, after which no construct is open, and without such a
line the error that names the lines searched. A blank opening token is an error of its
own. -/
theorem resolve_balanced_iff (resolver : Resolver) {openToken : Text}
    (hstrategy : resolver.strategy = .balanced openToken) (lines : List Line) :
  (∀ line, ¬ (resolver.Closes line ∧ resolver.Opens openToken line))
  ∧ (∀ start boundary, resolver.validate = .ok () → resolver.Located lines start boundary →
      resolver.Indented lines start →
      (∀ span, (resolver.resolve lines).value = .ok span ↔
        span.first = start ∧ span.boundary = boundary
          ∧ IsLeast {i | resolver.ClosesBlock openToken lines start boundary i} span.last)
      ∧ (∀ span, (resolver.resolve lines).value = .ok span →
          resolver.depth openToken lines start (span.last + 1) = 0)
      ∧ ((∀ i, ¬ resolver.ClosesBlock openToken lines start boundary i) →
          (resolver.resolve lines).value
            = .error (.noClosingLine resolver.closingLine (start + 1) boundary)))
  ∧ (resolver.startMarker ≠ [] → resolver.boundaryMarker ≠ [] →
      resolver.closingToken ≠ [] → Text.Blank openToken →
      (resolver.resolve lines).value = .error .blankOpenToken)
  := by
  have hends (start boundary index : Nat) :
      resolver.EndsOn lines start boundary index
        ↔ resolver.ClosesBlock openToken lines start boundary index
    := by
    simp only [EndsOn, hstrategy]
  refine ⟨?_, ?_, ?_⟩
  · rintro line ⟨hcloses, hopens⟩
    apply not_closes_of_opens hopens hcloses
  · intro start boundary hvalidate hlocated hindented
    have husable := validate_eq_ok_iff.mp hvalidate
    have hok (span : Span) :
        (resolver.resolve lines).value = .ok span ↔
          span.first = start ∧ span.boundary = boundary
            ∧ IsLeast {i | resolver.ClosesBlock openToken lines start boundary i} span.last
      := by
      rw [resolve_eq_ok_iff]
      constructor
      · rintro ⟨-, hother, -, hleast⟩
        obtain ⟨rfl, rfl⟩ := hother.unique hlocated
        simp only [hends] at hleast
        exact ⟨rfl, rfl, hleast⟩
      · rintro ⟨rfl, rfl, hleast⟩
        refine ⟨husable, hlocated, hindented, ?_⟩
        simp only [hends]
        apply hleast
    refine ⟨hok, ?_, ?_⟩
    · intro span hspan
      obtain ⟨-, -, hleast⟩ := (hok span).mp hspan
      apply ClosesBlock.depth_succ hleast.1
    · intro habsent
      apply resolve_of_fails
      apply Fails.unclosed husable hlocated hindented
      intro i
      rw [hends]
      apply habsent i
  · intro hstart hboundary htoken hblank
    apply resolve_of_fails
    apply Fails.unusable
    exact .openToken hstart hboundary htoken hstrategy hblank

/-- Line 4 of the sample closes the inner construct and line 5 the block. A blank opening
token is refused. -/
theorem resolve_balanced_sample :
  (sample (.balanced ['<', 'd'])).strategy = .balanced ['<', 'd']
    ∧ (sample (.balanced ['<', 'd'])).validate = .ok ()
    ∧ (sample (.balanced ['<', 'd'])).Located sampleLines 1 7
    ∧ (sample (.balanced ['<', 'd'])).Indented sampleLines 1
    ∧ ((sample (.balanced ['<', 'd'])).resolve sampleLines).value = .ok ⟨1, 5, 7⟩
    ∧ IsLeast {i | (sample (.balanced ['<', 'd'])).ClosesBlock ['<', 'd'] sampleLines 1 7 i} 5
    ∧ (sample (.balanced ['<', 'd'])).depth ['<', 'd'] sampleLines 1 6 = 0
    ∧ ((sample (.balanced [' '])).resolve sampleLines).value = .error .blankOpenToken
  := by
  have hlocated : (sample (.balanced ['<', 'd'])).Located sampleLines 1 7 :=
    locate_eq_ok_iff.mp rfl
  have hindented : (sample (.balanced ['<', 'd'])).Indented sampleLines 1 := by decide
  have hfound : ((sample (.balanced ['<', 'd'])).resolve sampleLines).value = .ok ⟨1, 5, 7⟩ :=
    rfl
  obtain ⟨-, h, -⟩ := resolve_balanced_iff (sample (.balanced ['<', 'd'])) rfl sampleLines
  obtain ⟨hok, hclosed, -⟩ := h 1 7 rfl hlocated hindented
  obtain ⟨-, -, hblank⟩ := resolve_balanced_iff (sample (.balanced [' '])) rfl sampleLines
  refine ⟨rfl, rfl, hlocated, hindented, hfound, ?_, ?_, ?_⟩
  · apply ((hok ⟨1, 5, 7⟩).mp hfound).2.2
  · apply hclosed _ hfound
  · apply hblank (by decide) (by decide) (by decide) (by decide)

end Resolver

end Excision
