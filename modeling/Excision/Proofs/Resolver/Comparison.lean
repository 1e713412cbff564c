import Excision.Proofs.Resolver.Strategy

/-!
# The two strategies compared

Resolvers that differ in their strategies alone agree on everything but the closing line
(`Fails.alike`), and a line that ends the block by the balanced strategy has the content of
the closing line, so that the first-exact strategy takes it as well unless there is an
earlier one (`EndsOn.firstExact`).  Hence the balanced strategy never ends a block earlier
than the first-exact one, and finds none where that finds none
(`resolve_firstExact_le_balanced`).  Where the first-exact strategy ends a block at depth one,
the balanced strategy ends it on the same line if the closing token has no blank character at
either end, and finds no block if it has one (`resolve_balanced_eq_firstExact`).
-/

namespace Excision

namespace Resolver

/-- Both resolvers look for the same markers, and for the same closing line. -/
structure Alike (resolver other : Resolver) : Prop where
  startMarker_eq : resolver.startMarker = other.startMarker
  boundaryMarker_eq : resolver.boundaryMarker = other.boundaryMarker
  indent_eq : resolver.indent = other.indent
  closingToken_eq : resolver.closingToken = other.closingToken

/-- The opening token of the strategy, if it has one, is not blank. -/
def OpenTokenUsable (resolver : Resolver) : Prop :=
  ∀ openToken, resolver.strategy = .balanced openToken → ¬ Text.Blank openToken

section

variable {resolver other : Resolver} {lines : List Line} {start boundary index : Nat}

theorem Alike.symm (h : resolver.Alike other) :
  other.Alike resolver
  where
  startMarker_eq := h.startMarker_eq.symm
  boundaryMarker_eq := h.boundaryMarker_eq.symm
  indent_eq := h.indent_eq.symm
  closingToken_eq := h.closingToken_eq.symm

theorem Alike.closingLine_eq (h : resolver.Alike other) :
  resolver.closingLine = other.closingLine
  := by
  rw [closingLine, closingLine, h.indent_eq, h.closingToken_eq]

/-! ### What does not depend on the strategy -/

theorem Usable.alike (h : resolver.Usable) (halike : resolver.Alike other)
    (hopen : other.OpenTokenUsable) :
  other.Usable
  where
  startMarker_ne_nil := halike.startMarker_eq ▸ h.startMarker_ne_nil
  boundaryMarker_ne_nil := halike.boundaryMarker_eq ▸ h.boundaryMarker_ne_nil
  closingToken_ne_nil := halike.closingToken_eq ▸ h.closingToken_ne_nil
  openToken_not_blank := hopen

theorem Unusable.alike {error : BlockError} (h : resolver.Unusable error)
    (halike : resolver.Alike other) (hopen : resolver.OpenTokenUsable) :
  other.Unusable error
  := by
  obtain ⟨hstart_eq, hboundary_eq, -, htoken_eq⟩ := halike
  cases h with
  | startMarker hstart => exact .startMarker (hstart_eq ▸ hstart)
  | boundaryMarker hstart hboundary =>
    exact .boundaryMarker (hstart_eq ▸ hstart) (hboundary_eq ▸ hboundary)
  | closingToken hstart hboundary htoken =>
    exact .closingToken (hstart_eq ▸ hstart) (hboundary_eq ▸ hboundary) (htoken_eq ▸ htoken)
  | openToken _ _ _ hstrategy hblank => exact absurd hblank (hopen _ hstrategy)

theorem Located.alike (h : resolver.Located lines start boundary)
    (halike : resolver.Alike other) :
  other.Located lines start boundary
  where
  isLeast_start := halike.startMarker_eq ▸ h.isLeast_start
  isLeast_boundary := halike.boundaryMarker_eq ▸ h.isLeast_boundary

theorem Unlocated.alike {error : BlockError} (h : resolver.Unlocated lines error)
    (halike : resolver.Alike other) :
  other.Unlocated lines error
  := by
  cases h with
  | start habsent =>
    rw [halike.startMarker_eq] at habsent ⊢
    exact .start habsent
  | boundary hstart habsent =>
    rw [halike.startMarker_eq] at hstart
    rw [halike.boundaryMarker_eq] at habsent ⊢
    exact .boundary hstart habsent

theorem Indented.alike (h : resolver.Indented lines start) (halike : resolver.Alike other) :
  other.Indented lines start
  := by
  unfold Indented at h ⊢
  rwa [← halike.indent_eq]

/-- An error before the search for the closing line does not depend on the strategy. -/
theorem Fails.alike {error : BlockError} (h : resolver.Fails lines error)
    (halike : resolver.Alike other) (hopen : resolver.OpenTokenUsable)
    (hopen' : other.OpenTokenUsable)
    (hearly : ∀ expected first limit, error ≠ .noClosingLine expected first limit) :
  other.Fails lines error
  := by
  cases h with
  | unusable hunusable => exact .unusable (hunusable.alike halike hopen)
  | unlocated husable hunlocated =>
    exact .unlocated (husable.alike halike hopen') (hunlocated.alike halike)
  | misindented husable hlocated hline hindent =>
    rw [halike.indent_eq] at hindent ⊢
    exact .misindented (husable.alike halike hopen') (hlocated.alike halike) hline hindent
  | unclosed => exact absurd rfl (hearly _ _ _)

/-! ### The closing line -/

/-- The first-exact strategy may end a block wherever another strategy does. -/
theorem EndsOn.firstExact (h : resolver.EndsOn lines start boundary index)
    (halike : resolver.Alike other) (hexact : other.strategy = .firstExact) :
  other.EndsOn lines start boundary index
  := by
  simp only [EndsOn, hexact]
  rw [← halike.closingLine_eq]
  exact ⟨h.start_lt, h.lt_boundary, h.content⟩

/-- Where another strategy finds a block, the first-exact strategy finds one that ends no
later. -/
theorem Finds.firstExact {span : Span} (h : resolver.Finds lines span)
    (halike : resolver.Alike other) (hexact : other.strategy = .firstExact)
    (hopen : other.OpenTokenUsable) :
  ∃ last ≤ span.last, other.Finds lines ⟨span.first, last, span.boundary⟩
  := by
  have hends := h.ends.1.firstExact halike hexact
  cases hclosing : other.closing? lines span.first span.boundary with
  | none => exact absurd hends ((closing?_isSearchOf _ _ _ _).none_iff.mp hclosing _)
  | some last =>
    have hleast := (closing?_isSearchOf _ _ _ _).some_iff.mp hclosing
    use last, hleast.2 hends
    exact ⟨h.usable.alike halike hopen, h.located.alike halike, h.indented.alike halike, hleast⟩

/-- Where the first-exact strategy finds no closing line, no other strategy finds one. -/
theorem Fails.of_firstExact {expected : Text} {first limit : Nat}
    (h : other.Fails lines (.noClosingLine expected first limit))
    (halike : resolver.Alike other) (hexact : other.strategy = .firstExact)
    (hopen : resolver.OpenTokenUsable) :
  resolver.Fails lines (.noClosingLine expected first limit)
  := by
  cases h with
  | unusable hunusable => cases hunusable
  | unlocated _ hunlocated => cases hunlocated
  | unclosed husable hlocated hindented habsent =>
    rw [← halike.closingLine_eq]
    apply Fails.unclosed (husable.alike halike.symm hopen) (hlocated.alike halike.symm)
      (hindented.alike halike.symm)
    intro i hends
    apply habsent i (hends.firstExact halike hexact)

end

/-- The balanced strategy never ends a block earlier than the first-exact strategy.  Errors
before the search for the closing line are the same by both.  A block that is found by the
balanced strategy is found by the first-exact one, from the same line on and before the same
boundary line, and it ends on the same line unless a line before that has the content of the
closing line.  Where the first-exact strategy finds no closing line the balanced one finds
none. -/
theorem resolve_firstExact_le_balanced {exact balanced : Resolver} {openToken : Text}
    (hexact : exact.strategy = .firstExact)
    (hbalanced : balanced.strategy = .balanced openToken)
    (hopen : ¬ Text.Blank openToken) (halike : exact.Alike balanced) (lines : List Line) :
  (∀ error, (∀ expected first limit, error ≠ .noClosingLine expected first limit) →
    ((exact.resolve lines).value = .error error
      ↔ (balanced.resolve lines).value = .error error))
  ∧ (∀ span, (balanced.resolve lines).value = .ok span →
      ∃ last ≤ span.last,
        (exact.resolve lines).value = .ok ⟨span.first, last, span.boundary⟩
        ∧ ((∀ i, span.first < i → i < span.last →
            ¬ Line.At (·.content = exact.closingLine) lines i) → last = span.last))
  ∧ (∀ expected first limit,
      (exact.resolve lines).value = .error (.noClosingLine expected first limit) →
      (balanced.resolve lines).value = .error (.noClosingLine expected first limit))
  := by
  have husable : exact.OpenTokenUsable := by
    intro token htoken
    rw [hexact] at htoken
    contradiction
  have husable' : balanced.OpenTokenUsable := by
    intro token htoken
    rw [hbalanced] at htoken
    cases htoken
    apply hopen
  refine ⟨?_, ?_, ?_⟩
  · intro error hearly
    rw [resolve_eq_error_iff, resolve_eq_error_iff]
    constructor
    · intro h
      apply h.alike halike husable husable' hearly
    · intro h
      apply h.alike halike.symm husable' husable hearly
  · intro span hspan
    obtain ⟨last, hle, hfinds⟩ :=
      (resolve_eq_ok_iff.mp hspan).firstExact halike.symm hexact husable
    refine ⟨last, hle, resolve_of_finds hfinds, ?_⟩
    intro hnone
    by_contra hne
    apply hnone last hfinds.ends.1.start_lt (by omega) hfinds.ends.1.content
  · intro expected first limit h
    apply resolve_of_fails
    apply (resolve_eq_error_iff.mp h).of_firstExact halike.symm hexact husable'

/-- On the sample the first-exact strategy ends the block at the closing line of the inner
construct, one line before the balanced one. -/
theorem resolve_firstExact_le_balanced_sample :
  (sample .firstExact).Alike (sample (.balanced ['<', 'd']))
    ∧ ((sample (.balanced ['<', 'd'])).resolve sampleLines).value = .ok ⟨1, 5, 7⟩
    ∧ (∃ last ≤ 5, ((sample .firstExact).resolve sampleLines).value = .ok ⟨1, last, 7⟩)
    ∧ ((sample .firstExact).resolve [['E']]).value
      = .error (.markerNotFound .start ['S'])
    ∧ ((sample (.balanced ['<', 'd'])).resolve [['S'], ['<', 'd', '>'], ['E']]).value
      = .error (.noClosingLine [' ', ' ', '<', '/', 'd', '>'] 1 2)
  := by
  have halike : (sample .firstExact).Alike (sample (.balanced ['<', 'd'])) :=
    ⟨rfl, rfl, rfl, rfl⟩
  have hopen : ¬ Text.Blank ['<', 'd'] := by decide
  have hfound : ((sample (.balanced ['<', 'd'])).resolve sampleLines).value = .ok ⟨1, 5, 7⟩ :=
    rfl
  obtain ⟨-, hspan, -⟩ := resolve_firstExact_le_balanced rfl rfl hopen halike sampleLines
  obtain ⟨hearly, -, -⟩ := resolve_firstExact_le_balanced rfl rfl hopen halike [['E']]
  obtain ⟨-, -, hunclosed⟩ := resolve_firstExact_le_balanced rfl rfl hopen halike
    [['S'], ['<', 'd', '>'], ['E']]
  refine ⟨halike, hfound, ?_, ?_, ?_⟩
  · obtain ⟨last, hle, hexact, -⟩ := hspan _ hfound
    exact ⟨last, hle, hexact⟩
  · apply (hearly _ (by simp)).mpr rfl
  · apply hunclosed _ _ _ rfl

/-! ### The lines that close a block -/

section

variable {resolver : Resolver} {lines : List Line} {span : Span} {openToken : Text}

/-- A line with the content of the closing line closes a construct if and only if the closing
token has no blank character at either end: what is left of the line after trimming is what is
left of the token. -/
theorem closesExactly_iff_trimmed {line : Line} (hline : line.content = resolver.closingLine) :
  resolver.ClosesExactly line ↔ resolver.closingToken.Trimmed
  := by
  constructor
  · rintro ⟨hcloses, -⟩
    rw [Closes, hline, closingLine, Text.trim_append_of_blank (Indent.blank_text _)] at hcloses
    apply Text.trimmed_of_isPrefix_trim hcloses
  · intro htoken
    apply closesExactly_of_content htoken hline

/-- With a closing token that has a blank character at one of its ends, the balanced strategy
takes no line. -/
theorem not_endsOn_of_not_trimmed {start boundary : Nat}
    (hstrategy : resolver.strategy = .balanced openToken)
    (htoken : ¬ resolver.closingToken.Trimmed) (index : Nat) :
  ¬ resolver.EndsOn lines start boundary index
  := by
  intro hends
  simp only [EndsOn, hstrategy] at hends
  obtain ⟨-, -, ⟨line, -, hline⟩, -⟩ := hends
  apply htoken
  apply (closesExactly_iff_trimmed hline.2).mp hline

/-- Where the first-exact strategy ends a block at depth one, the balanced strategy ends it as
well, if the closing token has no blank character at either end. -/
theorem Finds.balanced {other : Resolver} (h : resolver.Finds lines span)
    (halike : resolver.Alike other) (hexact : resolver.strategy = .firstExact)
    (hbalanced : other.strategy = .balanced openToken) (hopen : other.OpenTokenUsable)
    (htoken : other.closingToken.Trimmed)
    (hdepth : other.depth openToken lines span.first span.last = 1) :
  other.Finds lines span
  := by
  refine ⟨h.usable.alike halike hopen, h.located.alike halike, h.indented.alike halike, ?_, ?_⟩
  · obtain ⟨line, hline, hcontent⟩ := h.ends.1.content
    rw [halike.closingLine_eq] at hcontent
    simp only [Set.mem_ofPred_eq, EndsOn, hbalanced]
    exact ⟨h.ends.1.start_lt, h.ends.1.lt_boundary,
      ⟨line, hline, closesExactly_of_content htoken hcontent⟩, hdepth⟩
  · -- An earlier end by the balanced strategy would be one by the first-exact strategy.
    intro index hends
    apply h.ends.2
    apply EndsOn.firstExact hends halike.symm hexact

end

/-- Where the first-exact strategy ends a block at depth one, the balanced strategy finds the
same block if and only if the closing token has no blank character at either end.  With any
other closing token it finds no closing line. -/
theorem resolve_balanced_eq_firstExact {exact balanced : Resolver} {openToken : Text}
    (hexact : exact.strategy = .firstExact)
    (hbalanced : balanced.strategy = .balanced openToken)
    (hopen : ¬ Text.Blank openToken) (halike : exact.Alike balanced)
    {lines : List Line} {span : Span} (hspan : (exact.resolve lines).value = .ok span)
    (hdepth : balanced.depth openToken lines span.first span.last = 1) :
  ((balanced.resolve lines).value = .ok span ↔ balanced.closingToken.Trimmed)
  ∧ (¬ balanced.closingToken.Trimmed →
      (balanced.resolve lines).value
        = .error (.noClosingLine balanced.closingLine (span.first + 1) span.boundary))
  := by
  have hfinds := resolve_eq_ok_iff.mp hspan
  have husable : balanced.OpenTokenUsable := by
    intro token htoken
    rw [hbalanced] at htoken
    cases htoken
    apply hopen
  have hunclosed : ¬ balanced.closingToken.Trimmed →
      balanced.Fails lines
        (.noClosingLine balanced.closingLine (span.first + 1) span.boundary)
    := by
    intro htoken
    apply Fails.unclosed (hfinds.usable.alike halike husable) (hfinds.located.alike halike)
      (hfinds.indented.alike halike)
    apply not_endsOn_of_not_trimmed hbalanced htoken
  refine ⟨⟨?_, ?_⟩, ?_⟩
  · intro h
    by_contra htoken
    rw [resolve_of_fails (hunclosed htoken)] at h
    contradiction
  · intro htoken
    apply resolve_of_finds
    apply hfinds.balanced halike hexact hbalanced husable htoken hdepth
  · intro htoken
    apply resolve_of_fails (hunclosed htoken)

/-- In the sample without its inner opening line both strategies end the block on the first
line with the content of the closing line. -/
theorem resolve_balanced_eq_firstExact_sample :
  ((sample .firstExact).resolve (sampleLines.eraseIdx 3)).value = .ok ⟨1, 3, 6⟩
    ∧ (sample (.balanced ['<', 'd'])).depth ['<', 'd'] (sampleLines.eraseIdx 3) 1 3 = 1
    ∧ ((sample (.balanced ['<', 'd'])).resolve (sampleLines.eraseIdx 3)).value
      = .ok ⟨1, 3, 6⟩
  := by
  have halike : (sample .firstExact).Alike (sample (.balanced ['<', 'd'])) :=
    ⟨rfl, rfl, rfl, rfl⟩
  have hopen : ¬ Text.Blank ['<', 'd'] := by decide
  have hspan : ((sample .firstExact).resolve (sampleLines.eraseIdx 3)).value = .ok ⟨1, 3, 6⟩ :=
    rfl
  have hdepth :
      (sample (.balanced ['<', 'd'])).depth ['<', 'd'] (sampleLines.eraseIdx 3) 1 3 = 1
    := by
    decide
  have htoken : (sample (.balanced ['<', 'd'])).closingToken.Trimmed := by decide
  obtain ⟨hfound, -⟩ := resolve_balanced_eq_firstExact rfl rfl hopen halike hspan hdepth
  exact ⟨hspan, hdepth, hfound.mpr htoken⟩

/-- A closing token that ends with a space: the first-exact strategy ends the block on a line
at depth one, and the balanced strategy finds no closing line. -/
theorem resolve_balanced_padded :
  let exact : Resolver := { sample .firstExact with closingToken := ['<', '/', 'd', '>', ' '] }
  let balanced : Resolver := { exact with strategy := .balanced ['<', 'd'] }
  let lines : List Line :=
    [['S', '\n'], [' ', ' ', '<', 'd', '>', '\n'], [' ', ' ', '<', '/', 'd', '>', ' ', '\n'],
      ['E']]
  exact.validate = .ok () ∧ balanced.validate = .ok ()
    ∧ (exact.resolve lines).value = .ok ⟨0, 2, 3⟩
    ∧ balanced.depth ['<', 'd'] lines 0 2 = 1
    ∧ (balanced.resolve lines).value
      = .error (.noClosingLine [' ', ' ', '<', '/', 'd', '>', ' '] 1 3)
  := by
  decide

end Resolver

end Excision
