import Excision.Proofs.Resolver.Depth

/-!
# Outcomes

What a resolver answers, said without its searches.  `Finds` says when a span is the answer
and `Fails` when an error is: each names what the resolver checks before and what then holds
or is missing.  Every answer is the one that they name (`resolve_eq_ok_iff`,
`resolve_eq_error_iff`), so no two of them ever hold together.  For the two strategies the
answers are written out in `Excision.Proofs.Resolver.Strategy`.
-/

namespace Excision

namespace Resolver

/-! ### The settings -/

/-- All settings can be used. -/
structure Usable (resolver : Resolver) : Prop where
  /-- The start marker is not empty. -/
  startMarker_ne_nil : resolver.startMarker ≠ []
  /-- The boundary marker is not empty. -/
  boundaryMarker_ne_nil : resolver.boundaryMarker ≠ []
  /-- The closing token is not empty. -/
  closingToken_ne_nil : resolver.closingToken ≠ []
  /-- The opening token, if the strategy has one, is not blank. -/
  openToken_not_blank :
    ∀ openToken, resolver.strategy = .balanced openToken → ¬ Text.Blank openToken

/-- The error names the first setting that cannot be used. -/
inductive Unusable (resolver : Resolver) : BlockError → Prop where
  | startMarker (hstart : resolver.startMarker = []) :
      Unusable resolver (.emptyMarker .start)
  | boundaryMarker (hstart : resolver.startMarker ≠ [])
      (hboundary : resolver.boundaryMarker = []) :
      Unusable resolver (.emptyMarker .boundary)
  | closingToken (hstart : resolver.startMarker ≠ [])
      (hboundary : resolver.boundaryMarker ≠ []) (htoken : resolver.closingToken = []) :
      Unusable resolver .emptyClosingToken
  | openToken {openToken : Text} (hstart : resolver.startMarker ≠ [])
      (hboundary : resolver.boundaryMarker ≠ []) (htoken : resolver.closingToken ≠ [])
      (hstrategy : resolver.strategy = .balanced openToken)
      (hblank : Text.Blank openToken) :
      Unusable resolver .blankOpenToken

theorem validate_eq_ok_iff {resolver : Resolver} :
  resolver.validate = .ok () ↔ resolver.Usable
  := by
  constructor
  · intro h
    unfold validate at h
    split at h
    · contradiction
    split at h
    · contradiction
    split at h
    · contradiction
    next hstart hboundary htoken =>
      refine ⟨hstart, hboundary, htoken, ?_⟩
      intro openToken hstrategy hblank
      rw [hstrategy] at h
      simp [Text.isBlankText_iff.mpr hblank] at h
  · rintro ⟨hstart, hboundary, htoken, hopen⟩
    unfold validate
    rw [if_neg hstart, if_neg hboundary, if_neg htoken]
    split
    next => rfl
    next openToken hstrategy =>
      rw [if_neg]
      rw [Text.isBlankText_iff]
      apply hopen openToken hstrategy

theorem validate_eq_error_iff {resolver : Resolver} {error : BlockError} :
  resolver.validate = .error error ↔ resolver.Unusable error
  := by
  constructor
  · intro h
    unfold validate at h
    split at h
    next hstart =>
      cases h
      exact .startMarker hstart
    next hstart =>
      split at h
      next hboundary =>
        cases h
        exact .boundaryMarker hstart hboundary
      next hboundary =>
        split at h
        next htoken =>
          cases h
          exact .closingToken hstart hboundary htoken
        next htoken =>
          split at h
          next => contradiction
          next openToken hstrategy =>
            split at h
            next hblank =>
              cases h
              exact .openToken hstart hboundary htoken hstrategy
                (Text.isBlankText_iff.mp hblank)
            next => contradiction
  · rintro (hstart | ⟨hstart, hboundary⟩ | ⟨hstart, hboundary, htoken⟩
      | ⟨hstart, hboundary, htoken, hstrategy, hblank⟩)
    · simp [validate, hstart]
    · simp [validate, hstart, hboundary]
    · simp [validate, hstart, hboundary, htoken]
    · simp [validate, hstart, hboundary, htoken, hstrategy, Text.isBlankText_iff.mpr hblank]

/-! ### The markers -/

/-- The start marker first stands on line `start`, and the boundary marker, from there on,
first on line `boundary`. -/
structure Located (resolver : Resolver) (lines : List Line) (start boundary : Nat) :
    Prop where
  /-- Line `start` is the first that holds the start marker. -/
  isLeast_start : IsLeast {i | Line.At (resolver.startMarker <:+: ·) lines i} start
  /-- Line `boundary` is the first from there on that holds the boundary marker. -/
  isLeast_boundary :
    IsLeast {i | start ≤ i ∧ Line.At (resolver.boundaryMarker <:+: ·) lines i} boundary

theorem Located.unique {resolver : Resolver} {lines : List Line}
    {start start' boundary boundary' : Nat} (h : resolver.Located lines start boundary)
    (h' : resolver.Located lines start' boundary') :
  start = start' ∧ boundary = boundary'
  := by
  obtain rfl := h.isLeast_start.unique h'.isLeast_start
  obtain rfl := h.isLeast_boundary.unique h'.isLeast_boundary
  exact ⟨rfl, rfl⟩

/-- The error names the first marker that stands on no line. -/
inductive Unlocated (resolver : Resolver) (lines : List Line) : BlockError → Prop where
  | start (habsent : ∀ i, ¬ Line.At (resolver.startMarker <:+: ·) lines i) :
      Unlocated resolver lines (.markerNotFound .start resolver.startMarker)
  | boundary {start : Nat}
      (hstart : IsLeast {i | Line.At (resolver.startMarker <:+: ·) lines i} start)
      (habsent : ∀ i, start ≤ i → ¬ Line.At (resolver.boundaryMarker <:+: ·) lines i) :
      Unlocated resolver lines (.markerNotFound .boundary resolver.boundaryMarker)

/-- The search for the start marker runs over all lines. -/
theorem findStart_isSearchOf (resolver : Resolver) (lines : List Line) :
  IsSearchOf (findMarker? lines 0 resolver.startMarker)
    {i | Line.At (resolver.startMarker <:+: ·) lines i}
  := by
  apply (findMarker?_isSearchOf lines 0 resolver.startMarker).congr
  simp

theorem locate_eq_ok_iff {resolver : Resolver} {lines : List Line} {start boundary : Nat} :
  resolver.locate lines = .ok (start, boundary) ↔ resolver.Located lines start boundary
  := by
  constructor
  · intro h
    unfold locate at h
    split at h
    next => contradiction
    next hstart =>
      split at h
      next => contradiction
      next hboundary =>
        cases h
        exact ⟨(findStart_isSearchOf _ _).some_iff.mp hstart,
          (findMarker?_isSearchOf _ _ _).some_iff.mp hboundary⟩
  · rintro ⟨hstart, hboundary⟩
    simp only [locate, (findStart_isSearchOf _ _).some_iff.mpr hstart,
      (findMarker?_isSearchOf _ _ _).some_iff.mpr hboundary]

theorem locate_eq_error_iff {resolver : Resolver} {lines : List Line} {error : BlockError} :
  resolver.locate lines = .error error ↔ resolver.Unlocated lines error
  := by
  constructor
  · intro h
    unfold locate at h
    split at h
    next hstart =>
      cases h
      exact .start ((findStart_isSearchOf _ _).none_iff.mp hstart)
    next hstart =>
      split at h
      next hboundary =>
        cases h
        apply Unlocated.boundary ((findStart_isSearchOf _ _).some_iff.mp hstart)
        intro i hle hline
        apply (findMarker?_isSearchOf _ _ _).none_iff.mp hboundary i ⟨hle, hline⟩
      next => contradiction
  · rintro (habsent | ⟨hstart, habsent⟩)
    · simp only [locate, (findStart_isSearchOf _ _).none_iff.mpr habsent]
    · have hboundary :=
        (findMarker?_isSearchOf _ _ _).none_iff.mpr fun i hi => habsent i hi.1 hi.2
      simp only [locate, (findStart_isSearchOf _ _).some_iff.mpr hstart, hboundary]

/-! ### The start line -/

/-- The start line is indented by a part of the indent. -/
def Indented (resolver : Resolver) (lines : List Line) (start : Nat) : Prop :=
  Line.At (fun line => line.indentation <+: resolver.indent.text) lines start

instance (resolver : Resolver) (lines : List Line) (start : Nat) :
    Decidable (resolver.Indented lines start) :=
  inferInstanceAs (Decidable (Line.At _ lines start))

theorem checkIndent_eq {resolver : Resolver} {lines : List Line} {start : Nat} {line : Line}
    (hline : lines[start]? = some line) :
  resolver.checkIndent lines start
    = if line.indentation <+: resolver.indent.text then .ok ()
      else .error (.indentMismatch start line.indentation resolver.indent.text)
  := by
  unfold checkIndent
  rw [List.getD_eq_getElem?_getD, hline, Option.getD_some]
  simp only [Text.startsWith_iff]

theorem checkIndent_eq_ok {resolver : Resolver} {lines : List Line} {start : Nat}
    (h : resolver.Indented lines start) :
  resolver.checkIndent lines start = .ok ()
  := by
  obtain ⟨line, hline, hprefix⟩ := h
  rw [checkIndent_eq hline, if_pos hprefix]

/-! ### The closing line -/

/-- The block that begins on line `start` may end on line `index`: the line stands between
the markers and satisfies the rule of the strategy. -/
def EndsOn (resolver : Resolver) (lines : List Line) (start boundary index : Nat) : Prop :=
  match resolver.strategy with
  | .firstExact =>
    start < index ∧ index < boundary
      ∧ Line.At (·.content = resolver.closingLine) lines index
  | .balanced openToken => resolver.ClosesBlock openToken lines start boundary index

/-- By either strategy the last line of the block is the first on which it may end. -/
theorem closing?_isSearchOf (resolver : Resolver) (lines : List Line)
    (start boundary : Nat) :
  IsSearchOf (resolver.closing? lines start boundary)
    {i | resolver.EndsOn lines start boundary i}
  := by
  cases hstrategy : resolver.strategy with
  | firstExact =>
    simp only [closing?, EndsOn, hstrategy]
    apply firstExact?_isSearchOf
  | balanced openToken =>
    simp only [closing?, EndsOn, hstrategy]
    apply balanced?_isSearchOf

theorem EndsOn.start_lt {resolver : Resolver} {lines : List Line}
    {start boundary index : Nat} (h : resolver.EndsOn lines start boundary index) :
  start < index
  := by
  unfold EndsOn at h
  split at h
  · apply h.1
  · apply h.1

theorem EndsOn.lt_boundary {resolver : Resolver} {lines : List Line}
    {start boundary index : Nat} (h : resolver.EndsOn lines start boundary index) :
  index < boundary
  := by
  unfold EndsOn at h
  split at h
  · apply h.2.1
  · apply h.2.1

/-- By either strategy the last line of a block has the content of the closing line. -/
theorem EndsOn.content {resolver : Resolver} {lines : List Line}
    {start boundary index : Nat} (h : resolver.EndsOn lines start boundary index) :
  Line.At (·.content = resolver.closingLine) lines index
  := by
  unfold EndsOn at h
  split at h
  · apply h.2.2
  · obtain ⟨-, -, ⟨line, hline, -, hcontent⟩, -⟩ := h
    exact ⟨line, hline, hcontent⟩

/-! ### The answer -/

/-- The span is that of the block in `lines`. -/
structure Finds (resolver : Resolver) (lines : List Line) (span : Span) : Prop where
  /-- The settings can be used. -/
  usable : resolver.Usable
  /-- The markers stand on the first and on the boundary line of the span. -/
  located : resolver.Located lines span.first span.boundary
  /-- The start line is indented by a part of the indent. -/
  indented : resolver.Indented lines span.first
  /-- The last line is the first on which the block may end. -/
  ends : IsLeast {i | resolver.EndsOn lines span.first span.boundary i} span.last

/-- The error names the first thing that keeps the resolver from finding a block. -/
inductive Fails (resolver : Resolver) (lines : List Line) : BlockError → Prop where
  | unusable {error : BlockError} (hunusable : resolver.Unusable error) :
      Fails resolver lines error
  | unlocated {error : BlockError} (husable : resolver.Usable)
      (hunlocated : resolver.Unlocated lines error) :
      Fails resolver lines error
  | misindented {start boundary : Nat} {line : Line} (husable : resolver.Usable)
      (hlocated : resolver.Located lines start boundary) (hline : lines[start]? = some line)
      (hindent : ¬ line.indentation <+: resolver.indent.text) :
      Fails resolver lines
        (.indentMismatch start line.indentation resolver.indent.text)
  | unclosed {start boundary : Nat} (husable : resolver.Usable)
      (hlocated : resolver.Located lines start boundary)
      (hindented : resolver.Indented lines start)
      (habsent : ∀ i, ¬ resolver.EndsOn lines start boundary i) :
      Fails resolver lines (.noClosingLine resolver.closingLine (start + 1) boundary)

theorem resolve_of_finds {resolver : Resolver} {lines : List Line} {span : Span}
    (h : resolver.Finds lines span) :
  (resolver.resolve lines).value = .ok span
  := by
  simp only [resolve, validate_eq_ok_iff.mpr h.usable, locate_eq_ok_iff.mpr h.located,
    checkIndent_eq_ok h.indented, (closing?_isSearchOf _ _ _ _).some_iff.mpr h.ends]

theorem resolve_of_fails {resolver : Resolver} {lines : List Line} {error : BlockError}
    (h : resolver.Fails lines error) :
  (resolver.resolve lines).value = .error error
  := by
  cases h with
  | unusable hunusable =>
    simp only [resolve, validate_eq_error_iff.mpr hunusable, Logged.quiet]
  | unlocated husable hunlocated =>
    simp only [resolve, validate_eq_ok_iff.mpr husable, locate_eq_error_iff.mpr hunlocated,
      Logged.quiet]
  | misindented husable hlocated hline hindent =>
    simp only [resolve, validate_eq_ok_iff.mpr husable, locate_eq_ok_iff.mpr hlocated,
      checkIndent_eq hline, if_neg hindent]
  | unclosed husable hlocated hindented habsent =>
    simp only [resolve, validate_eq_ok_iff.mpr husable, locate_eq_ok_iff.mpr hlocated,
      checkIndent_eq_ok hindented, (closing?_isSearchOf _ _ _ _).none_iff.mpr habsent]

/-- Some answer always applies, for each stage either passes or fails. -/
theorem finds_or_fails (resolver : Resolver) (lines : List Line) :
  (∃ span, resolver.Finds lines span) ∨ ∃ error, resolver.Fails lines error
  := by
  cases hvalidate : resolver.validate with
  | error error => exact .inr ⟨error, .unusable (validate_eq_error_iff.mp hvalidate)⟩
  | ok =>
  have husable := validate_eq_ok_iff.mp hvalidate
  cases hlocate : resolver.locate lines with
  | error error => exact .inr ⟨error, .unlocated husable (locate_eq_error_iff.mp hlocate)⟩
  | ok markers =>
  obtain ⟨start, boundary⟩ := markers
  have hlocated := locate_eq_ok_iff.mp hlocate
  obtain ⟨line, hline, -⟩ := hlocated.isLeast_start.1
  by_cases hindent : line.indentation <+: resolver.indent.text
  · have hindented : resolver.Indented lines start := ⟨line, hline, hindent⟩
    cases hclosing : resolver.closing? lines start boundary with
    | none =>
      exact .inr ⟨_, .unclosed husable hlocated hindented
        ((closing?_isSearchOf _ _ _ _).none_iff.mp hclosing)⟩
    | some last =>
      exact .inl ⟨⟨start, last, boundary⟩, husable, hlocated, hindented,
        (closing?_isSearchOf _ _ _ _).some_iff.mp hclosing⟩
  · exact .inr ⟨_, .misindented husable hlocated hline hindent⟩

/-- The resolver answers with a span exactly when it is that of the block. -/
theorem resolve_eq_ok_iff {resolver : Resolver} {lines : List Line} {span : Span} :
  (resolver.resolve lines).value = .ok span ↔ resolver.Finds lines span
  := by
  constructor
  · intro h
    obtain ⟨other, hother⟩ | ⟨error, herror⟩ := resolver.finds_or_fails lines
    · rw [resolve_of_finds hother] at h
      cases h
      apply hother
    · rw [resolve_of_fails herror] at h
      contradiction
  · apply resolve_of_finds

/-- The resolver answers with an error exactly when it names what is missing first. -/
theorem resolve_eq_error_iff {resolver : Resolver} {lines : List Line} {error : BlockError} :
  (resolver.resolve lines).value = .error error ↔ resolver.Fails lines error
  := by
  constructor
  · intro h
    obtain ⟨span, hspan⟩ | ⟨other, hother⟩ := resolver.finds_or_fails lines
    · rw [resolve_of_finds hspan] at h
      contradiction
    · rw [resolve_of_fails hother] at h
      cases h
      apply hother
  · apply resolve_of_fails

end Resolver

end Excision
