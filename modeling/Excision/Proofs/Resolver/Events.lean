import Excision.Proofs.Resolver.Outcome

/-!
# Events of a search

What a resolver tells the log while it looks for a block.  `Tells` names the events that come
with an answer, stage by stage, and every search answers and tells as it says
(`resolve_eq_iff_tells`).  The check of the line after the start marker adds at most one event
and decides nothing: no other stage reads the expected opening, so that with another one, or
with none, the answer is the same and the log differs in that event alone
(`resolve_expecting`).
-/

namespace Excision

/-- The event reports that the expected opening is missing. -/
def BlockEvent.isOpeningMissing : BlockEvent → Bool
  | openingMissing _ _ _ => true
  | _ => false

@[simp] theorem BlockEvent.isOpeningMissing_markersLocated (start boundary : Nat) :
  (markersLocated start boundary).isOpeningMissing = false
  := rfl

@[simp] theorem BlockEvent.isOpeningMissing_openingMissing (line : Nat) (expected : Text)
    (found : Option Text) :
  (openingMissing line expected found).isOpeningMissing = true
  := rfl

@[simp] theorem BlockEvent.isOpeningMissing_spanResolved (span : Span) (strategy : Strategy) :
  (spanResolved span strategy).isOpeningMissing = false
  := rfl

namespace Resolver

/-- The same resolver with another expected opening, or with none. -/
def expecting (resolver : Resolver) (expected : Option Text) : Resolver :=
  { resolver with expectOpening := expected }

/-- What the log tells of the opening of the block that begins on line `start`.  The line that
counts is the next one of the document, wherever the boundary line is. -/
inductive OpeningRemarks (resolver : Resolver) (lines : List Line) (start : Nat) :
    List BlockEvent → Prop where
  /-- No opening is expected. -/
  | unexpected (hnone : resolver.expectOpening = none) : OpeningRemarks resolver lines start []
  /-- The next line holds the trimmed text. -/
  | present {text : Text} (hexpected : resolver.expectOpening = some text)
      (hnext : Line.At (text.trim <:+: ·) lines (start + 1)) :
      OpeningRemarks resolver lines start []
  /-- There is no next line, or it does not hold the trimmed text. -/
  | missing {text : Text} (hexpected : resolver.expectOpening = some text)
      (hnext : ¬ Line.At (text.trim <:+: ·) lines (start + 1)) :
      OpeningRemarks resolver lines start
        [.openingMissing (start + 1) text.trim (lines[start + 1]?.map Line.content)]

/-- The answer of a search and the events that come with it. -/
inductive Tells (resolver : Resolver) (lines : List Line) :
    Except BlockError Span → List BlockEvent → Prop where
  /-- Nothing is told of settings that cannot be used. -/
  | unusable {error : BlockError} (hunusable : resolver.Unusable error) :
      Tells resolver lines (.error error) []
  /-- Nothing is told of a marker that stands on no line. -/
  | unlocated {error : BlockError} (husable : resolver.Usable)
      (hunlocated : resolver.Unlocated lines error) :
      Tells resolver lines (.error error) []
  /-- The opening is not looked at if the start line is not indented as it should be. -/
  | misindented {start boundary : Nat} {line : Line} (husable : resolver.Usable)
      (hlocated : resolver.Located lines start boundary) (hline : lines[start]? = some line)
      (hindent : ¬ line.indentation <+: resolver.indent.text) :
      Tells resolver lines
        (.error (.indentMismatch start line.indentation resolver.indent.text))
        [.markersLocated start boundary]
  /-- The opening is looked at before the closing line. -/
  | unclosed {start boundary : Nat} {remarks : List BlockEvent} (husable : resolver.Usable)
      (hlocated : resolver.Located lines start boundary)
      (hindented : resolver.Indented lines start)
      (habsent : ∀ i, ¬ resolver.EndsOn lines start boundary i)
      (hremarks : resolver.OpeningRemarks lines start remarks) :
      Tells resolver lines
        (.error (.noClosingLine resolver.closingLine (start + 1) boundary))
        (.markersLocated start boundary :: remarks)
  /-- A block that is found is told last. -/
  | found {span : Span} {remarks : List BlockEvent} (hfinds : resolver.Finds lines span)
      (hremarks : resolver.OpeningRemarks lines span.first remarks) :
      Tells resolver lines (.ok span)
        (.markersLocated span.first span.boundary ::
          (remarks ++ [.spanResolved span resolver.strategy]))

section

variable {resolver : Resolver} {lines : List Line} {start : Nat}

/-! ### The opening -/

/-- The line after line `start` is there and holds a text. -/
theorem any_holds_iff {expected : Text} :
  lines[start + 1]?.any (Text.holds expected) = true
    ↔ Line.At (expected <:+: ·) lines (start + 1)
  := by
  simp only [Option.any_eq_true, Text.holds_iff, Line.At, Option.mem_def]

/-- The check of the opening tells what there is to tell. -/
theorem openingRemarks_iff {remarks : List BlockEvent} :
  resolver.OpeningRemarks lines start remarks ↔ resolver.openingEvents lines start = remarks
  := by
  constructor
  · rintro (hnone | ⟨hexpected, hnext⟩ | ⟨hexpected, hnext⟩)
    · simp only [openingEvents, hnone]
    · simp only [openingEvents, hexpected, any_holds_iff.mpr hnext, if_true]
    · rw [← any_holds_iff] at hnext
      simp only [openingEvents, hexpected, if_neg hnext]
  · rintro rfl
    unfold openingEvents
    split
    next hnone => exact .unexpected hnone
    next text hexpected =>
      dsimp only
      split
      next hnext => exact .present hexpected (any_holds_iff.mp hnext)
      next hnext => exact .missing hexpected (any_holds_iff.not.mp hnext)

theorem OpeningRemarks.isOpeningMissing {remarks : List BlockEvent}
    (h : resolver.OpeningRemarks lines start remarks) :
  ∀ event ∈ remarks, event.isOpeningMissing = true
  := by
  cases h with
  | unexpected => simp
  | present => simp
  | missing => simp

theorem OpeningRemarks.length_le {remarks : List BlockEvent}
    (h : resolver.OpeningRemarks lines start remarks) :
  remarks.length ≤ 1
  := by
  cases h with
  | unexpected => apply Nat.zero_le
  | present => apply Nat.zero_le
  | missing => apply le_rfl

theorem OpeningRemarks.ne_nil_iff {remarks : List BlockEvent}
    (h : resolver.OpeningRemarks lines start remarks) :
  remarks ≠ [] ↔ ∃ text, resolver.expectOpening = some text
    ∧ ¬ Line.At (text.trim <:+: ·) lines (start + 1)
  := by
  cases h with
  | unexpected hnone => simp [hnone]
  | present hexpected hnext => simp [hexpected, hnext]
  | missing hexpected hnext => simp [hexpected, hnext]

/-! ### The log of a search -/

theorem resolve_of_tells {answer : Except BlockError Span} {events : List BlockEvent}
    (h : resolver.Tells lines answer events) :
  resolver.resolve lines = ⟨answer, events⟩
  := by
  cases h with
  | unusable hunusable =>
    simp only [resolve, validate_eq_error_iff.mpr hunusable, Logged.quiet]
  | unlocated husable hunlocated =>
    simp only [resolve, validate_eq_ok_iff.mpr husable, locate_eq_error_iff.mpr hunlocated,
      Logged.quiet]
  | misindented husable hlocated hline hindent =>
    simp only [resolve, validate_eq_ok_iff.mpr husable, locate_eq_ok_iff.mpr hlocated,
      checkIndent_eq hline, if_neg hindent]
  | unclosed husable hlocated hindented habsent hremarks =>
    simp only [resolve, validate_eq_ok_iff.mpr husable, locate_eq_ok_iff.mpr hlocated,
      checkIndent_eq_ok hindented, (closing?_isSearchOf _ _ _ _).none_iff.mpr habsent,
      openingRemarks_iff.mp hremarks, List.singleton_append]
  | found hfinds hremarks =>
    simp only [resolve, validate_eq_ok_iff.mpr hfinds.usable,
      locate_eq_ok_iff.mpr hfinds.located, checkIndent_eq_ok hfinds.indented,
      (closing?_isSearchOf _ _ _ _).some_iff.mpr hfinds.ends, openingRemarks_iff.mp hremarks,
      List.cons_append, List.nil_append]

theorem exists_tells (resolver : Resolver) (lines : List Line) :
  ∃ answer events, resolver.Tells lines answer events
  := by
  have hremarks (start : Nat) :
      resolver.OpeningRemarks lines start (resolver.openingEvents lines start) :=
    openingRemarks_iff.mpr rfl
  obtain ⟨span, hfinds⟩ | ⟨error, hfails⟩ := resolver.finds_or_fails lines
  · exact ⟨_, _, .found hfinds (hremarks _)⟩
  · cases hfails with
    | unusable hunusable => exact ⟨_, _, .unusable hunusable⟩
    | unlocated husable hunlocated => exact ⟨_, _, .unlocated husable hunlocated⟩
    | misindented husable hlocated hline hindent =>
      exact ⟨_, _, .misindented husable hlocated hline hindent⟩
    | unclosed husable hlocated hindented habsent =>
      exact ⟨_, _, .unclosed husable hlocated hindented habsent (hremarks _)⟩

/-- A search answers and tells the log just what goes together. -/
theorem resolve_eq_iff_tells {answer : Except BlockError Span} {events : List BlockEvent} :
  resolver.resolve lines = ⟨answer, events⟩ ↔ resolver.Tells lines answer events
  := by
  constructor
  · intro h
    obtain ⟨other, others, htells⟩ := resolver.exists_tells lines
    rw [resolve_of_tells htells] at h
    cases h
    exact htells
  · apply resolve_of_tells

theorem tells_resolve (resolver : Resolver) (lines : List Line) :
  resolver.Tells lines (resolver.resolve lines).value (resolver.resolve lines).events
  := resolve_eq_iff_tells.mp rfl

section

variable {answer : Except BlockError Span} {events : List BlockEvent}

/-- Only one answer, with one log, goes with a document. -/
theorem Tells.unique {other : Except BlockError Span} {others : List BlockEvent}
    (h : resolver.Tells lines answer events) (h' : resolver.Tells lines other others) :
  answer = other ∧ events = others
  := by
  have hsame := (resolve_of_tells h).symm.trans (resolve_of_tells h')
  exact Logged.mk.inj hsame

/-- A missing opening is told at most once. -/
theorem Tells.countP_le_one (h : resolver.Tells lines answer events) :
  events.countP (·.isOpeningMissing) ≤ 1
  := by
  have hle {start : Nat} {remarks : List BlockEvent}
      (hremarks : resolver.OpeningRemarks lines start remarks) :
      remarks.countP (·.isOpeningMissing) ≤ 1 :=
    le_trans List.countP_le_length hremarks.length_le
  cases h with
  | unusable => simp
  | unlocated => simp
  | misindented => simp
  | unclosed _ _ _ _ hremarks => simpa using hle hremarks
  | found _ hremarks => simpa using hle hremarks

/-- A missing opening is told exactly if the search comes to the opening, one is expected and
the next line of the document does not hold it. -/
theorem Tells.exists_missing_iff (h : resolver.Tells lines answer events) :
  (∃ event ∈ events, event.isOpeningMissing = true)
    ↔ ∃ start boundary text, resolver.Usable ∧ resolver.Located lines start boundary
      ∧ resolver.Indented lines start ∧ resolver.expectOpening = some text
      ∧ ¬ Line.At (text.trim <:+: ·) lines (start + 1)
  := by
  constructor
  · rintro ⟨event, hevent, hmissing⟩
    cases h with
    | unusable => simp at hevent
    | unlocated => simp at hevent
    | misindented =>
      obtain rfl := List.mem_singleton.mp hevent
      contradiction
    | unclosed husable hlocated hindented _ hremarks =>
      rcases List.mem_cons.mp hevent with rfl | hevent
      · contradiction
      · obtain ⟨text, hexpected, hnext⟩ := hremarks.ne_nil_iff.mp (List.ne_nil_of_mem hevent)
        exact ⟨_, _, text, husable, hlocated, hindented, hexpected, hnext⟩
    | found hfinds hremarks =>
      rcases List.mem_cons.mp hevent with rfl | hevent
      · contradiction
      rcases List.mem_append.mp hevent with hevent | hevent
      · obtain ⟨text, hexpected, hnext⟩ := hremarks.ne_nil_iff.mp (List.ne_nil_of_mem hevent)
        exact ⟨_, _, text, hfinds.usable, hfinds.located, hfinds.indented, hexpected, hnext⟩
      · obtain rfl := List.mem_singleton.mp hevent
        contradiction
  · rintro ⟨start, boundary, text, husable, hlocated, hindented, hexpected, hnext⟩
    -- Whether or not a closing line is found then, the opening is told before.
    have hremarks := OpeningRemarks.missing hexpected hnext
    cases hclosing : resolver.closing? lines start boundary with
    | none =>
      have habsent := (closing?_isSearchOf _ _ _ _).none_iff.mp hclosing
      obtain ⟨-, rfl⟩ := h.unique (.unclosed husable hlocated hindented habsent hremarks)
      exact ⟨_, List.mem_cons_of_mem _ (List.mem_singleton_self _), rfl⟩
    | some last =>
      have hends := (closing?_isSearchOf _ _ _ _).some_iff.mp hclosing
      have hfinds : resolver.Finds lines ⟨start, last, boundary⟩ :=
        ⟨husable, hlocated, hindented, hends⟩
      obtain ⟨-, rfl⟩ := h.unique (.found hfinds hremarks)
      exact ⟨_, List.mem_cons_of_mem _ List.mem_cons_self, rfl⟩

/-- The log ends with a span exactly if that span is the answer. -/
theorem Tells.getLast?_eq_iff (h : resolver.Tells lines answer events) {span : Span}
    {strategy : Strategy} :
  events.getLast? = some (.spanResolved span strategy)
    ↔ answer = .ok span ∧ strategy = resolver.strategy
  := by
  cases h with
  | unusable => simp
  | unlocated => simp
  | misindented => simp
  | unclosed _ _ _ _ hremarks =>
    cases hremarks with
    | unexpected => simp
    | present => simp
    | missing => simp
  | found =>
    rw [← List.cons_append, List.getLast?_concat]
    simp [eq_comm]

end

/-! ### Another expected opening -/

/-- The search for the closing line does not read what is expected. -/
theorem closing?_expecting (expected : Option Text) (start boundary : Nat) :
  (resolver.expecting expected).closing? lines start boundary
    = resolver.closing? lines start boundary
  := by
  apply (closing?_isSearchOf (resolver.expecting expected) lines start boundary).unique
  apply closing?_isSearchOf resolver lines start boundary

/-- Nothing is left of what is told of the opening when missing openings are dropped. -/
theorem filter_openingEvents (resolver : Resolver) (lines : List Line) (start : Nat) :
  (resolver.openingEvents lines start).filter (!·.isOpeningMissing) = []
  := by
  have hremarks : resolver.OpeningRemarks lines start (resolver.openingEvents lines start) :=
    openingRemarks_iff.mpr rfl
  rw [List.filter_eq_nil_iff]
  intro event hevent
  simp [hremarks.isOpeningMissing event hevent]

/-- With another expected opening the answer is the same, and so is the log when missing
openings are dropped. -/
theorem resolve_expecting (resolver : Resolver) (lines : List Line)
    (expected : Option Text) :
  ((resolver.expecting expected).resolve lines).value = (resolver.resolve lines).value
    ∧ ((resolver.expecting expected).resolve lines).events.filter (!·.isOpeningMissing)
      = (resolver.resolve lines).events.filter (!·.isOpeningMissing)
  := by
  have hvalidate : (resolver.expecting expected).validate = resolver.validate := rfl
  have hlocate : (resolver.expecting expected).locate lines = resolver.locate lines := rfl
  unfold resolve
  rw [hvalidate, hlocate]
  cases resolver.validate with
  | error error => exact ⟨rfl, rfl⟩
  | ok =>
  cases resolver.locate lines with
  | error error => exact ⟨rfl, rfl⟩
  | ok markers =>
  obtain ⟨start, boundary⟩ := markers
  have hindent : (resolver.expecting expected).checkIndent lines start
      = resolver.checkIndent lines start := rfl
  dsimp only
  rw [hindent, closing?_expecting]
  cases resolver.checkIndent lines start with
  | error error => exact ⟨rfl, rfl⟩
  | ok =>
  cases resolver.closing? lines start boundary with
  | none => exact ⟨rfl, by simp [filter_openingEvents]⟩
  | some last => exact ⟨rfl, by simp [filter_openingEvents, expecting]⟩

end

/-- The check of the opening is advisory, and the log tells the outcome.  Of two resolvers that
differ in the expected opening alone, both give the same span or the same error, and their logs
are equal but for the report of a missing opening, of which each has at most one.  Every answer
comes with the events that `Tells` names for it: none for unusable settings or a marker that
is not found, and otherwise first the lines of the markers.  The opening is missing in the log
exactly if the start line is indented as it should be, an opening is expected and the next line
of the document does not hold it or does not exist; and the log ends with a span exactly if
that span is the answer. -/
theorem resolve_events (resolver : Resolver) (lines : List Line) :
  (∀ expected,
    ((resolver.expecting expected).resolve lines).value = (resolver.resolve lines).value
      ∧ ((resolver.expecting expected).resolve lines).events.filter (!·.isOpeningMissing)
        = (resolver.resolve lines).events.filter (!·.isOpeningMissing))
  ∧ (resolver.resolve lines).events.countP (·.isOpeningMissing) ≤ 1
  ∧ (∀ answer events,
      resolver.resolve lines = ⟨answer, events⟩ ↔ resolver.Tells lines answer events)
  ∧ ((∃ event ∈ (resolver.resolve lines).events, event.isOpeningMissing = true)
      ↔ ∃ start boundary text, resolver.Usable ∧ resolver.Located lines start boundary
        ∧ resolver.Indented lines start ∧ resolver.expectOpening = some text
        ∧ ¬ Line.At (text.trim <:+: ·) lines (start + 1))
  ∧ ∀ span strategy,
      (resolver.resolve lines).events.getLast? = some (.spanResolved span strategy)
        ↔ (resolver.resolve lines).value = .ok span ∧ strategy = resolver.strategy
  := by
  have htells := resolver.tells_resolve lines
  refine ⟨resolver.resolve_expecting lines, htells.countP_le_one, ?_,
    htells.exists_missing_iff, ?_⟩
  · intro answer events
    apply resolve_eq_iff_tells
  · intro span strategy
    apply htells.getLast?_eq_iff

/-- The boundary marker stands on the start line, the last of the document, and the search
fails; still the log tells that the line after it is missing. -/
example :
    ({ startMarker := ['S'], boundaryMarker := ['E'], indent := ⟨[' '], by decide, by decide⟩,
       expectOpening := some [' ', '<', 'd', '\n'] : Resolver }.resolve [['S', 'E']])
      = ⟨.error (.noClosingLine (' ' :: defaultClosingToken) 1 0),
          [.markersLocated 0 0, .openingMissing 1 ['<', 'd'] none]⟩
  := rfl

end Resolver

end Excision
