import Excision.Job.Basic
import Excision.Proofs.Resolver.Strategy

/-!
# Accepted jobs

A job is accepted if it is complete and its settings are in order.  `Job.HasIndent` and
`Job.HasStrategy` say of an indent and of a strategy that the job gives them, and `Job.Settles`
says of a resolver that the job settles all of it; `Job.Lacks` says of an error that it names
the first setting, in the order start marker, boundary marker, opening token, indent, that is
missing or wrong.  A job is answered with the resolver that it settles, or with the error that
names what it lacks (`Job.resolver_answers`).  A resolver that a job has settled does not
complain later about what the job has already been checked for.
-/

namespace Excision

/-! ### The derived opening token -/

/-- An opening token is derived from a closing token that is a name between `</` and `>`. The
name must not be blank, and its ends are trimmed. -/
theorem deriveOpenToken?_eq_some_iff {closingToken openToken : Text} :
  deriveOpenToken? closingToken = some openToken ↔
    ∃ name, closingToken = ['<', '/'] ++ name ++ ['>'] ∧ ¬ Text.Blank name
      ∧ openToken = '<' :: name.trim
  := by
  simp only [deriveOpenToken?, Option.bind_eq_bind, Option.bind_eq_some_iff,
    Text.dropHead?_eq_some_iff, Text.dropTail?_eq_some_iff, ← Text.trim_eq_nil_iff]
  constructor
  · rintro ⟨tail, rfl, name, rfl, h⟩
    split at h
    next => contradiction
    next hname =>
      cases h
      exact ⟨name, by simp, hname, rfl⟩
  · rintro ⟨name, rfl, hname, rfl⟩
    exact ⟨name ++ ['>'], by simp, name, rfl, if_neg hname⟩

theorem deriveOpenToken?_eq_none_iff {closingToken : Text} :
  deriveOpenToken? closingToken = none ↔
    ∀ name, closingToken = ['<', '/'] ++ name ++ ['>'] → Text.Blank name
  := by
  rw [Option.eq_none_iff_forall_ne_some]
  constructor
  · intro h name hclosing
    by_contra hname
    apply h ('<' :: name.trim)
    apply deriveOpenToken?_eq_some_iff.mpr ⟨name, hclosing, hname, rfl⟩
  · intro h openToken hopen
    obtain ⟨name, hclosing, hname, -⟩ := deriveOpenToken?_eq_some_iff.mp hopen
    apply hname (h name hclosing)

/-! ### The indent -/

theorem Line.isIndentChar_iff {c : Char} :
  Line.isIndentChar c = true ↔ c = ' ' ∨ c = '\t'
  := by
  simp [isIndentChar]

namespace Indent

theorem mem_text (indent : Indent) {c : Char} (h : c ∈ indent.text) :
  c = ' ' ∨ c = '\t'
  := Line.isIndentChar_iff.mp (List.all_eq_true.mp indent.blank c h)

theorem ofText_eq_ok_iff {text : Text} {indent : Indent} :
  ofText text = .ok indent ↔ indent.text = text
  := by
  unfold ofText
  constructor
  · intro h
    split at h
    · contradiction
    · split at h
      · cases h
        rfl
      · contradiction
  · rintro rfl
    rw [dif_neg indent.ne_nil, dif_pos indent.blank]

/-- A text is refused as an indent if it is empty or holds something other than spaces and
tabs. -/
theorem ofText_eq_error_iff {text : Text} {error : BlockError} :
  ofText text = .error error ↔
    (text = [] ∧ error = .invalidIndent [] .empty)
    ∨ ((∃ c ∈ text, c ≠ ' ' ∧ c ≠ '\t') ∧ error = .invalidIndent text .notBlank)
  := by
  have hblank : text.all Line.isIndentChar = true ↔ ¬ ∃ c ∈ text, c ≠ ' ' ∧ c ≠ '\t' := by
    simp only [List.all_eq_true, Line.isIndentChar_iff, or_iff_not_imp_left, not_exists,
      not_and, ne_eq, not_not]
  unfold ofText
  by_cases hempty : text = []
  · subst hempty
    simp [eq_comm]
  · rw [dif_neg hempty]
    by_cases hother : ∃ c ∈ text, c ≠ ' ' ∧ c ≠ '\t'
    · rw [dif_neg (mt hblank.mp (not_not.mpr hother))]
      simp only [hempty, hother, Except.error.injEq, false_and, false_or, true_and, eq_comm]
    · rw [dif_pos (hblank.mpr hother)]
      simp only [hempty, hother, reduceCtorEq, false_and, or_false]

end Indent

namespace Job

/-- The job gives this text as its indent, in exactly one of the two forms. A width must be
positive, and `memory` is the greatest number of spaces that there is room for. -/
inductive HasIndent (memory : Nat) (job : Job) : Text → Prop where
  | text {text : Text} (hindent : job.indent = some text) (hwidth : job.indentWidth = none)
      (hne : text ≠ []) (hblank : ∀ c ∈ text, c = ' ' ∨ c = '\t') :
      HasIndent memory job text
  | width {width : Nat} (hindent : job.indent = none) (hwidth : job.indentWidth = some width)
      (hpos : 1 ≤ width) (hroom : width ≤ memory) :
      HasIndent memory job (List.replicate width ' ')

/-- The error says what is wrong with the indent of the job. -/
inductive LacksIndent (job : Job) : BlockError → Prop where
  | missing (hindent : job.indent = none) (hwidth : job.indentWidth = none) :
      LacksIndent job (.missingSetting .indent)
  | twoForms {text : Text} {width : Nat} (hindent : job.indent = some text)
      (hwidth : job.indentWidth = some width) :
      LacksIndent job (.invalidIndent text .twoForms)
  | emptyText (hindent : job.indent = some []) (hwidth : job.indentWidth = none) :
      LacksIndent job (.invalidIndent [] .empty)
  | notBlank {text : Text} (hindent : job.indent = some text) (hwidth : job.indentWidth = none)
      (hother : ∃ c ∈ text, c ≠ ' ' ∧ c ≠ '\t') :
      LacksIndent job (.invalidIndent text .notBlank)
  | noSpace (hindent : job.indent = none) (hwidth : job.indentWidth = some 0) :
      LacksIndent job (.invalidIndent [] .empty)

section

variable {job : Job} {memory : Nat}

/-- The text that a job gives as its indent is one. -/
theorem HasIndent.exists_indent {text : Text} (h : job.HasIndent memory text) :
  ∃ indent : Indent, indent.text = text
  := by
  cases h with
  | text _ _ hne hblank =>
    have hall : text.all Line.isIndentChar = true :=
      List.all_eq_true.mpr fun c hc => Line.isIndentChar_iff.mpr (hblank c hc)
    use ⟨text, hne, hall⟩
  | @width width _ _ hpos _ =>
    have hne : List.replicate width ' ' ≠ [] := by
      rw [ne_eq, List.replicate_eq_nil_iff]
      omega
    use ⟨List.replicate width ' ', hne, by simp [Line.isIndentChar]⟩

/-- The indent of the job, if there is room for it, is the one that the job gives. -/
theorem indentation_eq_ok_iff {indent : Indent} :
  job.indentation = .ok indent ∧ (∀ width ∈ job.indentWidth, width ≤ memory)
    ↔ job.HasIndent memory indent.text
  := by
  constructor
  · rintro ⟨h, hroom⟩
    unfold indentation at h
    split at h
    next text hindent hwidth =>
      obtain rfl := Indent.ofText_eq_ok_iff.mp h
      exact .text hindent hwidth indent.ne_nil fun c hc => indent.mem_text hc
    next width hindent hwidth =>
      have htext : indent.text = List.replicate width ' ' := Indent.ofText_eq_ok_iff.mp h
      rw [htext]
      apply HasIndent.width hindent hwidth _ (hroom width hwidth)
      by_contra hzero
      apply indent.ne_nil
      rw [htext, List.replicate_eq_nil_iff]
      omega
    next => contradiction
    next => contradiction
  · intro h
    generalize htext : indent.text = text at h
    cases h with
    | text hindent hwidth =>
      simp only [indentation, hindent, hwidth]
      exact ⟨Indent.ofText_eq_ok_iff.mpr htext, by simp⟩
    | width hindent hwidth _ hroom =>
      simp only [indentation, hindent, hwidth]
      exact ⟨Indent.ofText_eq_ok_iff.mpr htext, by simpa using hroom⟩

theorem indentation_eq_error_iff {error : BlockError} :
  job.indentation = .error error ↔ job.LacksIndent error
  := by
  constructor
  · intro h
    unfold indentation at h
    split at h
    next text hindent hwidth =>
      obtain ⟨rfl, rfl⟩ | ⟨hother, rfl⟩ := Indent.ofText_eq_error_iff.mp h
      · exact .emptyText hindent hwidth
      · exact .notBlank hindent hwidth hother
    next width hindent hwidth =>
      obtain ⟨hzero, rfl⟩ | ⟨⟨c, hc, hspace, -⟩, -⟩ := Indent.ofText_eq_error_iff.mp h
      · rw [List.replicate_eq_nil_iff] at hzero
        subst hzero
        exact .noSpace hindent hwidth
      · apply absurd (List.eq_of_mem_replicate hc) hspace
    next text width hindent hwidth =>
      cases h
      exact .twoForms hindent hwidth
    next hindent hwidth =>
      cases h
      exact .missing hindent hwidth
  · intro h
    cases h with
    | missing hindent hwidth => simp only [indentation, hindent, hwidth]
    | twoForms hindent hwidth => simp only [indentation, hindent, hwidth]
    | emptyText hindent hwidth =>
      simp only [indentation, hindent, hwidth]
      apply Indent.ofText_eq_error_iff.mpr
      simp
    | notBlank hindent hwidth hother =>
      simp only [indentation, hindent, hwidth]
      apply Indent.ofText_eq_error_iff.mpr
      exact .inr ⟨hother, rfl⟩
    | noSpace hindent hwidth =>
      simp only [indentation, hindent, hwidth]
      apply Indent.ofText_eq_error_iff.mpr
      exact .inl ⟨rfl, rfl⟩

end

/-! ### The strategy -/

/-- The job gives this strategy. For the balanced strategy it gives an opening token that is
not blank, or none and a closing token from which one is derived. -/
inductive HasStrategy (job : Job) : Strategy → Prop where
  | first (hstrategy : job.strategy = none ∨ job.strategy = some .first) :
      HasStrategy job .firstExact
  | given {openToken : Text} (hstrategy : job.strategy = some .balanced)
      (hopen : job.openToken = some openToken) (hblank : ¬ Text.Blank openToken) :
      HasStrategy job (.balanced openToken)
  | derived {name : Text} (hstrategy : job.strategy = some .balanced)
      (hopen : job.openToken = none)
      (hclosing : job.closing = ['<', '/'] ++ name ++ ['>']) (hblank : ¬ Text.Blank name) :
      HasStrategy job (.balanced ('<' :: name.trim))

/-- The error says what is wrong with the opening token of the job: there is none and none can
be derived, or the one that is given is blank. -/
inductive LacksOpenToken (job : Job) : BlockError → Prop where
  | missing (hstrategy : job.strategy = some .balanced) (hopen : job.openToken = none)
      (hclosing : ∀ name, job.closing = ['<', '/'] ++ name ++ ['>'] → Text.Blank name) :
      LacksOpenToken job (.missingSetting .openToken)
  | blank {openToken : Text} (hstrategy : job.strategy = some .balanced)
      (hopen : job.openToken = some openToken) (hblank : Text.Blank openToken) :
      LacksOpenToken job .blankOpenToken

section

variable {job : Job}

/-- A strategy that a job gives has no blank opening token. -/
theorem HasStrategy.openToken_not_blank {openToken : Text}
    (h : job.HasStrategy (.balanced openToken)) :
  ¬ Text.Blank openToken
  := by
  cases h with
  | given _ _ hblank => exact hblank
  | derived =>
    intro hblank
    have hbracket := hblank '<' List.mem_cons_self
    contradiction

theorem chosenStrategy_of_has {strategy : Strategy} (h : job.HasStrategy strategy) :
  job.chosenStrategy.value = .ok strategy
  := by
  cases h with
  | first hstrategy =>
    obtain hstrategy | hstrategy := hstrategy
    · simp [chosenStrategy, hstrategy]
    · simp [chosenStrategy, hstrategy]
  | given hstrategy hopen hblank =>
    simp [chosenStrategy, hstrategy, hopen, Text.isBlankText_iff, hblank]
  | derived hstrategy hopen hclosing hblank =>
    have hderived := deriveOpenToken?_eq_some_iff.mpr ⟨_, hclosing, hblank, rfl⟩
    have hopening :=
      (HasStrategy.derived hstrategy hopen hclosing hblank).openToken_not_blank
    simp [chosenStrategy, hstrategy, hopen, hderived, Text.isBlankText_iff, hopening]

theorem chosenStrategy_of_lacks {error : BlockError} (h : job.LacksOpenToken error) :
  job.chosenStrategy.value = .error error
  := by
  cases h with
  | missing hstrategy hopen hclosing =>
    have hnone := deriveOpenToken?_eq_none_iff.mpr hclosing
    simp [chosenStrategy, hstrategy, hopen, hnone]
  | blank hstrategy hopen hblank =>
    simp [chosenStrategy, hstrategy, hopen, Text.isBlankText_iff, hblank]

/-- A job gives a strategy, or something is wrong with its opening token. -/
theorem hasStrategy_or_lacks (job : Job) :
  (∃ strategy, job.HasStrategy strategy) ∨ ∃ error, job.LacksOpenToken error
  := by
  cases hstrategy : job.strategy with
  | none => exact .inl ⟨_, .first (.inl hstrategy)⟩
  | some name =>
  cases name with
  | first => exact .inl ⟨_, .first (.inr hstrategy)⟩
  | balanced =>
  cases hopen : job.openToken with
  | some openToken =>
    by_cases hblank : Text.Blank openToken
    · exact .inr ⟨_, .blank hstrategy hopen hblank⟩
    · exact .inl ⟨_, .given hstrategy hopen hblank⟩
  | none =>
    cases hderived : deriveOpenToken? job.closing with
    | none =>
      exact .inr ⟨_, .missing hstrategy hopen (deriveOpenToken?_eq_none_iff.mp hderived)⟩
    | some openToken =>
      obtain ⟨name, hclosing, hblank, -⟩ := deriveOpenToken?_eq_some_iff.mp hderived
      exact .inl ⟨_, .derived hstrategy hopen hclosing hblank⟩

theorem chosenStrategy_eq_ok_iff {strategy : Strategy} :
  job.chosenStrategy.value = .ok strategy ↔ job.HasStrategy strategy
  := by
  constructor
  · intro h
    obtain ⟨other, hother⟩ | ⟨error, herror⟩ := job.hasStrategy_or_lacks
    · rw [chosenStrategy_of_has hother] at h
      cases h
      apply hother
    · rw [chosenStrategy_of_lacks herror] at h
      contradiction
  · apply chosenStrategy_of_has

theorem chosenStrategy_eq_error_iff {error : BlockError} :
  job.chosenStrategy.value = .error error ↔ job.LacksOpenToken error
  := by
  constructor
  · intro h
    obtain ⟨strategy, hstrategy⟩ | ⟨other, hother⟩ := job.hasStrategy_or_lacks
    · rw [chosenStrategy_of_has hstrategy] at h
      contradiction
    · rw [chosenStrategy_of_lacks hother] at h
      cases h
      apply hother
  · apply chosenStrategy_of_lacks

end

/-! ### The resolver -/

/-- The job settles the resolver: it gives its markers, its indent and its strategy, and the
closing token and the expected opening are those of the job. -/
structure Settles (memory : Nat) (job : Job) (resolver : Resolver) : Prop where
  startMarker : job.startMarker = some resolver.startMarker
  boundaryMarker : job.boundaryMarker = some resolver.boundaryMarker
  indent : job.HasIndent memory resolver.indent.text
  strategy : job.HasStrategy resolver.strategy
  closingToken : resolver.closingToken = job.closing
  expectOpening : resolver.expectOpening = job.expectOpening

/-- The error names the first setting of the job that is missing or wrong. -/
inductive Lacks (job : Job) : BlockError → Prop where
  | startMarker (hstart : job.startMarker = none) :
      Lacks job (.missingSetting .startMarker)
  | boundaryMarker (hstart : job.startMarker.isSome) (hboundary : job.boundaryMarker = none) :
      Lacks job (.missingSetting .boundaryMarker)
  | openToken {error : BlockError} (hstart : job.startMarker.isSome)
      (hboundary : job.boundaryMarker.isSome) (htoken : job.LacksOpenToken error) :
      Lacks job error
  | indent {strategy : Strategy} {error : BlockError} (hstart : job.startMarker.isSome)
      (hboundary : job.boundaryMarker.isSome) (hstrategy : job.HasStrategy strategy)
      (hindent : job.LacksIndent error) :
      Lacks job error

/-- The answer to the job where no more than `memory` spaces can be put together. An indent
that is given by a width is put together last, when nothing else is missing or wrong; if there
is no room for it, there is no answer. -/
structure AnswersWithin (memory : Nat) (job : Job) (answer : Except BlockError Resolver) :
    Prop where
  /-- The job has this answer. -/
  value_eq : job.resolver.value = answer
  /-- There is room for the indent of a resolver. -/
  room : ∀ resolver, answer = .ok resolver → ∀ width ∈ job.indentWidth, width ≤ memory

section

variable {job : Job} {memory : Nat}

/-- With both markers given, the resolver is made from the strategy and the indent. -/
theorem value_resolver {startMarker boundaryMarker : Text}
    (hstart : job.startMarker = some startMarker)
    (hboundary : job.boundaryMarker = some boundaryMarker) :
  job.resolver.value = job.chosenStrategy.value.bind fun strategy =>
    job.indentation.map fun indent => {
      startMarker, boundaryMarker, indent, strategy
      closingToken := job.closing
      expectOpening := job.expectOpening }
  := by
  simp only [resolver, hstart, hboundary, Logged.value_andThen, Logged.value_quiet]

theorem answersWithin_ok_iff {resolver : Resolver} :
  job.AnswersWithin memory (.ok resolver) ↔ job.Settles memory resolver
  := by
  constructor
  · rintro ⟨h, hroom⟩
    cases hstart : job.startMarker with
    | none => simp [Job.resolver, hstart] at h
    | some startMarker =>
    cases hboundary : job.boundaryMarker with
    | none => simp [Job.resolver, hstart, hboundary] at h
    | some boundaryMarker =>
    rw [value_resolver hstart hboundary] at h
    cases hstrategy : job.chosenStrategy.value with
    | error error =>
      rw [hstrategy] at h
      contradiction
    | ok strategy =>
    cases hindent : job.indentation with
    | error error =>
      rw [hstrategy, hindent] at h
      contradiction
    | ok indent =>
      rw [hstrategy, hindent] at h
      cases h
      exact ⟨hstart, hboundary, indentation_eq_ok_iff.mp ⟨hindent, hroom _ rfl⟩,
        chosenStrategy_eq_ok_iff.mp hstrategy, rfl, rfl⟩
  · rintro ⟨hstart, hboundary, hindent, hstrategy, hclosing, hexpect⟩
    obtain ⟨hindentation, hroom⟩ := indentation_eq_ok_iff.mpr hindent
    constructor
    · rw [value_resolver hstart hboundary, chosenStrategy_of_has hstrategy, hindentation,
        ← hclosing, ← hexpect]
      rfl
    · intro _ _
      apply hroom

/-- The resolver of a job is settled by it where there is room for its indent. -/
theorem exists_settles_of_value {resolver : Resolver} (h : job.resolver.value = .ok resolver) :
  ∃ memory, job.Settles memory resolver
  := by
  use job.indentWidth.getD 0
  apply answersWithin_ok_iff.mp
  refine ⟨h, ?_⟩
  rintro _ _ width hwidth
  rw [Option.mem_def.mp hwidth, Option.getD_some]

/-- A job that lacks something is answered with the error that names it, however little room
there is. -/
theorem answersWithin_error_iff {error : BlockError} :
  job.AnswersWithin memory (.error error) ↔ job.Lacks error
  := by
  constructor
  · rintro ⟨h, -⟩
    cases hstart : job.startMarker with
    | none =>
      simp only [Job.resolver, hstart, Logged.value_quiet, Except.error.injEq] at h
      subst h
      exact .startMarker hstart
    | some startMarker =>
    have hstart' : job.startMarker.isSome := by simp [hstart]
    cases hboundary : job.boundaryMarker with
    | none =>
      simp only [Job.resolver, hstart, hboundary, Logged.value_quiet, Except.error.injEq] at h
      subst h
      exact .boundaryMarker hstart' hboundary
    | some boundaryMarker =>
    have hboundary' : job.boundaryMarker.isSome := by simp [hboundary]
    rw [value_resolver hstart hboundary] at h
    cases hstrategy : job.chosenStrategy.value with
    | error other =>
      rw [hstrategy] at h
      cases h
      exact .openToken hstart' hboundary' (chosenStrategy_eq_error_iff.mp hstrategy)
    | ok strategy =>
    cases hindent : job.indentation with
    | error other =>
      rw [hstrategy, hindent] at h
      cases h
      exact .indent hstart' hboundary' (chosenStrategy_eq_ok_iff.mp hstrategy)
        (indentation_eq_error_iff.mp hindent)
    | ok indent =>
      rw [hstrategy, hindent] at h
      contradiction
  · intro h
    refine ⟨?_, by simp⟩
    cases h with
    | startMarker hstart => simp only [Job.resolver, hstart, Logged.value_quiet]
    | boundaryMarker hstart hboundary =>
      obtain ⟨startMarker, hstart⟩ := Option.isSome_iff_exists.mp hstart
      simp only [Job.resolver, hstart, hboundary, Logged.value_quiet]
    | openToken hstart hboundary htoken =>
      obtain ⟨startMarker, hstart⟩ := Option.isSome_iff_exists.mp hstart
      obtain ⟨boundaryMarker, hboundary⟩ := Option.isSome_iff_exists.mp hboundary
      rw [value_resolver hstart hboundary, chosenStrategy_of_lacks htoken]
      rfl
    | indent hstart hboundary hstrategy hindent =>
      obtain ⟨startMarker, hstart⟩ := Option.isSome_iff_exists.mp hstart
      obtain ⟨boundaryMarker, hboundary⟩ := Option.isSome_iff_exists.mp hboundary
      rw [value_resolver hstart hboundary, chosenStrategy_of_has hstrategy,
        indentation_eq_error_iff.mpr hindent]
      rfl

/-- Some resolver is the answer exactly if the job gives all that a resolver needs. -/
theorem exists_settles_iff :
  (∃ resolver, job.Settles memory resolver) ↔
    job.startMarker.isSome ∧ job.boundaryMarker.isSome
    ∧ (∃ indent, job.HasIndent memory indent) ∧ ∃ strategy, job.HasStrategy strategy
  := by
  constructor
  · rintro ⟨resolver, h⟩
    refine ⟨?_, ?_, ⟨_, h.indent⟩, _, h.strategy⟩
    · rw [h.startMarker, Option.isSome_some]
    · rw [h.boundaryMarker, Option.isSome_some]
  · rintro ⟨hstart, hboundary, ⟨text, hindent⟩, strategy, hstrategy⟩
    obtain ⟨startMarker, hstart⟩ := Option.isSome_iff_exists.mp hstart
    obtain ⟨boundaryMarker, hboundary⟩ := Option.isSome_iff_exists.mp hboundary
    obtain ⟨indent, rfl⟩ := hindent.exists_indent
    use {
      startMarker, boundaryMarker, indent, strategy
      closingToken := job.closing
      expectOpening := job.expectOpening }
    exact ⟨hstart, hboundary, hindent, hstrategy, rfl, rfl⟩

end

end Job

/-! ### What is checked once -/

/-- The error is about the reading of a job or about cutting a span out, and not about the
search for a block: a setting is missing, an indent or an opening token cannot be used, there
is no such strategy, or the span is out of range. -/
inductive BlockError.OutsideSearch : BlockError → Prop where
  | missingSetting (setting : Setting) : OutsideSearch (.missingSetting setting)
  | invalidIndent (indent : Text) (fault : IndentFault) :
      OutsideSearch (.invalidIndent indent fault)
  | blankOpenToken : OutsideSearch .blankOpenToken
  | unknownStrategy (name : Text) : OutsideSearch (.unknownStrategy name)
  | spanOutOfRange (span : Span) (length : Nat) : OutsideSearch (.spanOutOfRange span length)

namespace Job

/-- A resolver whose strategy has been checked fails for what it finds in the document, or for
an empty marker or closing token. -/
theorem HasStrategy.not_outsideSearch {job : Job} {resolver : Resolver} {lines : List Line}
    {error : BlockError} (h : job.HasStrategy resolver.strategy)
    (hfails : resolver.Fails lines error) :
  ¬ error.OutsideSearch
  := by
  intro houtside
  cases hfails with
  | unusable hunusable =>
    cases hunusable with
    | startMarker => cases houtside
    | boundaryMarker => cases houtside
    | closingToken => cases houtside
    | openToken _ _ _ hstrategy hblank =>
      rw [hstrategy] at h
      apply h.openToken_not_blank hblank
  | unlocated _ hunlocated =>
    cases hunlocated with
    | start => cases houtside
    | boundary => cases houtside
  | misindented => cases houtside
  | unclosed => cases houtside

/-- Which jobs are accepted.  A job is answered with a resolver exactly if it gives both
markers, an indent in exactly one form, and a strategy with its opening token, and the resolver
is the one that the job settles.  With an error it is answered exactly if that names the first
setting that is missing or wrong.  A resolver that a job has made never fails for one of the
reasons for which the job would not have been accepted. -/
theorem resolver_answers (memory : Nat) (job : Job) :
  ((∃ resolver, job.AnswersWithin memory (.ok resolver)) ↔
    job.startMarker.isSome ∧ job.boundaryMarker.isSome
    ∧ (∃ indent, job.HasIndent memory indent) ∧ ∃ strategy, job.HasStrategy strategy)
  ∧ (∀ resolver, job.AnswersWithin memory (.ok resolver) ↔ job.Settles memory resolver)
  ∧ (∀ error, job.AnswersWithin memory (.error error) ↔ job.Lacks error)
  ∧ (∀ resolver, job.resolver.value = .ok resolver → ∀ lines error,
      (resolver.resolve lines).value = .error error → ¬ error.OutsideSearch)
  := by
  refine ⟨?_, fun resolver => answersWithin_ok_iff, fun error => answersWithin_error_iff, ?_⟩
  · simp only [answersWithin_ok_iff, exists_settles_iff]
  · intro resolver hresolver lines error herror
    obtain ⟨_, hsettles⟩ := exists_settles_of_value hresolver
    apply hsettles.strategy.not_outsideSearch
    apply Resolver.resolve_eq_error_iff.mp herror

/-- A job whose opening token is derived. -/
def derivingJob : Job where
  startMarker := some ['S']
  boundaryMarker := some ['E']
  indentWidth := some 2
  closingToken := some ['<', '/', ' ', 'd', ' ', '>']
  strategy := some .balanced

/-- The resolver that the job settles. -/
def derivedResolver : Resolver :=
  { Resolver.sample (.balanced ['<', 'd']) with closingToken := ['<', '/', ' ', 'd', ' ', '>'] }

/-- The job is accepted where there is room for two spaces, and where there is not even room
for these, there is no answer at all. -/
theorem resolver_answers_deriving :
  derivingJob.Settles 2 derivedResolver
    ∧ (∃ resolver, derivingJob.AnswersWithin 2 (.ok resolver))
    ∧ (¬ ∃ resolver, derivingJob.AnswersWithin 1 (.ok resolver))
    ∧ (¬ ∃ error, derivingJob.AnswersWithin 1 (.error error))
    ∧ ∀ lines error, (derivedResolver.resolve lines).value = .error error →
        ¬ error.OutsideSearch
  := by
  have hvalue : derivingJob.resolver.value = .ok derivedResolver := by decide
  obtain ⟨-, hsettles, -, hsearch⟩ := resolver_answers 2 derivingJob
  obtain ⟨hcomplete, -⟩ := resolver_answers 1 derivingJob
  have hanswer : derivingJob.AnswersWithin 2 (.ok derivedResolver) := by
    refine ⟨hvalue, ?_⟩
    rintro _ _ _ ⟨⟩
    rfl
  refine ⟨(hsettles _).mp hanswer, ⟨_, hanswer⟩, ?_, ?_, hsearch _ hvalue⟩
  · rw [hcomplete]
    rintro ⟨-, -, ⟨text, hindent⟩, -⟩
    cases hindent with
    | text hindent => contradiction
    | width _ hwidth _ hroom =>
      cases hwidth
      contradiction
  · rintro ⟨error, herror, -⟩
    rw [hvalue] at herror
    contradiction

end Job

end Excision
