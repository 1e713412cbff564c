import Excision.Proofs.Resolver.Strategy

/-!
# Locality

The answer of a resolver depends on the lines from the start line to the boundary line alone,
and for a span even less on those behind its last line.  `Line.Moved` says that the first
lines of a document stand in another one, a number of lines further down.  If they reach to
the boundary line and no line before them holds the start marker, the answer is the same for
both documents, with its line numbers moved as the lines are (`resolve_moved`).  What stands
between the last line of a block and the boundary line moves the boundary line and nothing
else (`Finds.closer_boundary`).
-/

namespace Excision

/-- The span `count` lines further down. -/
def Span.shift (count : Nat) (span : Span) : Span where
  first := span.first + count
  last := span.last + count
  boundary := span.boundary + count

/-- The error of a resolver with the lines that it names `count` lines further down. -/
def BlockError.shift (count : Nat) : BlockError → BlockError
  | .noClosingLine expected first limit =>
    .noClosingLine expected (first + count) (limit + count)
  | .indentMismatch line found indent => .indentMismatch (line + count) found indent
  | error => error

/-- The answer with its lines `count` lines further down. -/
def Resolver.shiftAnswer (count : Nat) : Except BlockError Span → Except BlockError Span
  | .ok span => .ok (span.shift count)
  | .error error => .error (error.shift count)

@[simp] theorem Span.shift_zero (span : Span) :
  span.shift 0 = span
  := rfl

@[simp] theorem BlockError.shift_zero (error : BlockError) :
  error.shift 0 = error
  := by
  cases error with
  | _ => rfl

@[simp] theorem Resolver.shiftAnswer_zero (answer : Except BlockError Span) :
  shiftAnswer 0 answer = answer
  := by
  cases answer with
  | ok span => rfl
  | error error => simp [shiftAnswer]

/-! ### Lines that have moved -/

namespace Line

/-- The lines up to line `limit` of `lines` stand `count` lines further down in `others`. -/
def Moved (count : Nat) (lines others : List Line) (limit : Nat) : Prop :=
  ∀ i ≤ limit, others[i + count]? = lines[i]?

section

variable {count limit : Nat} {lines others : List Line}

/-- Behind other lines all lines stand further down. -/
theorem moved_append (front lines : List Line) (limit : Nat) :
  Moved front.length lines (front ++ lines) limit
  := by
  intro i _
  rw [List.getElem?_append_right (Nat.le_add_left _ _), Nat.add_sub_cancel]

/-- The lines up to line `limit` stay where they are, whatever comes behind them. -/
theorem moved_take_append {lines : List Line} (h : limit < lines.length) (rest : List Line) :
  Moved 0 lines (lines.take (limit + 1) ++ rest) limit
  := by
  intro i hi
  have hlt : i < (lines.take (limit + 1)).length := by
    rw [List.length_take]
    omega
  change (lines.take (limit + 1) ++ rest)[i]? = lines[i]?
  rw [List.getElem?_append_left hlt, List.getElem?_take_of_lt (by omega)]

theorem Moved.mono (h : Moved count lines others limit) {lower : Nat} (hle : lower ≤ limit) :
  Moved count lines others lower
  := fun i hi => h i (hi.trans hle)

theorem Moved.at_iff (h : Moved count lines others limit) {p : Line → Prop} {i : Nat}
    (hi : i ≤ limit) :
  At p others (i + count) ↔ At p lines i
  := by
  rw [At, At, h i hi]

/-- The least of the candidates moves with the lines, if no candidate comes before them. -/
theorem Moved.isLeast (h : Moved count lines others limit) {p : Line → Prop}
    {start index : Nat} (hindex : index ≤ limit)
    (hleast : IsLeast {i | start ≤ i ∧ At p lines i} index) :
  IsLeast {i | start + count ≤ i ∧ At p others i} (index + count)
  := by
  obtain ⟨⟨hstart, hline⟩, hlower⟩ := hleast
  constructor
  · exact ⟨by omega, (h.at_iff hindex).mpr hline⟩
  · rintro i ⟨hi, hother⟩
    by_contra hlt
    -- A candidate before the least one would have come from one of the lines.
    obtain ⟨earlier, rfl⟩ := Nat.exists_eq_add_of_le' (show count ≤ i by omega)
    have hle : index ≤ earlier :=
      hlower ⟨by omega, (h.at_iff (by omega)).mp hother⟩
    omega

/-- The first line of a kind moves with the lines, if none of the lines put in front is of the
kind. -/
theorem Moved.isLeast_first (h : Moved count lines others limit) {p : Line → Prop}
    {index : Nat} (hindex : index ≤ limit) (hfront : ∀ i < count, ¬ At p others i)
    (hleast : IsLeast {i | At p lines i} index) :
  IsLeast {i | At p others i} (index + count)
  := by
  have hmoved : IsLeast {i | 0 + count ≤ i ∧ At p others i} (index + count) := by
    apply h.isLeast hindex
    simpa using hleast
  refine ⟨hmoved.1.2, ?_⟩
  intro i hi
  apply hmoved.2
  refine ⟨?_, hi⟩
  by_contra hlt
  apply hfront i (by omega) hi

end

end Line

namespace Resolver

section

variable {resolver : Resolver} {lines others : List Line}
  {count start boundary boundary' index limit : Nat}

/-! ### Moving the block -/

/-- The depth counts no line before the start line, and only lines before the line in
question. -/
theorem depth_moved {openToken : Text} (h : ∀ i < index, others[i + count]? = lines[i]?) :
  resolver.depth openToken others (start + count) (index + count)
    = resolver.depth openToken lines start index
  := by
  have hlines : (others.take (index + count)).drop (start + count)
      = (lines.take index).drop start
    := by
    apply List.ext_getElem?
    intro i
    rw [List.getElem?_drop, List.getElem?_drop, List.getElem?_take, List.getElem?_take]
    split
    next hlt =>
      rw [if_pos (by omega), Nat.add_right_comm]
      apply h
      omega
    next hlt => rw [if_neg (by omega)]
  rw [depth, depth, hlines]

/-- Whether the block may end on a line is decided by the lines from the start line to that
line, and by that it comes before the boundary line. -/
theorem endsOn_moved (h : Line.Moved count lines others index)
    (hboundary : index + count < boundary' ↔ index < boundary) :
  resolver.EndsOn others (start + count) boundary' (index + count)
    ↔ resolver.EndsOn lines start boundary index
  := by
  unfold EndsOn
  split
  next => rw [Nat.add_lt_add_iff_right, hboundary, h.at_iff le_rfl]
  next =>
    simp only [ClosesBlock]
    rw [Nat.add_lt_add_iff_right, hboundary, h.at_iff le_rfl, depth_moved fun i hi => h i hi.le]

theorem Located.moved (h : resolver.Located lines start boundary)
    (hmoved : Line.Moved count lines others boundary)
    (hfront : ∀ i < count, ¬ Line.At (resolver.startMarker <:+: ·) others i) :
  resolver.Located others (start + count) (boundary + count)
  := by
  constructor
  · apply hmoved.isLeast_first h.isLeast_boundary.1.1 hfront h.isLeast_start
  · apply hmoved.isLeast le_rfl h.isLeast_boundary

/-- The lines on which the block may end move with the lines before the boundary line. -/
theorem endsOn_moved_iff (hmoved : Line.Moved count lines others boundary) (i : Nat) :
  resolver.EndsOn others (start + count) (boundary + count) i
    ↔ ∃ index, resolver.EndsOn lines start boundary index ∧ i = index + count
  := by
  constructor
  · intro hends
    have hlt := hends.start_lt
    have hboundary := hends.lt_boundary
    obtain ⟨index, rfl⟩ := Nat.exists_eq_add_of_le' (show count ≤ i by omega)
    refine ⟨index, ?_, rfl⟩
    apply (endsOn_moved (hmoved.mono (by omega)) (by omega)).mp hends
  · rintro ⟨index, hends, rfl⟩
    have hboundary := hends.lt_boundary
    apply (endsOn_moved (hmoved.mono hboundary.le) (by omega)).mpr hends

theorem Finds.moved {span : Span} (h : resolver.Finds lines span)
    (hmoved : Line.Moved count lines others span.boundary)
    (hfront : ∀ i < count, ¬ Line.At (resolver.startMarker <:+: ·) others i) :
  resolver.Finds others (span.shift count)
  := by
  have hle := h.located.isLeast_boundary.1.1
  refine ⟨h.usable, h.located.moved hmoved hfront, ?_, ?_⟩
  · apply ((hmoved.mono hle).at_iff le_rfl).mpr h.indented
  · constructor
    · apply (endsOn_moved_iff hmoved _).mpr
      exact ⟨span.last, h.ends.1, rfl⟩
    · intro i hi
      obtain ⟨index, hends, rfl⟩ := (endsOn_moved_iff hmoved i).mp hi
      apply Nat.add_le_add_right
      apply h.ends.2 hends

/-- Errors about the settings and about missing markers name no line. -/
theorem Unusable.shift_eq {error : BlockError} (h : resolver.Unusable error) (count : Nat) :
  error.shift count = error
  := by
  cases h with
  | _ => rfl

theorem Unlocated.shift_eq {error : BlockError} (h : resolver.Unlocated lines error)
    (count : Nat) :
  error.shift count = error
  := by
  cases h with
  | _ => rfl

theorem Fails.moved {error : BlockError} (h : resolver.Fails lines error)
    (hlocated : resolver.Located lines start boundary)
    (hmoved : Line.Moved count lines others boundary)
    (hfront : ∀ i < count, ¬ Line.At (resolver.startMarker <:+: ·) others i) :
  resolver.Fails others (error.shift count)
  := by
  have hle := hlocated.isLeast_boundary.1.1
  cases h with
  | unusable hunusable =>
    rw [hunusable.shift_eq]
    exact .unusable hunusable
  | unlocated _ hunlocated =>
    have hfound := locate_eq_ok_iff.mpr hlocated
    rw [locate_eq_error_iff.mpr hunlocated] at hfound
    contradiction
  | misindented husable hother hline hindent =>
    obtain ⟨rfl, rfl⟩ := hlocated.unique hother
    apply Fails.misindented husable (hlocated.moved hmoved hfront) _ hindent
    rw [hmoved _ hle, hline]
  | unclosed husable hother hindented habsent =>
    obtain ⟨rfl, rfl⟩ := hlocated.unique hother
    have hfails : resolver.Fails others
        (.noClosingLine resolver.closingLine (start + count + 1) (boundary + count))
      := by
      apply Fails.unclosed husable (hlocated.moved hmoved hfront)
      · apply ((hmoved.mono hle).at_iff le_rfl).mpr hindented
      · intro i hi
        obtain ⟨index, hends, -⟩ := (endsOn_moved_iff hmoved i).mp hi
        apply habsent index hends
    rw [Nat.add_right_comm] at hfails
    exact hfails

/-- The answer moves with the lines up to the boundary line, if no line before them holds the
start marker. -/
theorem resolve_moved (hlocated : resolver.Located lines start boundary)
    (hmoved : Line.Moved count lines others boundary)
    (hfront : ∀ i < count, ¬ Line.At (resolver.startMarker <:+: ·) others i) :
  (resolver.resolve others).value = shiftAnswer count (resolver.resolve lines).value
  := by
  obtain ⟨span, hfinds⟩ | ⟨error, hfails⟩ := resolver.finds_or_fails lines
  · obtain ⟨rfl, rfl⟩ := hlocated.unique hfinds.located
    rw [resolve_of_finds hfinds, resolve_of_finds (hfinds.moved hmoved hfront), shiftAnswer]
  · rw [resolve_of_fails hfails, resolve_of_fails (hfails.moved hlocated hmoved hfront),
      shiftAnswer]

/-! ### Lines in front -/

theorem not_at_append_front {p : Line → Prop} {front : List Line}
    (hfront : ∀ line ∈ front, ¬ p line) (lines : List Line) {i : Nat} (hi : i < front.length) :
  ¬ Line.At p (front ++ lines) i
  := by
  rintro ⟨line, hline, hp⟩
  rw [Option.mem_def, List.getElem?_append_left hi] at hline
  apply hfront line (List.mem_of_getElem? hline) hp

/-- A marker that is missing is still missing behind lines without the start marker. -/
theorem Unlocated.append_front {error : BlockError} (h : resolver.Unlocated lines error)
    {front : List Line} (hfront : ∀ line ∈ front, ¬ resolver.startMarker <:+: line) :
  resolver.Unlocated (front ++ lines) error
  := by
  have hmoved := fun i => Line.moved_append front lines i
  have hbefore := fun i => not_at_append_front (i := i) hfront lines
  cases h with
  | start habsent =>
    apply Unlocated.start
    intro i hi
    have hle : front.length ≤ i := not_lt.mp fun hlt => hbefore i hlt hi
    obtain ⟨index, rfl⟩ := Nat.exists_eq_add_of_le' hle
    apply habsent index
    apply ((hmoved index).at_iff le_rfl).mp hi
  | @boundary start hstart habsent =>
    apply Unlocated.boundary ((hmoved start).isLeast_first le_rfl (fun i => hbefore i) hstart)
    · intro i hle hi
      obtain ⟨index, rfl⟩ := Nat.exists_eq_add_of_le' (show front.length ≤ i by omega)
      apply habsent index (by omega)
      apply ((hmoved index).at_iff le_rfl).mp hi

theorem resolve_append_front {front : List Line}
    (hfront : ∀ line ∈ front, ¬ resolver.startMarker <:+: line) (lines : List Line) :
  (resolver.resolve (front ++ lines)).value
    = shiftAnswer front.length (resolver.resolve lines).value
  := by
  cases hvalidate : resolver.validate with
  | error error =>
    have hunusable := validate_eq_error_iff.mp hvalidate
    rw [resolve_of_fails (.unusable hunusable), resolve_of_fails (.unusable hunusable),
      shiftAnswer, hunusable.shift_eq]
  | ok =>
    have husable := validate_eq_ok_iff.mp hvalidate
    cases hlocate : resolver.locate lines with
    | error error =>
      have hunlocated := locate_eq_error_iff.mp hlocate
      rw [resolve_of_fails (.unlocated husable hunlocated),
        resolve_of_fails (.unlocated husable (hunlocated.append_front hfront)), shiftAnswer,
        hunlocated.shift_eq]
    | ok markers =>
      apply resolve_moved (locate_eq_ok_iff.mp hlocate) (Line.moved_append _ _ _)
      intro i hi
      apply not_at_append_front hfront lines hi

/-! ### Lines behind the block -/

/-- The boundary line may come closer, whatever stands between without its marker. -/
theorem Located.closer_boundary (h : resolver.Located lines start boundary) {last : Nat}
    (hstart : start ≤ last) (hlast : last < boundary) {between : List Line}
    (hbetween : ∀ line ∈ between, ¬ resolver.boundaryMarker <:+: line) :
  resolver.Located (lines.take (last + 1) ++ between ++ lines.drop boundary) start
    (last + 1 + between.length)
  := by
  obtain ⟨⟨-, stop, hstop, hmarker⟩, hleast⟩ := h.isLeast_boundary
  have hlt := hlast.trans (List.getElem?_eq_some_iff.mp hstop).1
  have hlength : (lines.take (last + 1)).length = last + 1 := List.length_take_of_le hlt
  have hmoved := Line.moved_take_append hlt (between ++ lines.drop boundary)
  rw [← List.append_assoc] at hmoved
  constructor
  · apply hmoved.isLeast_first hstart (by simp) h.isLeast_start
  · constructor
    · refine ⟨by omega, stop, ?_, hmarker⟩
      have hfront : (lines.take (last + 1) ++ between).length = last + 1 + between.length := by
        rw [List.length_append, hlength]
      rw [Option.mem_def, List.getElem?_append_right hfront.le, hfront, Nat.sub_self,
        List.getElem?_drop]
      apply hstop
    · rintro i ⟨hi, hline⟩
      by_contra hlt
      -- An earlier line with the marker would be one of the block or one put behind it.
      by_cases hle : i ≤ last
      · have hboundary : boundary ≤ i := hleast ⟨hi, (hmoved.at_iff hle).mp hline⟩
        omega
      · obtain ⟨line, hline, hother⟩ := hline
        rw [Option.mem_def, List.append_assoc, List.getElem?_append_right (by omega),
          List.getElem?_append_left (by omega)] at hline
        apply hbetween line (List.mem_of_getElem? hline) hother

/-- What stands between the last line of a block and the boundary line is of no account. -/
theorem Finds.closer_boundary {span : Span} (h : resolver.Finds lines span)
    {between : List Line} (hbetween : ∀ line ∈ between, ¬ resolver.boundaryMarker <:+: line) :
  resolver.Finds (lines.take (span.last + 1) ++ between ++ lines.drop span.boundary)
    { span with boundary := span.last + 1 + between.length }
  := by
  have hstart := h.ends.1.start_lt
  have hend := h.ends.1.lt_boundary
  have hmoved := Line.moved_take_append h.ends.1.content.lt_length
    (between ++ lines.drop span.boundary)
  rw [← List.append_assoc] at hmoved
  have hends {i : Nat} (hi : i ≤ span.last) :
      resolver.EndsOn (lines.take (span.last + 1) ++ between ++ lines.drop span.boundary)
          span.first (span.last + 1 + between.length) i
        ↔ resolver.EndsOn lines span.first span.boundary i
    := by
    apply endsOn_moved (hmoved.mono hi)
    omega
  constructor
  · apply h.usable
  · apply h.located.closer_boundary hstart.le hend hbetween
  · apply ((hmoved.mono hstart.le).at_iff le_rfl).mpr h.indented
  · constructor
    · apply (hends le_rfl).mpr h.ends.1
    · intro i hi
      by_contra hlt
      apply hlt
      apply h.ends.2
      apply (hends (not_le.mp hlt).le).mp hi

end

/-- What the answer of a resolver depends on.  Lines in front of the document without the
start marker only move the answer down by their number.  What comes after the boundary line
does not matter.  If there is a block, the lines between its last line and the boundary line
may be replaced by any that do not hold the boundary marker: the block stays and the boundary
line follows them. -/
theorem resolve_local (resolver : Resolver) (lines : List Line) :
  (∀ front : List Line, (∀ line ∈ front, ¬ resolver.startMarker <:+: line) →
      (resolver.resolve (front ++ lines)).value
        = shiftAnswer front.length (resolver.resolve lines).value)
  ∧ (∀ start boundary, resolver.Located lines start boundary → ∀ rest : List Line,
      (resolver.resolve (lines.take (boundary + 1) ++ rest)).value
        = (resolver.resolve lines).value)
  ∧ (∀ span, (resolver.resolve lines).value = .ok span →
      ∀ between : List Line, (∀ line ∈ between, ¬ resolver.boundaryMarker <:+: line) →
        (resolver.resolve
            (lines.take (span.last + 1) ++ between ++ lines.drop span.boundary)).value
          = .ok ⟨span.first, span.last, span.last + 1 + between.length⟩)
  := by
  refine ⟨?_, ?_, ?_⟩
  · intro front hfront
    apply resolve_append_front hfront
  · intro start boundary hlocated rest
    have hlength := hlocated.isLeast_boundary.1.2.lt_length
    have hmoved := resolve_moved hlocated (Line.moved_take_append hlength rest) (by simp)
    rw [hmoved, shiftAnswer_zero]
  · intro span hspan between hbetween
    apply resolve_of_finds
    apply (resolve_eq_ok_iff.mp hspan).closer_boundary hbetween

/-- The sample behind one more line, with another end, and with other lines before its
boundary line. -/
theorem resolve_local_sample :
  ((sample .firstExact).resolve (['B'] :: sampleLines)).value = .ok ⟨2, 5, 8⟩
    ∧ ((sample .firstExact).resolve (sampleLines ++ [['S']])).value = .ok ⟨1, 4, 7⟩
    ∧ ((sample .firstExact).resolve
        (sampleLines.take 5 ++ [['S'], ['B']] ++ sampleLines.drop 7)).value = .ok ⟨1, 4, 7⟩
  := by
  obtain ⟨hfront, hrest, hbetween⟩ := resolve_local (sample .firstExact) sampleLines
  refine ⟨?_, ?_, ?_⟩
  · apply hfront [['B']] (by decide)
  · apply hrest 1 7 (locate_eq_ok_iff.mp rfl) [['S']]
  · apply hbetween ⟨1, 4, 7⟩ rfl [['S'], ['B']] (by decide)

end Resolver

end Excision
