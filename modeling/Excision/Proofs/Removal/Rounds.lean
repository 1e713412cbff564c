import Excision.Proofs.Removal.Block
import Mathlib.Logic.Function.Iterate

/-!
# Repeated removals

A text from which blocks are removed round after round, until none is found.  A round takes
one block out of the lines of the text (`exists_takesOut`), so that there is one line less
with the start marker at least, and the next block does not begin before it.  All rounds
together take out whole blocks and nothing else, and there are no more of them than lines
with the start marker (`rounds_runOut`).
-/

namespace Excision

namespace Resolver

/-- The text after a round: without the block that the resolver finds in it, and as it is if
there is none. -/
def round (resolver : Resolver) (text : Text) : Text :=
  match (resolver.removeBlock text).value with
  | .ok removal => removal.content
  | .error _ => text

/-- The text that is left after `count` rounds. -/
def textAfter (resolver : Resolver) (text : Text) (count : Nat) : Text :=
  resolver.round^[count] text

/-- What the round that follows `count` rounds comes to. -/
def roundAfter (resolver : Resolver) (text : Text) (count : Nat) : Except BlockError Removal :=
  (resolver.removeBlock (resolver.textAfter text count)).value

/-! ### One round -/

/-- The removal takes a block out of the lines of the text, between `before` and `after`. -/
structure TakesOut (resolver : Resolver) (text : Text) (removal : Removal)
    (before after : List Line) : Prop where
  /-- The lines before the block are those before the first of the span. -/
  length_before : before.length = removal.span.first
  /-- The block stands between the other lines. -/
  lines_eq : Line.ofText text = before ++ removal.removed ++ after
  /-- The other lines are those of the text that is left. -/
  content_eq : Line.ofText removal.content = before ++ after
  /-- The block has two lines at least. -/
  two_le_length : 2 ≤ removal.removed.length
  /-- No line before the block holds the start marker. -/
  before_start : ∀ line ∈ before, ¬ resolver.startMarker <:+: line
  /-- A line of the block does. -/
  removed_start : ∃ line ∈ removal.removed, resolver.startMarker <:+: line
  /-- No line of the block holds the boundary marker. -/
  removed_boundary : ∀ line ∈ removal.removed, ¬ resolver.boundaryMarker <:+: line

section

variable {resolver : Resolver} {text : Text} {removal : Removal} {before after : List Line}

/-- Every removal takes a block out of the lines. -/
theorem exists_takesOut (h : (resolver.removeBlock text).value = .ok removal) :
  ∃ before after, resolver.TakesOut text removal before after
  := by
  obtain ⟨span, cut, hfinds, hcut, rfl⟩ := removeBlock_eq_ok_iff.mp h
  obtain ⟨-, -, hrest⟩ := Span.cut_eq_ok_iff.mp hcut
  have hlength := Span.length_removed hcut
  have hstart := hfinds.ends.1.start_lt
  have hfirst := hfinds.located.isLeast_start.1.lt_length
  have hcanonical := Line.canonical_ofText text
  use (Line.ofText text).take span.first, (Line.ofText text).drop (span.last + 1)
  exact {
    length_before := List.length_take_of_le hfirst.le
    lines_eq := (Span.cut_append hcut).symm
    content_eq := by
      rw [Line.ofText_flatten (hcanonical.sublist (Span.rest_sublist hcut)), hrest]
    two_le_length := by
      simp only [hlength]
      omega
    before_start := fun _ hline => hfinds.notMem_take hline
    removed_start := by
      obtain ⟨line, hline, hmarker⟩ := hfinds.head?_removed hcut
      exact ⟨line, List.mem_of_mem_head? hline, hmarker⟩
    removed_boundary := fun _ hline => hfinds.notMem_removed hcut hline }

theorem TakesOut.sublist (h : resolver.TakesOut text removal before after) :
  (Line.ofText removal.content).Sublist (Line.ofText text)
  := by
  rw [h.content_eq, h.lines_eq]
  apply List.Sublist.append_right
  apply List.sublist_append_left

/-- The lines with the boundary marker stay. -/
theorem TakesOut.filter_boundary (h : resolver.TakesOut text removal before after) :
  (Line.ofText removal.content).filter (Text.holds resolver.boundaryMarker)
    = (Line.ofText text).filter (Text.holds resolver.boundaryMarker)
  := by
  have hremoved : removal.removed.filter (Text.holds resolver.boundaryMarker) = [] := by
    rw [List.filter_eq_nil_iff]
    intro line hline
    rw [Text.holds_iff]
    apply h.removed_boundary line hline
  rw [h.content_eq, h.lines_eq]
  simp [hremoved]

/-- A line with the start marker goes. -/
theorem TakesOut.countP_start_lt (h : resolver.TakesOut text removal before after) :
  (Line.ofText removal.content).countP (Text.holds resolver.startMarker)
    < (Line.ofText text).countP (Text.holds resolver.startMarker)
  := by
  have hremoved : 0 < removal.removed.countP (Text.holds resolver.startMarker) := by
    rw [List.countP_pos_iff]
    simpa using h.removed_start
  rw [h.content_eq, h.lines_eq]
  simp only [List.countP_append]
  omega

/-- A block that is found in what is left does not begin before the one that is gone. -/
theorem TakesOut.first_le (h : resolver.TakesOut text removal before after) {next : Removal}
    (hnext : (resolver.removeBlock removal.content).value = .ok next) :
  removal.span.first ≤ next.span.first
  := by
  obtain ⟨span, cut, hfinds, -, rfl⟩ := removeBlock_eq_ok_iff.mp hnext
  obtain ⟨line, hline, hmarker⟩ := hfinds.located.isLeast_start.1
  rw [h.content_eq] at hline
  by_contra hlt
  rw [not_le, ← h.length_before] at hlt
  rw [Option.mem_def, List.getElem?_append_left hlt] at hline
  apply h.before_start line (List.mem_of_getElem? hline) hmarker

end

/-! ### Many rounds -/

section

variable {resolver : Resolver} {text : Text} {count : Nat}

@[simp] theorem textAfter_zero (resolver : Resolver) (text : Text) :
  resolver.textAfter text 0 = text
  := rfl

theorem textAfter_succ (resolver : Resolver) (text : Text) (count : Nat) :
  resolver.textAfter text (count + 1) = resolver.round (resolver.textAfter text count)
  := Function.iterate_succ_apply' resolver.round count text

theorem textAfter_succ_of_ok {removal : Removal}
    (h : resolver.roundAfter text count = .ok removal) :
  resolver.textAfter text (count + 1) = removal.content
  := by
  rw [roundAfter] at h
  rw [textAfter_succ, round, h]

theorem textAfter_succ_of_error {error : BlockError}
    (h : resolver.roundAfter text count = .error error) :
  resolver.textAfter text (count + 1) = resolver.textAfter text count
  := by
  rw [roundAfter] at h
  rw [textAfter_succ, round, h]

/-- From the first round on that finds no block the text stays the same. -/
theorem textAfter_of_error {error : BlockError}
    (h : resolver.roundAfter text count = .error error) {later : Nat} (hle : count ≤ later) :
  resolver.textAfter text later = resolver.textAfter text count
  := by
  induction later, hle using Nat.le_induction with
  | base => rfl
  | succ later _ ih =>
    have hlater : resolver.roundAfter text later = .error error := by
      rw [← h, roundAfter, roundAfter, ih]
    rw [textAfter_succ_of_error hlater, ih]

/-- All rounds before one that finds a block have found one. -/
theorem exists_ok_of_le {removal : Removal} {earlier : Nat} (hle : earlier ≤ count)
    (h : resolver.roundAfter text count = .ok removal) :
  ∃ other, resolver.roundAfter text earlier = .ok other
  := by
  cases hearlier : resolver.roundAfter text earlier with
  | ok other => exact ⟨other, rfl⟩
  | error error =>
    rw [roundAfter, textAfter_of_error hearlier hle] at h
    rw [roundAfter, h] at hearlier
    contradiction

/-- What every round keeps, all rounds keep. -/
theorem textAfter_induction {motive : Text → Prop} (count : Nat) (hzero : motive text)
    (hround : ∀ before removal, (resolver.removeBlock before).value = .ok removal →
      motive before → motive removal.content) :
  motive (resolver.textAfter text count)
  := by
  induction count with
  | zero => apply hzero
  | succ count ih =>
    cases hresult : resolver.roundAfter text count with
    | ok removal =>
      rw [textAfter_succ_of_ok hresult]
      apply hround _ removal hresult ih
    | error error =>
      rw [textAfter_succ_of_error hresult]
      apply ih

theorem sublist_textAfter (resolver : Resolver) (text : Text) (count : Nat) :
  (Line.ofText (resolver.textAfter text count)).Sublist (Line.ofText text)
  := by
  apply textAfter_induction
    (motive := fun left => (Line.ofText left).Sublist (Line.ofText text)) count (.refl _)
  intro before removal h ih
  obtain ⟨_, _, htakes⟩ := exists_takesOut h
  apply htakes.sublist.trans ih

theorem filter_boundary_textAfter (resolver : Resolver) (text : Text) (count : Nat) :
  (Line.ofText (resolver.textAfter text count)).filter (Text.holds resolver.boundaryMarker)
    = (Line.ofText text).filter (Text.holds resolver.boundaryMarker)
  := by
  apply textAfter_induction
    (motive := fun left => (Line.ofText left).filter (Text.holds resolver.boundaryMarker)
      = (Line.ofText text).filter (Text.holds resolver.boundaryMarker)) count rfl
  intro before removal h ih
  obtain ⟨_, _, htakes⟩ := exists_takesOut h
  rw [htakes.filter_boundary, ih]

/-- While blocks are found, each round costs a line with the start marker. -/
theorem add_countP_textAfter_le
    (h : ∀ earlier < count, ∃ removal, resolver.roundAfter text earlier = .ok removal) :
  count + (Line.ofText (resolver.textAfter text count)).countP
      (Text.holds resolver.startMarker)
    ≤ (Line.ofText text).countP (Text.holds resolver.startMarker)
  := by
  induction count with
  | zero => simp
  | succ count ih =>
    obtain ⟨removal, hremoval⟩ := h count (Nat.lt_succ_self count)
    obtain ⟨_, _, htakes⟩ := exists_takesOut hremoval
    have hlt := htakes.countP_start_lt
    have hcount := ih fun earlier hlt => h earlier (Nat.lt_succ_of_lt hlt)
    rw [textAfter_succ_of_ok hremoval]
    omega

/-- The blocks begin no earlier from round to round. -/
theorem first_le_first {removal next : Removal} {later : Nat} (hle : count ≤ later)
    (h : resolver.roundAfter text count = .ok removal)
    (hnext : resolver.roundAfter text later = .ok next) :
  removal.span.first ≤ next.span.first
  := by
  induction later, hle using Nat.le_induction generalizing next with
  | base =>
    rw [h] at hnext
    cases hnext
    apply le_refl
  | succ later _ ih =>
    obtain ⟨middle, hmiddle⟩ := exists_ok_of_le (Nat.le_succ later) hnext
    obtain ⟨_, _, htakes⟩ := exists_takesOut hmiddle
    apply (ih hmiddle).trans
    apply htakes.first_le
    rw [← textAfter_succ_of_ok hmiddle]
    apply hnext

/-- Some round finds no block, and there are no more rounds before it than lines with the
start marker. -/
theorem exists_roundAfter_error (resolver : Resolver) (text : Text) :
  ∃ count ≤ (Line.ofText text).countP (Text.holds resolver.startMarker),
    ∃ error, resolver.roundAfter text count = .error error
  := by
  by_contra hnone
  push Not at hnone
  have hall : ∀ earlier < (Line.ofText text).countP (Text.holds resolver.startMarker) + 1,
      ∃ removal, resolver.roundAfter text earlier = .ok removal
    := by
    intro earlier hlt
    cases hresult : resolver.roundAfter text earlier with
    | ok removal => exact ⟨removal, rfl⟩
    | error error => exact absurd hresult (hnone earlier (Nat.le_of_lt_succ hlt) error)
  have hcount := add_countP_textAfter_le hall
  omega

end

/-- The rounds on a text take out whole blocks, one after the other, and come to an end. -/
structure RunOut (resolver : Resolver) (text : Text) : Prop where
  /-- There are no more rounds that find a block than lines with the start marker. -/
  bounded : ∃ rounds ≤ (Line.ofText text).countP (Text.holds resolver.startMarker),
    ∀ count, (∃ removal, resolver.roundAfter text count = .ok removal) ↔ count < rounds
  /-- A round that finds a block takes it out of the lines, two of them at least, and leaves
  the lines before and after it. -/
  block : ∀ count removal, resolver.roundAfter text count = .ok removal →
    2 ≤ removal.removed.length
      ∧ ∃ before after, before.length = removal.span.first
        ∧ Line.ofText (resolver.textAfter text count) = before ++ removal.removed ++ after
        ∧ Line.ofText (resolver.textAfter text (count + 1)) = before ++ after
  /-- The blocks begin no earlier from round to round. -/
  first_le : ∀ count later removal next, count ≤ later →
    resolver.roundAfter text count = .ok removal →
    resolver.roundAfter text later = .ok next → removal.span.first ≤ next.span.first
  /-- The lines with the boundary marker stay. -/
  boundary : ∀ count,
    (Line.ofText (resolver.textAfter text count)).filter (Text.holds resolver.boundaryMarker)
      = (Line.ofText text).filter (Text.holds resolver.boundaryMarker)
  /-- All lines that are left are lines of the text, in their order. -/
  sublist : ∀ count,
    (Line.ofText (resolver.textAfter text count)).Sublist (Line.ofText text)
  /-- From the first round on that finds no block the text stays the same, and so does the
  error. -/
  settled : ∀ count later error, count ≤ later →
    resolver.roundAfter text count = .error error →
    resolver.textAfter text later = resolver.textAfter text count
      ∧ resolver.roundAfter text later = .error error

/-- Removing blocks again and again takes out whole blocks and comes to an end. -/
theorem rounds_runOut (resolver : Resolver) (text : Text) :
  resolver.RunOut text
  where
  bounded := by
    classical
    obtain ⟨bound, hbound, hfails⟩ := resolver.exists_roundAfter_error text
    have hexists : ∃ count error, resolver.roundAfter text count = .error error :=
      ⟨bound, hfails⟩
    refine ⟨Nat.find hexists, (Nat.find_min' hexists hfails).trans hbound, ?_⟩
    intro count
    constructor
    · rintro ⟨removal, hremoval⟩
      by_contra hle
      obtain ⟨error, herror⟩ := Nat.find_spec hexists
      obtain ⟨other, hother⟩ := exists_ok_of_le (not_lt.mp hle) hremoval
      rw [hother] at herror
      contradiction
    · intro hlt
      cases hresult : resolver.roundAfter text count with
      | ok removal => exact ⟨removal, rfl⟩
      | error error => exact absurd ⟨error, hresult⟩ (Nat.find_min hexists hlt)
  block count removal h := by
    obtain ⟨before, after, htakes⟩ := exists_takesOut h
    refine ⟨htakes.two_le_length, before, after, htakes.length_before, htakes.lines_eq, ?_⟩
    rw [textAfter_succ_of_ok h, htakes.content_eq]
  first_le _ _ _ _ hle h hnext := first_le_first hle h hnext
  boundary := resolver.filter_boundary_textAfter text
  sublist := resolver.sublist_textAfter text
  settled count later error hle h := by
    have htext := textAfter_of_error h hle
    refine ⟨htext, ?_⟩
    rw [← h, roundAfter, roundAfter, htext]

end Resolver

end Excision
