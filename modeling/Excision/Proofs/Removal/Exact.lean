import Excision.Edit
import Excision.Proofs.Removal.Cut

/-!
# What a cut does, and how two of them meet

A span cuts lines exactly if they are some lines before it, the lines of the span, and some
lines behind it (`cut_eq_ok_iff_parts`).  So the lines of a span can be put back where they
were, and of two spans that have no line in common either may be cut out first: the lines
that the later one names have moved up then by the number of lines of the earlier one
(`cut_comm`).
-/

namespace Excision

namespace Span

/-- The span of the lines that a span names, after `count` lines above it have been taken
out. -/
def movedUp (span : Span) (count : Nat) : Span where
  first := span.first - count
  last := span.last - count
  boundary := span.boundary

variable {span upper lower : Span} {lines : List Line} {cut : Cut}

theorem exists_cut_iff :
  (∃ cut, span.cut lines = .ok cut) ↔ span.first ≤ span.last ∧ span.last < lines.length
  := by
  constructor
  · rintro ⟨cut, hcut⟩
    exact (cut_eq_ok_iff.mp hcut).1
  · intro h
    exact ⟨⟨_, _⟩, cut_eq_ok_iff.mpr ⟨h, rfl, rfl⟩⟩

theorem cut_eq_error (h : ¬ (span.first ≤ span.last ∧ span.last < lines.length)) :
  span.cut lines = .error (.spanOutOfRange span lines.length)
  := if_neg h

/-- The count of a span is the number of the lines that are cut out, where a word can count
the lines. -/
theorem lineCount_eq_length_removed (hlines : lines.length < UInt64.size)
    (h : span.cut lines = .ok cut) :
  span.lineCount = cut.removed.length
  := by
  obtain ⟨⟨hle, hlt⟩, -, -⟩ := cut_eq_ok_iff.mp h
  have hlength := length_removed h
  unfold lineCount UInt64.size at *
  omega

/-- A span cuts lines into those before it, its own and those behind it. -/
theorem cut_eq_ok_iff_parts :
  span.cut lines = .ok cut ↔
    ∃ front back, lines = front ++ cut.removed ++ back ∧ cut.rest = front ++ back
      ∧ front.length = span.first ∧ front.length + cut.removed.length = span.last + 1
      ∧ cut.removed ≠ []
  := by
  constructor
  · intro h
    have hlength := length_removed h
    obtain ⟨⟨hle, hlt⟩, -, hrest⟩ := cut_eq_ok_iff.mp h
    have hfront : (lines.take span.first).length = span.first := by
      rw [List.length_take]
      omega
    refine ⟨_, _, (cut_append h).symm, hrest, hfront, ?_, ?_⟩
    · omega
    · apply List.ne_nil_of_length_pos
      omega
  · rintro ⟨front, back, rfl, hrest, hfront, hremoved, hne⟩
    have hpos := List.length_pos_iff.mpr hne
    have hlength : (front ++ cut.removed).length = span.last + 1 := by
      rw [List.length_append, hremoved]
    rw [cut_eq_ok_iff, ← hlength, List.take_left, List.drop_left, ← hfront, List.drop_left, hrest,
      List.append_assoc, List.take_left]
    refine ⟨⟨?_, ?_⟩, rfl, rfl⟩
    · omega
    · simp only [List.length_append]
      omega

/-- The lines of a span, put back at its first line, give the whole again. -/
theorem rest_insert_removed (h : span.cut lines = .ok cut) :
  cut.rest.take span.first ++ cut.removed ++ cut.rest.drop span.first = lines
  := by
  obtain ⟨front, back, rfl, hrest, hfront, -, -⟩ := cut_eq_ok_iff_parts.mp h
  rw [hrest, ← hfront, List.take_left, List.drop_left]

/-- Of two spans, one above the other, either may be cut out first. -/
theorem cut_comm (hupper : upper.first ≤ upper.last) (hdisjoint : upper.last < lower.first)
    (hlower : lower.first ≤ lower.last) (hlines : lower.last < lines.length) :
  ∃ above below withoutUpper withoutLower rest,
    upper.cut lines = .ok ⟨above, withoutUpper⟩
    ∧ (lower.movedUp above.length).cut withoutUpper = .ok ⟨below, rest⟩
    ∧ lower.cut lines = .ok ⟨below, withoutLower⟩
    ∧ upper.cut withoutLower = .ok ⟨above, rest⟩
  := by
  obtain ⟨⟨above, withoutUpper⟩, habove⟩ :=
    exists_cut_iff.mpr ⟨hupper, show upper.last < lines.length by omega⟩
  obtain ⟨front, tail, rfl, hwithoutUpper, hfront, hlast, hne⟩ := cut_eq_ok_iff_parts.mp habove
  dsimp only at hwithoutUpper hlast hne
  -- The lower span lies in what follows the upper one.
  have hin : (lower.movedUp (upper.last + 1)).first ≤ (lower.movedUp (upper.last + 1)).last
      ∧ (lower.movedUp (upper.last + 1)).last < tail.length
    := by
    simp only [List.length_append] at hlines
    dsimp only [movedUp]
    omega
  obtain ⟨⟨below, remaining⟩, hbelow⟩ := exists_cut_iff.mpr hin
  obtain ⟨middle, back, rfl, -, hmiddle, hlast', hne'⟩ := cut_eq_ok_iff_parts.mp hbelow
  dsimp only [movedUp] at hmiddle hlast' hne'
  refine ⟨above, below, withoutUpper, front ++ above ++ middle ++ back, front ++ middle ++ back,
    habove, ?_, ?_, ?_⟩
  · rw [cut_eq_ok_iff_parts]
    refine ⟨front ++ middle, back, by simp [hwithoutUpper], by simp, ?_, ?_, hne'⟩
    · dsimp only [movedUp]
      rw [List.length_append]
      omega
    · dsimp only [movedUp]
      rw [List.length_append]
      omega
  · rw [cut_eq_ok_iff_parts]
    refine ⟨front ++ above ++ middle, back, by simp, by simp, ?_, ?_, hne'⟩
    · simp only [List.length_append]
      omega
    · simp only [List.length_append]
      omega
  · rw [cut_eq_ok_iff_parts]
    exact ⟨front, middle ++ back, by simp, by simp, hfront, hlast, hne⟩

/-- Cuts are exact.  A span cuts lines exactly if its lines come in order and exist, wherever its
boundary is.  Then its lines are taken out, as many as it counts, where the count neither leaves
the length of the list nor goes below zero, and does not wrap round if that length is a word; all
others stay, and putting its lines back at its first line undoes the cut.  A span that cannot be
cut out is named by the error, with the length of the list, and a document from which it should
be removed stays as it is.  Two spans that have no line in common can be cut out in either
order. -/
theorem cut_exact (lines : List Line) :
  (∀ span : Span, (∃ cut, span.cut lines = .ok cut)
    ↔ span.first ≤ span.last ∧ span.last < lines.length)
  ∧ (∀ (span : Span) (cut : Cut), span.cut lines = .ok cut →
      cut.removed = (lines.take (span.last + 1)).drop span.first
      ∧ cut.removed.length + span.first = span.last + 1 ∧ span.last + 1 ≤ lines.length
      ∧ (lines.length < UInt64.size → span.lineCount = cut.removed.length)
      ∧ cut.rest = lines.take span.first ++ lines.drop (span.last + 1)
      ∧ cut.rest.take span.first ++ cut.removed ++ cut.rest.drop span.first = lines
      ∧ Document.edit ⟨lines⟩ (.remove span) = (.quiet (.ok (.removed cut.removed)), ⟨cut.rest⟩))
  ∧ (∀ span : Span, ¬ (span.first ≤ span.last ∧ span.last < lines.length) →
      span.cut lines = .error (.spanOutOfRange span lines.length)
      ∧ Document.edit ⟨lines⟩ (.remove span)
        = (.quiet (.error (.spanOutOfRange span lines.length)), ⟨lines⟩))
  ∧ ∀ upper lower : Span, upper.first ≤ upper.last → upper.last < lower.first →
      lower.first ≤ lower.last → lower.last < lines.length →
      ∃ above below withoutUpper withoutLower rest,
        upper.cut lines = .ok ⟨above, withoutUpper⟩
        ∧ (lines.length < UInt64.size → upper.lineCount = above.length)
        ∧ (lower.movedUp above.length).cut withoutUpper = .ok ⟨below, rest⟩
        ∧ lower.cut lines = .ok ⟨below, withoutLower⟩
        ∧ upper.cut withoutLower = .ok ⟨above, rest⟩
  := by
  refine ⟨fun _ => exists_cut_iff, ?_, ?_, ?_⟩
  · intro span cut hcut
    obtain ⟨⟨hle, hlt⟩, hremoved, hrest⟩ := cut_eq_ok_iff.mp hcut
    refine ⟨hremoved, ?_, hlt, fun hlines => lineCount_eq_length_removed hlines hcut, hrest,
      rest_insert_removed hcut, ?_⟩
    · rw [length_removed hcut]
      omega
    · simp only [Document.edit, hcut]
  · intro span hspan
    have herror := cut_eq_error hspan
    refine ⟨herror, ?_⟩
    simp only [Document.edit, herror]
  · intro upper lower hupper hdisjoint hlower hlines
    obtain ⟨above, below, withoutUpper, withoutLower, rest, habove, hcuts⟩ :=
      cut_comm hupper hdisjoint hlower hlines
    exact ⟨above, below, withoutUpper, withoutLower, rest, habove,
      fun hwords => lineCount_eq_length_removed hwords habove, hcuts⟩

/-- Of five lines, two in the middle and the last one; and a span with the largest number. -/
theorem cut_exact_sample :
  let lines : List Line := [['a'], ['b'], ['c'], ['d'], ['e']]
  ((⟨1, 2, 0⟩ : Span).cut lines = .ok ⟨[['b'], ['c']], [['a'], ['d'], ['e']]⟩
    ∧ (⟨1, 2, 0⟩ : Span).lineCount = 2)
  ∧ Document.edit ⟨lines⟩ (.remove ⟨0, 18446744073709551615, 0⟩)
    = (.quiet (.error (.spanOutOfRange ⟨0, 18446744073709551615, 0⟩ 5)), ⟨lines⟩)
  ∧ ∃ above below withoutUpper withoutLower rest,
      (⟨1, 2, 0⟩ : Span).cut lines = .ok ⟨above, withoutUpper⟩
      ∧ (⟨2, 2, 7⟩ : Span).cut withoutUpper = .ok ⟨below, rest⟩
      ∧ (⟨4, 4, 7⟩ : Span).cut lines = .ok ⟨below, withoutLower⟩
      ∧ (⟨1, 2, 0⟩ : Span).cut withoutLower = .ok ⟨above, rest⟩
  := by
  intro lines
  obtain ⟨-, hcuts, hfails, hcomm⟩ := cut_exact lines
  obtain ⟨-, -, -, hcount, -⟩ := hcuts ⟨1, 2, 0⟩ ⟨[['b'], ['c']], [['a'], ['d'], ['e']]⟩ rfl
  refine ⟨⟨rfl, hcount (by decide)⟩, ?_, ?_⟩
  · exact (hfails ⟨0, 18446744073709551615, 0⟩ (by decide)).2
  · obtain ⟨above, below, withoutUpper, withoutLower, rest, habove, -, hcut⟩ :=
      hcomm ⟨1, 2, 0⟩ ⟨4, 4, 7⟩ (by decide) (by decide) (by decide) (by decide)
    cases habove
    exact ⟨_, below, _, withoutLower, rest, rfl, hcut⟩

end Span

end Excision
