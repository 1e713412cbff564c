import Excision.Proofs.Resolver.Locality

/-!
# Lines put into a block

A line that neither opens nor closes a construct does not change the depth, wherever in a block
it is put (`depth_insertIdx`).  So if it does not hold the boundary marker either, a block that
the balanced strategy finds is found with the line in it, one line longer than before
(`Finds.insertIdx`).
-/

namespace Excision

/-! ### Documents with one more line -/

namespace Line

section

variable {lines : List Line} {line : Line} {place index : Nat} {p : Line → Prop}

/-- The lines before the place stay where they are. -/
theorem moved_insertIdx (lines : List Line) (line : Line) (h : index < place) :
  Moved 0 lines (lines.insertIdx place line) index
  := by
  intro i hi
  apply List.getElem?_insertIdx_of_lt
  omega

theorem getElem?_insertIdx_succ (h : place ≤ index) :
  (lines.insertIdx place line)[index + 1]? = lines[index]?
  := by
  rw [List.getElem?_insertIdx_of_gt (by omega), Nat.add_sub_cancel]

theorem at_insertIdx_self (h : place ≤ lines.length) :
  At p (lines.insertIdx place line) place ↔ p line
  := by
  simp [At, List.getElem?_insertIdx_self, h]

/-- The lines from the place on stand one line further down. -/
theorem at_insertIdx_succ (h : place ≤ index) :
  At p (lines.insertIdx place line) (index + 1) ↔ At p lines index
  := by
  rw [At, At, getElem?_insertIdx_succ h]

/-- The first line of a kind from a line before the place on moves down by one if it stands
behind the place, if the line put in is not of the kind. -/
theorem isLeast_insertIdx {start : Nat} (hline : ¬ p line) (hplace : place ≤ index)
    (hleast : IsLeast {i | start ≤ i ∧ At p lines i} index) (hstart : start ≤ place) :
  IsLeast {i | start ≤ i ∧ At p (lines.insertIdx place line) i} (index + 1)
  := by
  obtain ⟨⟨hle, hindex⟩, hleast⟩ := hleast
  constructor
  · exact ⟨by omega, (at_insertIdx_succ hplace).mpr hindex⟩
  · rintro i ⟨hi, hat⟩
    rcases lt_trichotomy i place with hlt | rfl | hgt
    · have hmoved : At p lines i := ((moved_insertIdx lines line hlt).at_iff le_rfl).mp hat
      have hindex : index ≤ i := hleast ⟨hi, hmoved⟩
      omega
    · rw [at_insertIdx_self (hplace.trans hindex.lt_length.le)] at hat
      contradiction
    · obtain ⟨earlier, rfl⟩ := Nat.exists_eq_add_of_le' (show 1 ≤ i by omega)
      have hindex : index ≤ earlier :=
        hleast ⟨by omega, (at_insertIdx_succ (by omega)).mp hat⟩
      omega

end

end Line

namespace Resolver

section

variable {resolver : Resolver} {openToken : Text} {lines : List Line} {line : Line}
  {start boundary place index : Nat}

/-- Up to the place the depth is what it was. -/
theorem depth_insertIdx_of_le (h : index ≤ place) :
  resolver.depth openToken (lines.insertIdx place line) start index
    = resolver.depth openToken lines start index
  := by
  have hsame : ∀ i < index, (lines.insertIdx place line)[i + 0]? = lines[i]? := by
    intro i hi
    apply List.getElem?_insertIdx_of_lt
    omega
  apply depth_moved hsame

/-- Before the place, the line put in decides nothing. -/
theorem closesBlock_insertIdx_of_lt (hplace : index < place) (hboundary : index < boundary) :
  resolver.ClosesBlock openToken (lines.insertIdx place line) start (boundary + 1) index
    ↔ resolver.ClosesBlock openToken lines start boundary index
  := by
  have hmoved := Line.moved_insertIdx lines line hplace
  have hdepth : resolver.depth openToken (lines.insertIdx place line) start index
      = resolver.depth openToken lines start index
    := depth_insertIdx_of_le hplace.le
  have hat : Line.At resolver.ClosesExactly (lines.insertIdx place line) index
      ↔ Line.At resolver.ClosesExactly lines index
    := hmoved.at_iff le_rfl
  simp only [ClosesBlock, hdepth, hat, hboundary, Nat.lt_succ_of_lt hboundary]

variable (hopens : ¬ resolver.Opens openToken line) (hcloses : ¬ resolver.Closes line)

include hopens hcloses

/-! ### The depth -/

theorem tally_of_neutral (depth : Nat) :
  resolver.tally openToken depth line = depth
  := by
  rw [tally, if_neg hopens, if_neg hcloses]

/-- Behind a line that neither opens nor closes a construct the depth is what it would be
without that line. -/
theorem depth_insertIdx (hstart : start ≤ place) (hplace : place ≤ index)
    (hindex : index ≤ lines.length) :
  resolver.depth openToken (lines.insertIdx place line) start (index + 1)
    = resolver.depth openToken lines start index
  := by
  induction index, hplace using Nat.le_induction with
  | base =>
    have hline : (lines.insertIdx place line)[place]? = some line := by
      simp [List.getElem?_insertIdx_self, hindex]
    rw [depth_succ hstart hline, tally_of_neutral hopens hcloses, depth_insertIdx_of_le le_rfl]
  | succ index hplace ih =>
    have hnext : lines[index]? = some lines[index] := List.getElem?_eq_getElem hindex
    have hmoved : (lines.insertIdx place line)[index + 1]? = some lines[index] := by
      rw [Line.getElem?_insertIdx_succ hplace, hnext]
    rw [depth_succ (by omega) hmoved, depth_succ (by omega) hnext, ih (by omega)]

/-! ### The block -/

/-- Behind the place the block may end on the lines on which it might end before, one line
further down. -/
theorem closesBlock_insertIdx_succ (hstart : start ≤ place) (hplace : place ≤ index)
    (hstrict : start < index) :
  resolver.ClosesBlock openToken (lines.insertIdx place line) start (boundary + 1) (index + 1)
    ↔ resolver.ClosesBlock openToken lines start boundary index
  := by
  unfold ClosesBlock
  rw [Line.at_insertIdx_succ hplace]
  constructor
  · rintro ⟨-, hboundary, hline, hdepth⟩
    rw [depth_insertIdx hopens hcloses hstart hplace hline.lt_length.le] at hdepth
    exact ⟨hstrict, by omega, hline, hdepth⟩
  · rintro ⟨-, hboundary, hline, hdepth⟩
    rw [depth_insertIdx hopens hcloses hstart hplace hline.lt_length.le]
    exact ⟨by omega, by omega, hline, hdepth⟩

/-- A block that the balanced strategy finds is found with a further line in it that neither
opens nor closes a construct and does not hold the boundary marker. -/
theorem Finds.insertIdx {span : Span} (hstrategy : resolver.strategy = .balanced openToken)
    (hmarker : ¬ resolver.boundaryMarker <:+: line) (h : resolver.Finds lines span)
    (hfirst : span.first < place) (hlast : place ≤ span.last) :
  resolver.Finds (lines.insertIdx place line)
    ⟨span.first, span.last + 1, span.boundary + 1⟩
  := by
  have hboundary := h.ends.1.lt_boundary
  have hmoved := Line.moved_insertIdx lines line hfirst
  refine ⟨h.usable, ⟨?_, ?_⟩, ?_, ?_, ?_⟩
  · apply hmoved.isLeast_first le_rfl (by simp) h.located.isLeast_start
  · apply Line.isLeast_insertIdx hmarker (by omega) h.located.isLeast_boundary hfirst.le
  · apply (hmoved.at_iff le_rfl).mpr h.indented
  · have hends := h.ends.1
    simp only [Set.mem_ofPred_eq, EndsOn, hstrategy] at hends ⊢
    apply (closesBlock_insertIdx_succ hopens hcloses hfirst.le hlast (by omega)).mpr hends
  · intro i hi
    simp only [Set.mem_ofPred_eq, EndsOn, hstrategy] at hi
    have hleast {index : Nat}
        (hends : resolver.ClosesBlock openToken lines span.first span.boundary index) :
        span.last ≤ index
      := by
      apply h.ends.2
      simp only [Set.mem_ofPred_eq, EndsOn, hstrategy]
      apply hends
    rcases lt_trichotomy i place with hlt | rfl | hgt
    · have hindex := hleast ((closesBlock_insertIdx_of_lt hlt (by omega)).mp hi)
      omega
    · have hlength := h.ends.1.content.lt_length
      obtain ⟨-, -, hline, -⟩ := hi
      rw [Line.at_insertIdx_self (by omega)] at hline
      apply absurd hline.1 hcloses
    · obtain ⟨index, rfl⟩ := Nat.exists_eq_add_of_le' (show 1 ≤ i by omega)
      have hindex := hleast
        ((closesBlock_insertIdx_succ hopens hcloses hfirst.le (by omega) (by omega)).mp hi)
      apply Nat.add_le_add_right hindex

end

end Resolver

end Excision
