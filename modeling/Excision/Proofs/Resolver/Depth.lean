import Excision.Proofs.Resolver.Search
import Excision.Proofs.Text.Trim

/-!
# Depth

The balanced strategy reads the lines from the start line on and counts how many constructs
are open.  Here a line is said to close a construct (`Closes`) or to open one (`Opens`) by
its trimmed content, and `depth` is the count of a run of lines, a fold that knows nothing of
the search.  The two agree: the search finds the first line after the start line that closes
a construct with the exact content of the closing line when just one construct is open
(`balanced?_isSearchOf`).
-/

namespace Excision

/-- Spaces and tabs are blank. -/
theorem Indent.blank_text (indent : Indent) :
  Text.Blank indent.text
  := by
  intro c hc
  have hchar := List.all_eq_true.mp indent.blank c hc
  simp only [Line.isIndentChar, Bool.or_eq_true, beq_iff_eq] at hchar
  obtain rfl | rfl := hchar
  · rfl
  · rfl

namespace Resolver

/-- The line begins with the closing token. Blank characters at its ends do not count. -/
def Closes (resolver : Resolver) (line : Line) : Prop :=
  resolver.closingToken <+: line.content.trim

/-- The line begins with the opening token, does not end with `/>` and does not hold the
closing token. Blank characters at its ends do not count. -/
def Opens (resolver : Resolver) (openToken : Text) (line : Line) : Prop :=
  openToken <+: line.content.trim ∧ ¬ ['/', '>'] <:+ line.content.trim
    ∧ ¬ resolver.closingToken <:+: line.content.trim

instance (resolver : Resolver) (line : Line) : Decidable (resolver.Closes line) :=
  inferInstanceAs (Decidable (resolver.closingToken <+: line.content.trim))

instance (resolver : Resolver) (openToken : Text) (line : Line) :
    Decidable (resolver.Opens openToken line) :=
  inferInstanceAs (Decidable (_ ∧ _ ∧ _))

/-- The depth after a line: one more if the line opens a construct, one less but never below
zero if it closes one. -/
def tally (resolver : Resolver) (openToken : Text) (depth : Nat) (line : Line) : Nat :=
  if resolver.Opens openToken line then depth + 1
  else if resolver.Closes line then depth - 1
  else depth

/-- The depth before line `index` when lines are counted from line `start` on. -/
def depth (resolver : Resolver) (openToken : Text) (lines : List Line) (start index : Nat) :
    Nat :=
  ((lines.take index).drop start).foldl (resolver.tally openToken) 0

/-- The line closes a construct and has the exact content of the closing line. -/
def ClosesExactly (resolver : Resolver) (line : Line) : Prop :=
  resolver.Closes line ∧ line.content = resolver.closingLine

/-- Line `index` stands between the start line and the boundary line and closes exactly the
one construct that is open before it. -/
def ClosesBlock (resolver : Resolver) (openToken : Text) (lines : List Line)
    (start boundary index : Nat) : Prop :=
  start < index ∧ index < boundary ∧ Line.At resolver.ClosesExactly lines index
    ∧ resolver.depth openToken lines start index = 1

section

variable {resolver : Resolver} {openToken : Text}

/-! ### The role of a line -/

/-- A line that opens a construct does not close one, for it would hold the closing token. -/
theorem not_closes_of_opens {line : Line} (h : resolver.Opens openToken line) :
  ¬ resolver.Closes line
  := by
  intro hcloses
  apply h.2.2
  apply List.IsPrefix.isInfix hcloses

/-- The role of a line says whether it closes a construct or opens one. -/
theorem role_eq (line : Line) :
  resolver.role openToken line
    = if resolver.Closes line then .closing
      else if resolver.Opens openToken line then .opening
      else .neutral
  := by
  have hopens :
      (Text.startsWith openToken line.content.trim
        && !Text.endsWith ['/', '>'] line.content.trim
        && !Text.holds resolver.closingToken line.content.trim) = true
      ↔ resolver.Opens openToken line
    := by
    simp only [Opens, Bool.and_eq_true, Bool.not_eq_true', ← Bool.not_eq_true, and_assoc,
      Text.startsWith_iff, Text.endsWith_iff, Text.holds_iff]
  unfold role
  simp only [hopens, Text.startsWith_iff, Closes]
  congr

theorem role_eq_closing_iff {line : Line} :
  resolver.role openToken line = .closing ↔ resolver.Closes line
  := by
  rw [role_eq]
  split
  · simp [*]
  · split
    · simp [*]
    · simp [*]

/-- The role of a line steps the depth as `tally` does. -/
theorem step_role (line : Line) (depth : Nat) :
  (resolver.role openToken line).step depth = resolver.tally openToken depth line
  := by
  rw [role_eq, tally]
  by_cases hcloses : resolver.Closes line
  · have hopens : ¬ resolver.Opens openToken line :=
      fun hopens => not_closes_of_opens hopens hcloses
    simp only [if_pos hcloses, if_neg hopens]
    rfl
  · by_cases hopens : resolver.Opens openToken line
    · simp only [if_neg hcloses, if_pos hopens]
      rfl
    · simp only [if_neg hcloses, if_neg hopens]
      rfl

/-- A line with the content of the closing line closes a construct exactly, if the closing
token has no blank character at either end. -/
theorem closesExactly_of_content {line : Line} (htoken : resolver.closingToken.Trimmed)
    (hline : line.content = resolver.closingLine) :
  resolver.ClosesExactly line
  := by
  have htrim : line.content.trim = resolver.closingToken := by
    rw [hline, closingLine, Text.trim_append_of_blank (Indent.blank_text _),
      Text.trim_eq_self htoken]
  have hcloses : resolver.Closes line := by
    simp only [Closes, htrim, List.prefix_refl]
  exact ⟨hcloses, hline⟩

/-! ### The depth of a run of lines -/

/-- No construct is open before the start line. -/
theorem depth_self (lines : List Line) (start : Nat) :
  resolver.depth openToken lines start start = 0
  := by
  simp [depth]

/-- Each line from the start line on steps the depth. -/
theorem depth_succ {lines : List Line} {line : Line} {start index : Nat}
    (hstart : start ≤ index) (hline : lines[index]? = some line) :
  resolver.depth openToken lines start (index + 1)
    = resolver.tally openToken (resolver.depth openToken lines start index) line
  := by
  have hlength : index < lines.length := (List.getElem?_eq_some_iff.mp hline).1
  have htake : (lines.take (index + 1)).drop start
      = (lines.take index).drop start ++ [line]
    := by
    rw [List.take_add_one, hline, Option.toList_some, List.drop_append_of_le_length]
    rw [List.length_take]
    omega
  rw [depth, htake, List.foldl_append]
  rfl

/-- No construct is open after the line that closes the block. -/
theorem ClosesBlock.depth_succ {lines : List Line} {start boundary index : Nat}
    (h : resolver.ClosesBlock openToken lines start boundary index) :
  resolver.depth openToken lines start (index + 1) = 0
  := by
  obtain ⟨hlt, -, ⟨line, hline, hcloses, -⟩, hdepth⟩ := h
  rw [Resolver.depth_succ hlt.le hline, hdepth, tally, if_neg, if_pos hcloses]
  intro hopens
  apply not_closes_of_opens hopens hcloses

/-- Cutting the lines off after line `index` does not change the depth before it. -/
theorem depth_take {lines : List Line} {start index boundary : Nat}
    (h : index ≤ boundary) :
  resolver.depth openToken (lines.take boundary) start index
    = resolver.depth openToken lines start index
  := by
  rw [depth, List.take_take, Nat.min_eq_left h]
  rfl

/-! ### The search -/

/-- The search has the depth of the lines read so far in hand, so from any line on it finds
the first that closes the one open construct. -/
theorem scanBalanced_isSearchOf (resolver : Resolver) (openToken : Text)
    {lines rest : List Line} {start index : Nat}
    (hstart : start ≤ index) (hrest : lines.drop index = rest) :
  IsSearchOf
    (resolver.scanBalanced openToken start index
      (resolver.depth openToken lines start index) rest)
    {i | index ≤ i ∧ start < i ∧ Line.At resolver.ClosesExactly lines i
      ∧ resolver.depth openToken lines start i = 1}
  := by
  induction rest generalizing index with
  | nil =>
    apply isSearchOf_none
    rintro i ⟨hindex, -, hline, -⟩
    have hlength := hline.lt_length
    rw [List.drop_eq_nil_iff] at hrest
    omega
  | cons line rest ih =>
    have hline : lines[index]? = some line := by
      rw [← List.head?_drop, hrest, List.head?_cons]
    have htail : lines.drop (index + 1) = rest := by
      rw [← List.tail_drop, hrest, List.tail_cons]
    unfold scanBalanced
    simp only [role_eq_closing_iff]
    split
    next h =>
      obtain ⟨hcloses, hlt, hdepth, hcontent⟩ := h
      apply isSearchOf_some
      constructor
      · exact ⟨le_rfl, hlt, ⟨line, hline, hcloses, hcontent⟩, hdepth⟩
      · rintro i ⟨hindex, -⟩
        apply hindex
    next h =>
      have hnext := ih (Nat.le_succ_of_le hstart) htail
      rw [depth_succ hstart hline] at hnext
      rw [step_role]
      -- Line `index` itself is no candidate, so the next line may as well be the first.
      apply hnext.congr
      intro i
      constructor
      · rintro ⟨hindex, hcandidate⟩
        exact ⟨by omega, hcandidate⟩
      · rintro ⟨hindex, hlt, ⟨other, hother, hcloses, hcontent⟩, hdepth⟩
        refine ⟨?_, hlt, ⟨other, hother, hcloses, hcontent⟩, hdepth⟩
        rcases Nat.eq_or_lt_of_le hindex with rfl | hindex
        · obtain rfl : line = other := by
            rw [hline] at hother
            apply Option.some.inj hother
          exact absurd ⟨hcloses, hlt, hdepth, hcontent⟩ h
        · apply hindex

/-- The balanced search finds the first line between the start line and the boundary line
that closes the one open construct with the exact content of the closing line. -/
theorem balanced?_isSearchOf (lines : List Line) (start boundary : Nat) :
  IsSearchOf (resolver.balanced? openToken lines start boundary)
    {i | resolver.ClosesBlock openToken lines start boundary i}
  := by
  have h := scanBalanced_isSearchOf resolver openToken (le_refl start)
    (rfl : (lines.take boundary).drop start = _)
  rw [depth_self] at h
  apply h.congr
  intro i
  simp only [Set.mem_ofPred_eq, Line.at_take_iff, ClosesBlock]
  constructor
  · rintro ⟨-, hlt, ⟨hboundary, hline⟩, hdepth⟩
    rw [depth_take (by omega)] at hdepth
    exact ⟨hlt, hboundary, hline, hdepth⟩
  · rintro ⟨hlt, hboundary, hline, hdepth⟩
    rw [depth_take (by omega)]
    exact ⟨by omega, hlt, ⟨hboundary, hline⟩, hdepth⟩

end

end Resolver

end Excision
