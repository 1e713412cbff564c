import Excision.Proofs.Resolver.Strategy
import Mathlib.Data.List.Induction
import Mathlib.Data.List.Infix

/-!
# Nesting

The balanced strategy finds the real end of a block.  `WellNested` says of a run of lines
that its constructs are well nested: none of its fronts closes more constructs than it opens,
and the whole run closes as many as it opens.  Before a closing line of such a run at least
one construct of the run is open, so behind the line that opens the block the depth is two or
more there, and the search passes the run whatever its closing lines look like
(`scanBalanced_block`).
-/

namespace Excision

namespace Resolver

/-- The number of lines that open a construct. -/
def openCount (resolver : Resolver) (openToken : Text) (lines : List Line) : Nat :=
  lines.countP fun line => resolver.Opens openToken line

/-- The number of lines that close a construct. -/
def closeCount (resolver : Resolver) (lines : List Line) : Nat :=
  lines.countP fun line => resolver.Closes line

/-- The constructs of the lines are well nested. -/
structure WellNested (resolver : Resolver) (openToken : Text) (lines : List Line) :
    Prop where
  /-- No front closes more constructs than it opens. -/
  front_le :
    ∀ front, front <+: lines → resolver.closeCount front ≤ resolver.openCount openToken front
  /-- All lines together close as many as they open. -/
  count_eq : resolver.closeCount lines = resolver.openCount openToken lines

instance (resolver : Resolver) (openToken : Text) (lines : List Line) :
    Decidable (resolver.WellNested openToken lines) :=
  decidable_of_iff
    ((∀ front ∈ lines.inits,
        resolver.closeCount front ≤ resolver.openCount openToken front)
      ∧ resolver.closeCount lines = resolver.openCount openToken lines)
    ⟨fun h => ⟨fun front hfront => h.1 front ((List.mem_inits _ _).mpr hfront), h.2⟩,
      fun h => ⟨fun front hfront => h.front_le front ((List.mem_inits _ _).mp hfront),
        h.count_eq⟩⟩

section

variable {resolver : Resolver} {openToken : Text}

/-! ### Counting -/

@[simp]
theorem openCount_concat (lines : List Line) (line : Line) :
  resolver.openCount openToken (lines ++ [line])
    = resolver.openCount openToken lines + if resolver.Opens openToken line then 1 else 0
  := by
  simp [openCount, List.countP_append, List.countP_singleton]

@[simp]
theorem closeCount_concat (lines : List Line) (line : Line) :
  resolver.closeCount (lines ++ [line])
    = resolver.closeCount lines + if resolver.Closes line then 1 else 0
  := by
  simp [closeCount, List.countP_append, List.countP_singleton]

theorem tally_of_opens {line : Line} (h : resolver.Opens openToken line) (depth : Nat) :
  resolver.tally openToken depth line = depth + 1
  := if_pos h

theorem tally_of_closes {line : Line} (h : resolver.Closes line) (depth : Nat) :
  resolver.tally openToken depth line = depth - 1
  := by
  rw [tally, if_neg, if_pos h]
  intro hopens
  apply not_closes_of_opens hopens h

/-- Lines that open nothing leave the depth at zero, for it is never below. -/
theorem foldl_tally_zero {lines : List Line}
    (h : ∀ line ∈ lines, ¬ resolver.Opens openToken line) :
  lines.foldl (resolver.tally openToken) 0 = 0
  := by
  induction lines with
  | nil => rfl
  | cons line lines ih =>
    rw [List.forall_mem_cons] at h
    have hline : resolver.tally openToken 0 line = 0 := by
      rw [tally, if_neg h.1, Nat.zero_sub, ite_self]
    rw [List.foldl_cons, hline, ih h.2]

/-- As long as no front closes more constructs than are open, each opening line counts one
up and each closing line one down. -/
theorem foldl_tally_add {lines : List Line} {depth : Nat}
    (h : ∀ front, front <+: lines →
      resolver.closeCount front ≤ depth + resolver.openCount openToken front) :
  lines.foldl (resolver.tally openToken) depth + resolver.closeCount lines
    = depth + resolver.openCount openToken lines
  := by
  induction lines using List.reverseRec with
  | nil => simp [closeCount, openCount]
  | append_singleton lines line ih =>
    have hlines := ih fun front hfront =>
      h front (hfront.trans (List.prefix_append lines [line]))
    have hwhole := h _ (List.prefix_refl _)
    rw [closeCount_concat, openCount_concat] at hwhole ⊢
    rw [List.foldl_append, List.foldl_cons, List.foldl_nil]
    by_cases hopens : resolver.Opens openToken line
    · rw [tally_of_opens hopens, if_pos hopens, if_neg (not_closes_of_opens hopens)]
      omega
    · rw [if_neg hopens] at hwhole ⊢
      by_cases hcloses : resolver.Closes line
      · rw [if_pos hcloses] at hwhole ⊢
        rw [tally_of_closes hcloses]
        omega
      · rw [if_neg hcloses, tally, if_neg hopens, if_neg hcloses]
        omega

/-! ### Passing lines -/

/-- The search passes a run of lines if no line of it closes a construct at depth one. -/
theorem scanBalanced_append {lines : List Line} {start index depth : Nat}
    (h : ∀ front line, front ++ [line] <+: lines → resolver.Closes line →
      front.foldl (resolver.tally openToken) depth ≠ 1)
    (rest : List Line) :
  resolver.scanBalanced openToken start index depth (lines ++ rest)
    = resolver.scanBalanced openToken start (index + lines.length)
        (lines.foldl (resolver.tally openToken) depth) rest
  := by
  induction lines generalizing index depth with
  | nil => rfl
  | cons line lines ih =>
    have hline : ¬ (resolver.role openToken line = .closing ∧ start < index ∧ depth = 1
        ∧ line.content = resolver.closingLine)
      := by
      rintro ⟨hcloses, -, hdepth, -⟩
      apply h [] line
      · simp
      · apply role_eq_closing_iff.mp hcloses
      · apply hdepth
    rw [List.cons_append, scanBalanced]
    simp only [if_neg hline]
    rw [step_role, ih, List.foldl_cons, List.length_cons]
    · congr 1
      omega
    · intro front other hfront
      apply h (line :: front) other
      simpa using hfront

/-- The search passes lines that open nothing and leaves the depth at zero. -/
theorem scanBalanced_head {head : List Line} {start index : Nat}
    (h : ∀ line ∈ head, ¬ resolver.Opens openToken line) (rest : List Line) :
  resolver.scanBalanced openToken start index 0 (head ++ rest)
    = resolver.scanBalanced openToken start (index + head.length) 0 rest
  := by
  rw [scanBalanced_append, foldl_tally_zero h]
  intro front line hfront _
  have hzero : front.foldl (resolver.tally openToken) 0 = 0 := by
    apply foldl_tally_zero
    intro other hother
    apply h
    apply hfront.subset
    simp [hother]
  omega

/-- Behind the line that opens the block the search passes a well nested run. -/
theorem scanBalanced_body {body : List Line} {start index : Nat}
    (h : resolver.WellNested openToken body) (rest : List Line) :
  resolver.scanBalanced openToken start index 1 (body ++ rest)
    = resolver.scanBalanced openToken start (index + body.length) 1 rest
  := by
  have hdepth {front : List Line} (hfront : front <+: body) :
      front.foldl (resolver.tally openToken) 1 + resolver.closeCount front
        = 1 + resolver.openCount openToken front
    := by
    apply foldl_tally_add
    intro part hpart
    have hle := h.front_le part (hpart.trans hfront)
    omega
  rw [scanBalanced_append]
  · have hbody := hdepth (List.prefix_refl body)
    have hcount := h.count_eq
    congr 1
    omega
  · -- The front with the closing line closes one more than the front without it.
    intro front line hfront hcloses
    have hwith := h.front_le _ hfront
    have hwithout := hdepth ((List.prefix_append front [line]).trans hfront)
    have hopens : ¬ resolver.Opens openToken line :=
      fun hopens => not_closes_of_opens hopens hcloses
    rw [closeCount_concat, openCount_concat, if_pos hcloses, if_neg hopens] at hwith
    omega

/-- The search ends on the line that closes the block. -/
theorem scanBalanced_block {head body : List Line} {opener closer : Line} {start : Nat}
    (hhead : ∀ line ∈ head, ¬ resolver.Opens openToken line)
    (hopener : resolver.Opens openToken opener)
    (hbody : resolver.WellNested openToken body)
    (hcloser : resolver.ClosesExactly closer) (tail : List Line) :
  resolver.scanBalanced openToken start start 0
      (head ++ opener :: (body ++ closer :: tail))
    = some (start + head.length + 1 + body.length)
  := by
  have hrole : resolver.role openToken opener ≠ .closing := by
    rw [ne_eq, role_eq_closing_iff]
    apply not_closes_of_opens hopener
  rw [scanBalanced_head hhead, scanBalanced]
  simp only [hrole, false_and, if_false]
  rw [step_role, tally_of_opens hopener, scanBalanced_body hbody, scanBalanced]
  simp only [role_eq_closing_iff]
  rw [if_pos]
  exact ⟨hcloser.1, by omega, trivial, hcloser.2⟩

end

/-! ### The place of a block -/

/-- The first line of a block stands behind the lines before it. -/
theorem getElem?_block {before block rest : List Line} {first : Line}
    (hfirst : block.head? = some first) :
  (before ++ (block ++ rest))[before.length]? = some first
  := by
  rw [List.getElem?_append_right le_rfl, Nat.sub_self, ← List.head?_eq_getElem?,
    List.head?_append, hfirst, Option.some_or]

/-- A block that ends before the boundary line is what stands between the markers. -/
theorem drop_take_block (before block rest : List Line) :
  ((before ++ (block ++ rest)).take (before.length + block.length)).drop before.length
    = block
  := by
  rw [List.take_length_add_append, List.drop_left, List.take_left]

/-- The markers are found around a block if its first line is the first with the start
marker and the line behind it the first with the boundary marker. -/
theorem located_block {resolver : Resolver} {before block after : List Line}
    {first stop : Line} (hbefore : ∀ line ∈ before, ¬ resolver.startMarker <:+: line)
    (hfirst : block.head? = some first) (hmarker : resolver.startMarker <:+: first)
    (hblock : ∀ line ∈ block, ¬ resolver.boundaryMarker <:+: line)
    (hstop : resolver.boundaryMarker <:+: stop) :
  resolver.Located (before ++ (block ++ stop :: after)) before.length
    (before.length + block.length)
  := by
  constructor
  · obtain ⟨others, rfl⟩ := List.head?_eq_some_iff.mp hfirst
    simpa using Line.isLeast_at_append [] hbefore hmarker (others ++ stop :: after)
  · apply Line.isLeast_at_append before hblock hstop

/-- A block is found whole if its constructs are well nested. Let no line before it hold the
start marker and its first line hold it, and let the next line with the boundary marker stand
behind it. If the lines before the one that opens the block open nothing, the lines in it are
well nested, and a line with the content of the closing line comes next, then that line is
the last of the span. -/
theorem resolve_wellNested {resolver : Resolver} {openToken : Text}
    {before head body tail after : List Line} {opener closer stop : Line}
    (hstrategy : resolver.strategy = .balanced openToken)
    (hvalidate : resolver.validate = .ok ())
    (htoken : resolver.closingToken.Trimmed)
    (hbefore : ∀ line ∈ before, ¬ resolver.startMarker <:+: line)
    (hstart : ∀ line ∈ (head ++ [opener]).head?,
      resolver.startMarker <:+: line ∧ line.indentation <+: resolver.indent.text)
    (hblock : ∀ line ∈ head ++ [opener] ++ body ++ [closer] ++ tail,
      ¬ resolver.boundaryMarker <:+: line)
    (hstop : resolver.boundaryMarker <:+: stop)
    (hhead : ∀ line ∈ head, ¬ resolver.Opens openToken line)
    (hopener : resolver.Opens openToken opener)
    (hbody : resolver.WellNested openToken body)
    (hcloser : closer.content = resolver.closingLine) :
  (resolver.resolve
      (before ++ head ++ [opener] ++ body ++ [closer] ++ tail ++ [stop] ++ after)).value
    = .ok {
        first := before.length
        last := before.length + head.length + 1 + body.length
        boundary := before.length + head.length + 1 + body.length + 1 + tail.length }
  := by
  generalize hwhole : head ++ [opener] ++ body ++ [closer] ++ tail = block at hblock
  have hlines :
      before ++ head ++ [opener] ++ body ++ [closer] ++ tail ++ [stop] ++ after
        = before ++ (block ++ stop :: after)
    := by
    simp [← hwhole]
  have hlength : before.length + head.length + 1 + body.length + 1 + tail.length
      = before.length + block.length
    := by
    simp only [← hwhole, List.length_append, List.length_singleton]
    omega
  obtain ⟨first, hfirst⟩ : ∃ first, (head ++ [opener]).head? = some first :=
    ⟨_, List.head?_eq_some_head (by simp)⟩
  have hhead_block : block.head? = some first := by
    have hrest : block = (head ++ [opener]) ++ (body ++ [closer] ++ tail) := by
      simp [← hwhole]
    rw [hrest, List.head?_append, hfirst, Option.some_or]
  obtain ⟨hmarker, hindent⟩ := hstart first hfirst
  have hclosing : resolver.closing? (before ++ (block ++ stop :: after)) before.length
      (before.length + block.length) = some (before.length + head.length + 1 + body.length)
    := by
    have hblock_eq : block = head ++ opener :: (body ++ closer :: tail) := by
      simp [← hwhole]
    simp only [closing?, hstrategy, balanced?, drop_take_block]
    rw [hblock_eq]
    apply scanBalanced_block hhead hopener hbody (closesExactly_of_content htoken hcloser)
  rw [hlines, hlength]
  apply resolve_of_finds
  constructor
  · apply validate_eq_ok_iff.mp hvalidate
  · apply located_block hbefore hhead_block hmarker hblock hstop
  · exact ⟨first, getElem?_block hhead_block, hindent⟩
  · apply (closing?_isSearchOf _ _ _ _).some_iff.mp hclosing

/-- Two constructs, the second with a closing line like that of the sample's block. -/
def sampleBody : List Line :=
  [['<', 'd', '>', '\n'], ['<', '/', 'd', '>', '\n'], ['\t', '<', 'd', ' ', 'x', '>', '\n'],
    [' ', ' ', '<', '/', 'd', '>', '\n']]

/-- A closing line before the line that opens the block does not count, and neither do the
closing lines of the constructs in it. -/
theorem resolve_wellNested_sample :
  (sample (.balanced ['<', 'd'])).closingToken.Trimmed
    ∧ (sample (.balanced ['<', 'd'])).WellNested ['<', 'd'] sampleBody
    ∧ ((sample (.balanced ['<', 'd'])).resolve
        ([['A', '\n']] ++ [['S', '\n'], ['<', '/', 'd', '>', '\n']]
          ++ [[' ', '<', 'd', '>', '\n']] ++ sampleBody
          ++ [[' ', ' ', '<', '/', 'd', '>', '\r', '\n']] ++ [['B', '\n']] ++ [['E']]
          ++ [])).value
      = .ok ⟨1, 8, 10⟩
  := by
  have htoken : (sample (.balanced ['<', 'd'])).closingToken.Trimmed := by
    constructor
    · rintro c ⟨⟩
      rfl
    · rintro c ⟨⟩
      rfl
  have hbody : (sample (.balanced ['<', 'd'])).WellNested ['<', 'd'] sampleBody := by
    decide
  use htoken, hbody
  apply resolve_wellNested rfl rfl htoken (by decide) (by decide) (by decide) (by decide)
    (by decide) (by decide) hbody (by decide)

end Resolver

end Excision
