import Excision.Proofs.Command.Remove
import Excision.Proofs.Removal.Exact
import Mathlib.Data.List.DropRight

/-!
# Showing the selected block

Showing a block, telling what removing it would do, and removing it are about the same lines.
Each row of the output is a line of the block behind its number (`Command.isRow_rows`), if a
word can count the lines of the document, as it can for every document that fits a memory of
that word; `Command.show_agrees_with_remove` puts the three commands side by side.
-/

namespace Excision

/-! ### Rows -/

namespace Command

/-- The row shows a line behind its number, in a gutter of this width. -/
structure IsRow (coloured : Bool) (width number : Nat) (line : Line) (row : Text) : Prop where
  /-- The number stands to the right, and the line has lost the terminators at its end. -/
  shape : ∃ pad bare ends,
    row = Tone.gutter.paint coloured (pad ++ Text.ofNat number ++ [' ', '|']) ++ ' ' :: bare
      ++ ['\n']
    ∧ (∀ c ∈ pad, c = ' ') ∧ (pad ++ Text.ofNat number).length = width
    ∧ line = bare ++ ends ∧ (∀ c ∈ ends, c = '\n' ∨ c = '\r')
    ∧ ∀ c ∈ bare.getLast?, c ≠ '\n' ∧ c ≠ '\r'

/-- A number needs no more digits than a greater one. -/
theorem length_ofNat_le {number greater : Nat} (h : number ≤ greater) :
  (Text.ofNat number).length ≤ (Text.ofNat greater).length
  := by
  have hpos : 0 < (Text.ofNat greater).length := Nat.length_toDigits_pos
  have hlt : greater < 10 ^ (Text.ofNat greater).length :=
    (Nat.length_toDigits_le_iff (by decide) hpos).mp le_rfl
  apply (Nat.length_toDigits_le_iff (by decide) hpos).mpr
  omega

theorem isRow_showLine (coloured : Bool) {width number : Nat} (line : Line)
    (h : (Text.ofNat number).length ≤ width) :
  IsRow coloured width number line (showLine coloured width number line ++ ['\n'])
  where
  shape := by
    refine ⟨List.replicate (width - (Text.ofNat number).length) ' ', line.bare,
      line.rtakeWhile fun c => c == '\n' || c == '\r', rfl, ?_, ?_, ?_, ?_, ?_⟩
    · intro c hc
      exact List.eq_of_mem_replicate hc
    · rw [List.length_append, List.length_replicate]
      omega
    · exact List.rdropWhile_append_rtakeWhile.symm
    · intro c hc
      simpa using List.mem_rtakeWhile_imp hc
    · intro c hc
      obtain ⟨hne, rfl⟩ := List.mem_getLast?_eq_getLast hc
      have hlast := List.rdropWhile_last_not (fun c => c == '\n' || c == '\r') line hne
      simp only [Bool.or_eq_true, beq_iff_eq, not_or] at hlast
      exact hlast

end Command

namespace Attempt

/-- Lines printed one after the other. -/
theorem exec_forM_printLine {ε α : Type} (line : α → Text) (items : List α) (session : Session) :
  (items.forM fun item => printLine (line item) : Attempt ε Unit).exec session
    = (.ok (), { session with
        printed := session.printed ++ (items.map fun item => line item ++ ['\n']).flatten })
  := by
  rw [List.forM_eq_forM]
  induction items generalizing session with
  | nil => simp
  | cons item items ih =>
    rw [List.forM_cons, exec_bind, exec_printLine]
    dsimp only
    rw [ih]
    simp

end Attempt

namespace Command

/-! ### The output of each command -/

/-- The line above the rows. -/
def headingLine (coloured : Bool) (path : SlashPath) (first last count boundary : Nat) : Text :=
  Tone.heading.paint coloured path.text ++ ": lines ".toList ++ Text.ofNat first
    ++ '-' :: Text.ofNat last ++ " (".toList ++ Text.ofNat count
    ++ " lines, boundary at line ".toList ++ Text.ofNat boundary ++ [')'] ++ ['\n']

/-- The line that tells how many lines would be removed. -/
def dryRunLine (coloured : Bool) (path : SlashPath) (count : Nat) : Text :=
  Tone.notice.paint coloured "[dry-run]".toList ++ ' ' :: Text.ofNat count
    ++ " line(s) would be removed from ".toList ++ path.text ++ ['\n']

/-- The rows of the output for the lines of a block, each behind its number. -/
def rows (coloured : Bool) (span : Span) (lines : List Line) : List Text :=
  ((List.range' span.displayFirst (span.displayLast + 1 - span.displayFirst)).zip lines).map
    fun item => showLine coloured (Text.ofNat span.displayLast).length item.1 item.2 ++ ['\n']

/-- The number of a line of a document is one more than its place, where a word can count the
lines. -/
theorem displayNumber_eq {lines : List Line} {line : Nat} (hlines : lines.length < UInt64.size)
    (h : line < lines.length) :
  Span.displayNumber line = line + 1
  := by
  apply Nat.mod_eq_of_lt
  omega

section

variable {span : Span} {cut : Cut} {lines : List Line}

/-- The numbers of the rows count the lines of the block. -/
theorem numbers_eq (hlines : lines.length < UInt64.size) (hcut : span.cut lines = .ok cut) :
  span.displayFirst = span.first + 1 ∧ span.displayLast = span.last + 1
    ∧ span.displayLast + 1 - span.displayFirst = cut.removed.length
  := by
  obtain ⟨hle, hlt⟩ := (Span.cut_eq_ok_iff.mp hcut).1
  have hfirst : span.displayFirst = span.first + 1 := displayNumber_eq hlines (by omega)
  have hlast : span.displayLast = span.last + 1 := displayNumber_eq hlines hlt
  have hlength := Span.length_removed hcut
  refine ⟨hfirst, hlast, ?_⟩
  omega

theorem length_rows (coloured : Bool) (hlines : lines.length < UInt64.size)
    (hcut : span.cut lines = .ok cut) :
  (rows coloured span cut.removed).length = cut.removed.length
  := by
  simp [rows, (numbers_eq hlines hcut).2.2]

/-- There is a row for every line of the block, and in it the line behind its number. -/
theorem isRow_rows (coloured : Bool) (hlines : lines.length < UInt64.size)
    (hcut : span.cut lines = .ok cut) {k : Nat} {line : Line}
    (hline : cut.removed[k]? = some line) :
  ∃ row, (rows coloured span cut.removed)[k]? = some row
    ∧ IsRow coloured (Text.ofNat (span.last + 1)).length (span.first + 1 + k) line row
  := by
  obtain ⟨hfirst, hlast, hcount⟩ := numbers_eq hlines hcut
  have hlt : k < cut.removed.length := (List.getElem?_eq_some_iff.mp hline).1
  refine ⟨_, ?_, isRow_showLine coloured line (length_ofNat_le ?_)⟩
  · rw [rows, hcount, hfirst, hlast]
    simp [List.getElem?_zip_eq_some, List.getElem?_range' hlt, hline]
  · omega

end

/-- What is shown of a block that has been found. -/
def showFound (coloured : Bool) (path : SlashPath) (document : Document) (span : Span) :
    Attempt Failure Unit := do
  Attempt.printLine (showHeading coloured path span)
  let width := (Text.ofNat span.displayLast).length
  let numbers := List.range' span.displayFirst (span.displayLast + 1 - span.displayFirst)
  let lines := (document.lines.take (span.last + 1)).drop span.first
  (numbers.zip lines).forM fun (number, line) =>
    Attempt.printLine (showLine coloured width number line)

theorem exec_showBlock (coloured : Bool) (selection : Selection) (session : Session) :
  (showBlock coloured selection).exec session
    = match selection.find.exec session with
      | (.ok (path, document, span), after) => (showFound coloured path document span).exec after
      | (.error failure, after) => (.error failure, after)
  := selection.exec_find_bind session (showFound coloured)

/-- A command that shows a block it has found succeeds, and does nothing but print. -/
theorem exec_showFound (coloured : Bool) (path : SlashPath) {text : Text} {span : Span}
    {cut : Cut} (hcut : span.cut (Line.ofText text) = .ok cut) (found : Session) :
  (showFound coloured path (Document.ofText text) span).exec found
    = (.ok (), { found with
        printed := found.printed
          ++ headingLine coloured path span.displayFirst span.displayLast span.lineCount
            (Span.displayNumber span.boundary)
          ++ (rows coloured span cut.removed).flatten })
  := by
  have hremoved : ((Document.ofText text).lines.take (span.last + 1)).drop span.first = cut.removed
    := (Span.cut_eq_ok_iff.mp hcut).2.1.symm
  unfold showFound
  rw [Attempt.exec_bind, Attempt.exec_printLine]
  dsimp only
  rw [Attempt.exec_forM_printLine, hremoved]
  rfl

/-- A dry run of a block that has been found succeeds, and does nothing but print. -/
theorem exec_dryRun (process : Nat) (coloured : Bool) (path : SlashPath) (document : Document)
    (span : Span) (found : Session) :
  (removeFound process coloured true path document span).exec found
    = (.ok (), { found with
        printed := found.printed ++ removingLine span ++ dryRunLine coloured path span.lineCount })
  := by
  unfold removeFound
  rw [Attempt.exec_bind, exec_removing]
  dsimp only
  rw [if_pos rfl, Attempt.exec_printLine]
  rfl

/-! ### The commands side by side -/

/-- A block that has been found is shown, would be removed and is removed alike. -/
structure FoundAlike (process : Nat) (coloured : Bool) (session : Session) (path : SlashPath)
    (text : Text) (span : Span) (cut : Cut) (shown dry removed : Nat × Session) : Prop where
  /-- Under the heading there is a row for every line that would be taken out, if the lines of
  the document can be counted. -/
  shown : ∃ rows : List Text,
    shown.2.printed = session.printed
      ++ headingLine coloured path span.displayFirst span.displayLast span.lineCount
        (Span.displayNumber span.boundary) ++ rows.flatten
    ∧ ((Line.ofText text).length < UInt64.size → rows.length = cut.removed.length
      ∧ ∀ k line, cut.removed[k]? = some line → ∃ row, rows[k]? = some row
        ∧ IsRow coloured (Text.ofNat (span.last + 1)).length (span.first + 1 + k) line row)
  /-- The dry run tells the same lines, counted from zero, and the same number of them. -/
  dry : dry.2.printed
    = session.printed ++ removingLine span ++ dryRunLine coloured path span.lineCount
  /-- The numbers do not wrap round if the lines of the document can be counted. -/
  numbers : (Line.ofText text).length < UInt64.size →
    span.displayFirst = span.first + 1 ∧ span.displayLast = span.last + 1
    ∧ Span.displayNumber span.boundary = span.boundary + 1
    ∧ span.lineCount = cut.removed.length
  /-- The removal saves the document without them, and fails only if that fails. -/
  removed : ∃ result, Storage.Writes process path.text (Text.toBytes cut.rest.flatten)
      session.disk session.faults result removed.2.disk
    ∧ (removed.1 = 0 ↔ result = .ok ())
    ∧ ∀ error, result = .error error →
      removed.2.printed
        = session.printed ++ removingLine span ++ failureLine coloured (.file error)

/-- Showing a block, telling what removing it would do, and removing it agree. -/
structure Agree (process : Nat) (coloured : Bool) (selection : Selection) (session : Session)
    (shown dry removed : Nat × Session) : Prop where
  /-- The first two leave the disk alone. -/
  untouched : shown.2.disk = session.disk ∧ dry.2.disk = session.disk
  /-- They succeed together. -/
  status : shown.1 = 0 ↔ dry.1 = 0
  /-- They fail with the same message, and so does the removal. -/
  failed : shown.1 ≠ 0 → ∃ failure, ∀ run ∈ [shown, dry, removed],
    run.1 = 1 ∧ run.2.disk = session.disk
      ∧ run.2.printed = session.printed ++ failureLine coloured failure
  /-- They succeed about the same block. -/
  found : shown.1 = 0 → ∃ path resolver text span cut,
    selection.Finds session path resolver text span
      ∧ span.cut (Line.ofText text) = .ok cut
      ∧ FoundAlike process coloured session path text span cut shown dry removed

/-- The three commands agree on every session and every selection. -/
theorem show_agrees_with_remove (process : Nat) (coloured : Bool) (selection : Selection)
    (session : Session) :
  Agree process coloured selection session
    (((Command.show selection).script process coloured).run session)
    (((remove selection true).script process coloured).run session)
    (((remove selection false).script process coloured).run session)
  := by
  rw [run_script, run_script, run_script]
  unfold attempt
  dsimp only
  rw [exec_showBlock, exec_removeBlock, exec_removeBlock]
  obtain ⟨reports, hfind⟩ := selection.find_readOnly session
  rcases hexec : selection.find.exec session with ⟨⟨failure⟩ | ⟨path, document, span⟩, found⟩
  · rw [hexec] at hfind
    obtain rfl : found = { session with reports } := hfind
    exact {
      untouched := ⟨rfl, rfl⟩
      status := Iff.rfl
      failed := by
        intro _
        use failure
        simp
      found := by simp }
  rw [hexec] at hfind
  obtain rfl : found = { session with reports } := hfind
  dsimp only
  obtain ⟨resolver, text, hfinds, rfl⟩ := Selection.find_eq_ok_iff.mp (congrArg Prod.fst hexec)
  have hresolver := Resolver.resolve_eq_ok_iff.mp hfinds.resolved
  obtain ⟨cut, hcut⟩ := hresolver.exists_cut
  have hboundary := hresolver.located.isLeast_boundary.1.2.lt_length
  obtain ⟨result, hwrites, hresult, hprinted⟩ :=
    exec_removeFound process coloured path hcut { session with reports }
  rw [exec_showFound coloured path hcut, exec_dryRun]
  generalize (removeFound process coloured false path (Document.ofText text) span).exec
    { session with reports } = run at hwrites hresult hprinted ⊢
  obtain ⟨outcome, after⟩ := run
  dsimp only at hwrites hresult hprinted ⊢
  subst hresult
  exact {
    untouched := ⟨rfl, rfl⟩
    status := Iff.rfl
    failed := by simp
    found := fun _ => ⟨path, resolver, text, span, cut, hfinds, hcut, {
      shown := by
        refine ⟨rows coloured span cut.removed, rfl, fun hlines => ?_⟩
        exact ⟨length_rows coloured hlines hcut, fun k line => isRow_rows coloured hlines hcut⟩
      dry := rfl
      numbers := by
        intro hlines
        obtain ⟨hfirst, hlast, -⟩ := numbers_eq hlines hcut
        exact ⟨hfirst, hlast, displayNumber_eq hlines hboundary,
          Span.lineCount_eq_length_removed hlines hcut⟩
      removed := by
        refine ⟨result, ?_⟩
        cases result with
        | error error =>
          refine ⟨hwrites, by simp, ?_⟩
          rintro _ ⟨⟩
          have hannounced := hprinted.trans (List.append_nil _)
          exact congrArg (· ++ failureLine coloured (.file error)) hannounced
        | ok value => exact ⟨hwrites, by simp, by simp⟩ }⟩ }

end Command

end Excision
