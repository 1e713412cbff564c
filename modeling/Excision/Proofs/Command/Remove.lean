import Excision.Proofs.Command.Selection
import Excision.Proofs.Storage.Atomic

/-!
# Removing the selected block

A command that removes a block has found it before it announces it, and succeeds exactly if
the document can be saved without it (`Command.exec_removeFound`).  So it either ends well,
and then the document holds what is left of its text and nothing else has changed, or it
fails and has changed nothing (`Command.remove_refines_removeBlock`).  There are two
exceptions.  A document whose path does not resolve is saved as a new file in the place of the
last name of the path (`Command.remove_replaces_link`), and where the lock of the temporary file
fails, that file is left.
-/

namespace Excision

/-- A document that is saved is written as the lines one after the other. -/
theorem Storage.saveDocument_eq (process : Nat) (path : SlashPath) (lines : List Line) :
  saveDocument process path ⟨lines⟩ = writeBytes process path (Text.toBytes lines.flatten)
  := rfl

namespace Command

/-- The line that tells which lines are removed. -/
def removingLine (span : Span) : Text :=
  "Removing lines ".toList ++ Text.ofNat span.first ++ " to ".toList ++ Text.ofNat span.last
    ++ ['\n']

/-- The line that tells that the block is gone. -/
def removedLine : Text := "Successfully removed block".toList ++ ['\n']

/-- What is done about a block that has been found. -/
def removeFound (process : Nat) (coloured dryRun : Bool) (path : SlashPath)
    (document : Document) (span : Span) : Attempt Failure Unit := do
  Attempt.printLine ("Removing lines ".toList ++ Text.ofNat span.first ++ " to ".toList
    ++ Text.ofNat span.last)
  if dryRun then
    Attempt.printLine (Tone.notice.paint coloured "[dry-run]".toList ++ ' ' ::
      Text.ofNat span.lineCount ++ " line(s) would be removed from ".toList ++ path.text)
  else
    let removed ← Storage.saveWithout process path document span
    Attempt.report (.blockRemoved path removed.length)
    Attempt.printLine "Successfully removed block".toList

theorem exec_removeBlock (process : Nat) (coloured dryRun : Bool) (selection : Selection)
    (session : Session) :
  (removeBlock process coloured selection dryRun).exec session
    = match selection.find.exec session with
      | (.ok (path, document, span), after) =>
        (removeFound process coloured dryRun path document span).exec after
      | (.error failure, after) => (.error failure, after)
  := selection.exec_find_bind session (removeFound process coloured dryRun)

theorem exec_saveWithout {process : Nat} {path : SlashPath} {document : Document} {span : Span}
    {cut : Cut} (hcut : span.cut document.lines = .ok cut) (session : Session) :
  (Storage.saveWithout process path document span).exec session
    = match (Storage.writeBytes process path (Text.toBytes cut.rest.flatten)).exec session with
      | (.ok (), after) => (.ok cut.removed, after)
      | (.error error, after) => (.error (.file error), after)
  := by
  unfold Storage.saveWithout
  rw [Attempt.exec_bind, Attempt.exec_onBlock, hcut]
  simp only [Logged.quiet, Attempt.mapError_ok, List.map_nil, List.append_nil]
  rw [Attempt.exec_bind, Attempt.exec_onFiles, Storage.saveDocument_eq]
  rcases (Storage.writeBytes process path (Text.toBytes cut.rest.flatten)).exec session with
    ⟨⟨error⟩ | ⟨⟩, after⟩
  · rfl
  · rfl

theorem exec_removing (span : Span) (session : Session) :
  (Attempt.printLine ("Removing lines ".toList ++ Text.ofNat span.first ++ " to ".toList
      ++ Text.ofNat span.last) : Attempt Failure Unit).exec session
    = (.ok (), { session with printed := session.printed ++ removingLine span })
  := Attempt.exec_printLine session _

theorem exec_removed (path : SlashPath) (count : Nat) (session : Session) :
  (do
    Attempt.report (.blockRemoved path count)
    Attempt.printLine "Successfully removed block".toList : Attempt Failure Unit).exec session
    = (.ok (), { session with
        printed := session.printed ++ removedLine
        reports := session.reports ++ [.blockRemoved path count] })
  := by
  rw [Attempt.exec_bind, Attempt.exec_report]
  exact Attempt.exec_printLine _ _

/-- A command that has found its block announces it and saves the document without it.  It
succeeds if the document can be saved, and its output says so then. -/
theorem exec_removeFound (process : Nat) (coloured : Bool) (path : SlashPath) {text : Text}
    {span : Span} {cut : Cut} (hcut : span.cut (Line.ofText text) = .ok cut) (found : Session) :
  let run := (removeFound process coloured false path (Document.ofText text) span).exec found
  ∃ result, Storage.Writes process path.text (Text.toBytes cut.rest.flatten) found.disk
      found.faults result run.2.disk
    ∧ run.1 = result.mapError .file
    ∧ run.2.printed = found.printed ++ removingLine span
      ++ (if result.isOk then removedLine else [])
  := by
  have hlines : span.cut (Document.ofText text).lines = .ok cut := hcut
  dsimp only
  unfold removeFound
  rw [Attempt.exec_bind, exec_removing]
  simp only [Bool.false_eq_true, if_false]
  rw [Attempt.exec_bind, exec_saveWithout hlines]
  obtain ⟨hwrites, hsilent⟩ := Storage.exec_writeBytes
    { found with printed := found.printed ++ removingLine span } process path
    (Text.toBytes cut.rest.flatten)
  rcases hwrite : (Storage.writeBytes process path (Text.toBytes cut.rest.flatten)).exec
      { found with printed := found.printed ++ removingLine span } with
    ⟨⟨error⟩ | ⟨⟨⟩⟩, after⟩
  · rw [hwrite] at hwrites hsilent
    exact ⟨.error error, hwrites, rfl, hsilent.trans (List.append_nil _).symm⟩
  · rw [hwrite] at hwrites hsilent
    dsimp only at hwrites hsilent ⊢
    rw [exec_removed, hsilent]
    exact ⟨.ok (), hwrites, rfl, rfl⟩

/-! ### Whole or not at all -/

/-- A block has been removed from a document on the disk. -/
structure Removed (process : Nat) (selection : Selection) (before after : Session)
    (path : SlashPath) (resolver : Resolver) (text : Text) (removal : Removal)
    (location : Location) (mode : Nat) : Prop where
  /-- The settings name the path of the document and make a resolver. -/
  prepared : (selection.prepare.exec before).1 = .ok (path, resolver)
  /-- The path led to the document, perhaps through links. -/
  located : before.disk.locate path.text = .ok location
  /-- The document was a text. -/
  held : before.disk.entry? location = some (.file text.toBytes mode)
  /-- The resolver removes the block from it. -/
  removes : (resolver.removeBlock text).value = .ok removal
  /-- If the path resolves, the document now holds what is left, under its old permission bits,
  all other entries are what they were, and the path still leads to the document. -/
  resolved : before.disk.Resolves path.text location →
    after.disk.entry?
        = Function.update before.disk.entry? location (some (.file removal.content.toBytes mode))
      ∧ after.disk.locate path.text = .ok location
  /-- If it does not, a new file in the place of its last name holds what is left, and all other
  entries are what they were. -/
  unresolved : ∀ cause, before.disk.canonicalize path.text = .error cause →
    ∃ place, before.disk.slot path.text = .ok (.named place false)
      ∧ after.disk.entry? = Function.update before.disk.entry? place
        (some (.file removal.content.toBytes before.disk.newFileMode))
  /-- Nothing stands under the name of the temporary file. -/
  temporary : ∀ other slash,
    after.disk.slot (temporaryPath process (before.disk.target path.text))
      = .ok (.named other slash) →
    after.disk.entry? other = none
  /-- The output tells the lines of the block. -/
  printed : after.printed = before.printed ++ removingLine removal.span ++ removedLine

/-- The lock of the temporary file has failed, and the file has been left. -/
structure LeftBehind (process : Nat) (coloured : Bool) (selection : Selection)
    (before after : Session) (path : SlashPath) (resolver : Resolver) (place : Location) :
    Prop where
  /-- The settings name the path of the document and make a resolver. -/
  prepared : (selection.prepare.exec before).1 = .ok (path, resolver)
  /-- The device has failed. -/
  fault : ∃ fault, some fault ∈ before.faults
  /-- The temporary file has its place beside the document. -/
  named : before.disk.slot (temporaryPath process (before.disk.target path.text))
    = .ok (.named place false)
  /-- The place was free. -/
  free : before.disk.entry? place = none
  /-- It is the only one that has changed. -/
  left : ∃ content mode,
    after.disk.entry? = Function.update before.disk.entry? place (some (.file content mode))
  /-- The output tells the lines of the block, and that the lock failed. -/
  printed : ∃ span, after.printed = before.printed ++ removingLine span
    ++ failureLine coloured (.file (.lockFailed (before.disk.target path.text)))

section

variable {process : Nat} {coloured : Bool} {selection : Selection} {session : Session}
  {path : SlashPath} {resolver : Resolver} {text : Text} {span : Span} {cut : Cut}
  {location : Location} {mode : Nat}

/-- A command that has saved the document without its block has removed the block. -/
theorem removed_of_writes {after : Session} (hdisk : session.disk.WellFormed)
    (hfinds : selection.Finds session path resolver text span)
    (hcut : span.cut (Line.ofText text) = .ok cut)
    (hlocate : session.disk.locate path.text = .ok location)
    (hheld : session.disk.entry? location = some (.file text.toBytes mode))
    (hfree : Storage.TemporaryFree process session.disk path.text)
    (hwrites : Storage.Writes process path.text (Text.toBytes cut.rest.flatten) session.disk
      session.faults (.ok ()) after.disk)
    (hprinted : after.printed = session.printed ++ removingLine span ++ removedLine) :
  Removed process selection session after path resolver text
    ⟨span, cut.rest.flatten, cut.removed⟩ location mode
  where
  prepared := hfinds.prepared
  located := hlocate
  held := hheld
  removes := Resolver.removeBlock_eq_ok_iff.mpr
    ⟨span, cut, Resolver.resolve_eq_ok_iff.mp hfinds.resolved, hcut, rfl⟩
  resolved hresolves := by
    obtain ⟨content, bits, hfile, hafter, hleads⟩ := hwrites.overwritten hdisk hfree hresolves
    rw [hheld, Option.some.injEq, Entry.file.injEq] at hfile
    obtain ⟨rfl, rfl⟩ := hfile
    exact ⟨hafter, hleads⟩
  unresolved cause hcanonical := hwrites.put_of_locate hfree hlocate hcanonical
  temporary _ _ := hwrites.temporary_gone hfree
  printed := hprinted

/-- A command that has failed to save the document without its block has changed nothing, but
that it may have left the temporary file. -/
theorem unchanged_or_leftBehind {error : FileError} {after : Session}
    (hfinds : selection.Finds session path resolver text span)
    (hlocate : session.disk.locate path.text = .ok location)
    (hfree : Storage.TemporaryFree process session.disk path.text)
    (hprinted : after.printed = session.printed ++ removingLine span
      ++ failureLine coloured (.file error))
    {bytes : ByteArray} (hwrites : Storage.Writes process path.text bytes session.disk
      session.faults (.error error) after.disk) :
  after.disk.entry? = session.disk.entry?
    ∨ ∃ place, LeftBehind process coloured selection session after path resolver place
  := by
  by_cases hlock : ∃ failed, error = .lockFailed failed
  · obtain ⟨failed, rfl⟩ := hlock
    obtain ⟨rfl, hfault, ⟨found, hmode⟩, middle, place, content, bits, hparents, hslot, hnone,
      hput⟩ := hwrites.left hfree
    rw [Disk.withParents_target hlocate hmode] at hparents
    cases hparents
    exact .inr ⟨place, {
      prepared := hfinds.prepared
      fault := hfault
      named := hslot
      free := hnone
      left := ⟨content, bits, hput.entry⟩
      printed := ⟨span, hprinted⟩ }⟩
  · exact .inl (hwrites.entry?_eq_of_locate hfree (fun failed h => hlock ⟨failed, h⟩) hlocate)

/-- Removing the selected block is removing it from the text of the document, whole or not
at all, if the path of the document resolves and no lock fails. -/
theorem remove_refines_removeBlock (hdisk : session.disk.WellFormed)
    (hfree : ∀ path resolver, (selection.prepare.exec session).1 = .ok (path, resolver) →
      Storage.TemporaryFree process session.disk path.text) :
  let run := ((remove selection false).script process coloured).run session
  (run.1 = 0 → ∃ path resolver text removal location mode,
      Removed process selection session run.2 path resolver text removal location mode)
    ∧ (run.1 ≠ 0 → run.1 = 1
      ∧ (Disk.entry? run.2.disk = Disk.entry? session.disk
        ∨ ∃ path resolver place,
          LeftBehind process coloured selection session run.2 path resolver place))
  := by
  dsimp only
  rw [run_script, attempt, exec_removeBlock]
  obtain ⟨reports, hfind⟩ := selection.find_readOnly session
  rcases hexec : selection.find.exec session with ⟨⟨failure⟩ | ⟨path, document, span⟩, found⟩
  · rw [hexec] at hfind
    refine ⟨by simp, fun _ => ⟨rfl, .inl ?_⟩⟩
    exact congrArg (fun after => Disk.entry? after.disk) hfind
  rw [hexec] at hfind
  obtain rfl : found = { session with reports } := hfind
  dsimp only
  obtain ⟨resolver, text, hfinds, rfl⟩ := Selection.find_eq_ok_iff.mp (congrArg Prod.fst hexec)
  obtain ⟨cut, hcut⟩ := (Resolver.resolve_eq_ok_iff.mp hfinds.resolved).exists_cut
  obtain ⟨location, mode, hlocate, hheld⟩ := Disk.readBytes_eq_ok_iff.mp hfinds.loaded
  have hfree' := hfree path resolver hfinds.prepared
  obtain ⟨result, hwrites, hresult, hprinted⟩ :=
    exec_removeFound process coloured path hcut { session with reports }
  generalize (removeFound process coloured false path (Document.ofText text) span).exec
    { session with reports } = run at hwrites hresult hprinted ⊢
  obtain ⟨outcome, after⟩ := run
  dsimp only at hwrites hresult hprinted ⊢
  subst hresult
  cases result with
  | error error =>
    refine ⟨by simp, fun _ => ⟨rfl, ?_⟩⟩
    have hfailed : ({ after with
          printed := after.printed ++ failureLine coloured (.file error) } : Session).printed
        = session.printed ++ removingLine span ++ failureLine coloured (.file error)
      := congrArg (· ++ failureLine coloured (.file error)) (hprinted.trans (List.append_nil _))
    rcases unchanged_or_leftBehind hfinds hlocate hfree' hfailed hwrites with
      hsame | ⟨place, hleft⟩
    · exact .inl hsame
    · exact .inr ⟨path, resolver, place, hleft⟩
  | ok value =>
    refine ⟨fun _ => ⟨path, resolver, text, ⟨span, cut.rest.flatten, cut.removed⟩, location, mode,
      ?_⟩, by simp⟩
    exact removed_of_writes hdisk hfinds hcut hlocate hheld hfree' hwrites hprinted

end

/-- A document with a block of three lines. -/
def sampleText : Text := ['S', '\n', ' ', '<', '\n', ' ', '>', '\n', 'E', '\n']

/-- The selection of that block, in the document behind a link. -/
def sampleSelection : Selection where
  settings := {
    file := some ['l']
    startMarker := some ['S']
    boundaryMarker := some ['E']
    indent := some [' ']
    closingToken := some ['>'] }

/-- A session on a disk with the document and the link, whose device has some faults. -/
def sampleSession (faults : List (Option Fault)) : Session where
  disk := Storage.linkedDisk sampleText.toBytes
  faults

theorem prepare_sample {faults : List (Option Fault)} {path : SlashPath} {resolver : Resolver}
    (h : (sampleSelection.prepare.exec (sampleSession faults)).1 = .ok (path, resolver)) :
  Storage.TemporaryFree 7 (sampleSession faults).disk path.text
  := by
  cases h
  exact Storage.temporaryFree_linkedDisk _

/-- The block of the sample is removed from the document behind the link, and a lock that fails
leaves the temporary file. -/
theorem remove_refines_removeBlock_sample :
  let faults : List (Option Fault) := [some { cause := .busy }]
  let run (faults : List (Option Fault)) :=
    ((remove sampleSelection false).script 7 false).run (sampleSession faults)
  (∃ path resolver text removal location mode,
      Removed 7 sampleSelection (sampleSession []) (run []).2 path resolver text removal location
        mode)
    ∧ ∃ path resolver place,
      LeftBehind 7 false sampleSelection (sampleSession faults) (run faults).2 path resolver place
  := by
  dsimp only
  have hdisk (faults : List (Option Fault)) : (sampleSession faults).disk.WellFormed :=
    Storage.wellFormed_linkedDisk _
  constructor
  · have hstatus : (((remove sampleSelection false).script 7 false).run (sampleSession [])).1 = 0
      := by decide +kernel
    exact (remove_refines_removeBlock (hdisk _) fun _ _ => prepare_sample).1 hstatus
  · have hstatus : (((remove sampleSelection false).script 7 false).run
        (sampleSession [some { cause := .busy }])).1 ≠ 0 := by decide +kernel
    have hrun := (remove_refines_removeBlock (hdisk _) fun _ _ => prepare_sample).2 hstatus
    rcases hrun.2 with hsame | hleft
    · -- The temporary file is new.
      have hnew := congrFun hsame [['d'], temporaryName 7 ['/', 'd', '/', 't']]
      exact absurd (congrArg Option.isSome hnew) (by decide +kernel)
    · exact hleft

/-! ### A path that does not resolve -/

/-- A long name. -/
def longName : Text := List.replicate 250 'n'

/-- The location of the directory that is this many long names deep. -/
def deepDirectory (depth : Nat) : Location := List.replicate depth longName

/-- A disk with directories of long names, each in the one before it. -/
def deepDirectories : (depth : Nat) → Disk
  | 0 => {}
  | depth + 1 => (deepDirectories depth).create (deepDirectory (depth + 1)) (.directory 0o755)

/-- A document so deep that its absolute path is too long, behind a link to a path that leads
through another link. -/
def deepDisk : Disk :=
  let document := deepDirectory 17 ++ [['d']]
  let half := Text.joinWith '/' (deepDirectory 8)
  let route := Text.joinWith '/' (['a'] :: deepDirectory 9 ++ [['d']])
  (((deepDirectories 17).create document (.file sampleText.toBytes 0o600)).create
    [['a']] (.link half)).create [['l']] (.link route)

theorem deepDirectory_succ (depth : Nat) :
  deepDirectory (depth + 1) = deepDirectory depth ++ [longName]
  := List.replicate_succ'

theorem length_deepDirectory (depth : Nat) :
  (deepDirectory depth).length = depth
  := List.length_replicate

theorem entry?_deepDirectories (depth other : Nat) :
  Disk.entry? (deepDirectories depth) (deepDirectory other)
    = if other ≤ depth then some (.directory 0o755) else none
  := by
  induction depth with
  | zero =>
    cases other with
    | zero => rfl
    | succ other => rfl
  | succ depth ih =>
    have hne : deepDirectory (depth + 1) ≠ [] := by simp [deepDirectory_succ]
    rw [deepDirectories, Disk.entry?_create hne, Function.update_apply, ih]
    by_cases hother : other = depth + 1
    · subst hother
      simp
    · have hlocation : deepDirectory other ≠ deepDirectory (depth + 1) := by
        intro h
        exact hother (by simpa only [length_deepDirectory] using congrArg List.length h)
      simp only [if_neg hlocation]
      congr 1
      simp only [eq_iff_iff]
      omega

theorem isDirectory_deepDirectories (depth : Nat) :
  (deepDirectories depth).isDirectory (deepDirectory depth) = true
  := Disk.isDirectory_iff.mpr ⟨0o755, by simp [entry?_deepDirectories]⟩

theorem wellFormed_deepDirectories (depth : Nat) :
  (deepDirectories depth).WellFormed
  := by
  induction depth with
  | zero => apply Disk.wellFormed_empty
  | succ depth ih =>
    have hname : IsName longName := ⟨by decide +kernel, by decide +kernel, by decide +kernel⟩
    have hfree := entry?_deepDirectories depth (depth + 1)
    rw [if_neg (by omega), deepDirectory_succ] at hfree
    rw [deepDirectories, deepDirectory_succ]
    exact ih.create (isDirectory_deepDirectories depth) hname (by decide +kernel) hfree _

theorem wellFormed_deepDisk :
  deepDisk.WellFormed
  := by
  have hd : IsName ['d'] := ⟨rfl, by decide, by decide⟩
  have ha : IsName ['a'] := ⟨rfl, by decide, by decide⟩
  have hl : IsName ['l'] := ⟨rfl, by decide, by decide⟩
  have hroot (disk : Disk) : disk.isDirectory [] = true := by simp [Disk.isDirectory]
  have hfile := (wellFormed_deepDirectories 17).create (isDirectory_deepDirectories 17) hd
    (by decide) (Option.isNone_iff_eq_none.mp (by decide +kernel))
    (.file sampleText.toBytes 0o600)
  have hlink := hfile.create (hroot _) ha (by decide)
    (Option.isNone_iff_eq_none.mp (by decide +kernel))
    (.link (Text.joinWith '/' (deepDirectory 8)))
  exact hlink.create (hroot _) hl (by decide) (Option.isNone_iff_eq_none.mp (by decide +kernel)) _

/-- A document behind a link, whose absolute path is too long to be looked up.  The command
succeeds, and the link has become a new file with the permission bits of one, while the
document is what it was. -/
theorem remove_replaces_link :
  let session : Session := { disk := deepDisk }
  let run := ((remove sampleSelection false).script 7 false).run session
  session.disk.WellFormed
    ∧ (∀ path resolver, (sampleSelection.prepare.exec session).1 = .ok (path, resolver) →
      Storage.TemporaryFree 7 session.disk path.text)
    ∧ session.disk.locate ['l'] = .ok (deepDirectory 17 ++ [['d']])
    ∧ session.disk.mode ['l'] = .ok 0o600
    ∧ run.1 = 0
    ∧ run.2.disk.locate ['l'] = .ok [['l']]
    ∧ run.2.disk.mode ['l'] = .ok 0o644
    ∧ run.2.disk.readBytes (Text.joinWith '/' (['a'] :: deepDirectory 9 ++ [['d']]))
      = .ok sampleText.toBytes
  := by
  intro session run
  have hslot : (session.disk.withParents (session.disk.target ['l'])).2.slot
      (temporaryPath 7 (session.disk.target ['l']))
      = .ok (.named [temporaryName 7 ['l']] false)
    := by decide +kernel
  have hnone : session.disk.entry? [temporaryName 7 ['l']] = none := by
    apply Option.isNone_iff_eq_none.mp
    decide +kernel
  refine ⟨wellFormed_deepDisk, ?_, by decide +kernel⟩
  rintro path resolver h
  obtain rfl : path = ⟨['l']⟩ := by
    cases h
    rfl
  intro location slash h
  cases hslot.symm.trans h
  exact hnone

end Command

end Excision
