import Excision.Proofs.Disk.Growth
import Excision.Proofs.Script.Attempt

/-!
# The steps of a replacement

How replacing a file may go.  A replacement that fails does so at one of a few steps, each of
which names a path of its own, and one that succeeds has moved the filled temporary file over
its target; `Storage.Writes` has a rule for each of these, and every run follows one of them
(`exec_writeBytes`).
-/

namespace Excision

namespace Disk

/-- The path of the file to be replaced: the canonical path if the path leads to something,
and otherwise the path itself. -/
def target (disk : Disk) (path : Text) : Text :=
  match disk.canonicalize path with
  | .ok resolved => resolved
  | .error _ => path

/-- The permission bits that the file to be replaced has, if there is one. -/
def targetMode (disk : Disk) (path : Text) : Except Cause (Option Nat) :=
  match disk.canonicalize path with
  | .ok resolved => (disk.mode resolved).map some
  | .error _ => .ok none

/-- The disk after bytes have been written to an open file and its permission bits set. -/
def fill (disk : Disk) (serial : Nat) (bytes : ByteArray) : (mode : Option Nat) → Disk
  | none => disk.write serial bytes
  | some mode => (disk.write serial bytes).setMode serial mode

end Disk

namespace Storage

/-- How writing bytes to the file of a path may go, on a device with these faults: its result,
and the disk after it. -/
inductive Writes (process : Nat) (path : Text) (bytes : ByteArray) (disk : Disk)
    (faults : List (Option Fault)) : Except FileError Unit → Disk → Prop where
  /-- The file to be replaced cannot be looked at. -/
  | unknown {cause : Cause} (hmode : disk.targetMode path = .error cause) :
      Writes process path bytes disk faults (.error (.disk (disk.target path) cause)) disk
  /-- The directory above the file cannot be made. -/
  | unparented {mode : Option Nat} {parent : Text} {cause : Cause} {after : Disk}
      (hmode : disk.targetMode path = .ok mode)
      (hparent : HostPath.parent? (disk.target path) = some parent)
      (hparents : disk.withParents (disk.target path) = (.error cause, after)) :
      Writes process path bytes disk faults (.error (.disk parent cause)) after
  /-- The temporary file cannot be opened. -/
  | unopened {mode : Option Nat} {cause : Cause} {after : Disk}
      (hmode : disk.targetMode path = .ok mode)
      (hparents : disk.withParents (disk.target path) = (.ok (), after))
      (hopen : after.openTruncated (temporaryPath process (disk.target path)) = .error cause) :
      Writes process path bytes disk faults
        (.error (.disk (temporaryPath process (disk.target path)) cause)) after
  /-- The lock of the temporary file cannot be taken.  The temporary file stays. -/
  | unlocked {mode : Option Nat} {serial : Nat} {middle after : Disk} {fault : Fault}
      (hfault : some fault ∈ faults) (hmode : disk.targetMode path = .ok mode)
      (hparents : disk.withParents (disk.target path) = (.ok (), middle))
      (hopen : middle.openTruncated (temporaryPath process (disk.target path))
        = .ok (serial, after)) :
      Writes process path bytes disk faults (.error (.lockFailed (disk.target path))) after
  /-- The temporary file cannot be filled, and is removed with what has been written. -/
  | unfilled {mode bits : Option Nat} {serial : Nat} {part : ByteArray} {middle opened : Disk}
      {fault : Fault} (hfault : some fault ∈ faults) (hmode : disk.targetMode path = .ok mode)
      (hparents : disk.withParents (disk.target path) = (.ok (), middle))
      (hopen : middle.openTruncated (temporaryPath process (disk.target path))
        = .ok (serial, opened)) :
      Writes process path bytes disk faults
        (.error (.disk (temporaryPath process (disk.target path)) fault.cause))
        ((opened.fill serial part bits).remove (temporaryPath process (disk.target path)))
  /-- The lock of the filled temporary file cannot be given back.  The temporary file stays. -/
  | unreleased {mode : Option Nat} {serial : Nat} {middle opened : Disk} {fault : Fault}
      (hfault : some fault ∈ faults) (hmode : disk.targetMode path = .ok mode)
      (hparents : disk.withParents (disk.target path) = (.ok (), middle))
      (hopen : middle.openTruncated (temporaryPath process (disk.target path))
        = .ok (serial, opened)) :
      Writes process path bytes disk faults (.error (.lockFailed (disk.target path)))
        (opened.fill serial bytes mode)
  /-- The temporary file cannot be moved over the file, and is removed. -/
  | unmoved {mode : Option Nat} {serial : Nat} {cause : Cause} {middle opened : Disk}
      (hmode : disk.targetMode path = .ok mode)
      (hparents : disk.withParents (disk.target path) = (.ok (), middle))
      (hopen : middle.openTruncated (temporaryPath process (disk.target path))
        = .ok (serial, opened))
      (hrename : (opened.fill serial bytes mode).rename
        (temporaryPath process (disk.target path)) (disk.target path) = .error cause) :
      Writes process path bytes disk faults (.error (.disk (disk.target path) cause))
        ((opened.fill serial bytes mode).remove (temporaryPath process (disk.target path)))
  /-- The filled temporary file takes the place of the file. -/
  | written {mode : Option Nat} {serial : Nat} {middle opened after : Disk}
      (hmode : disk.targetMode path = .ok mode)
      (hparents : disk.withParents (disk.target path) = (.ok (), middle))
      (hopen : middle.openTruncated (temporaryPath process (disk.target path))
        = .ok (serial, opened))
      (hrename : (opened.fill serial bytes mode).rename
        (temporaryPath process (disk.target path)) (disk.target path) = .ok after) :
      Writes process path bytes disk faults (.ok ()) after

/-! ### Operations on open files -/

/-- Operations on open files have taken a session to another one, on this disk.  They have used
up some faults. -/
structure Operated (session : Session) (disk : Disk) (after : Session) : Prop where
  /-- The disk of the second. -/
  disk : after.disk = disk
  /-- No fault is new. -/
  faults : after.faults ⊆ session.faults
  /-- Nothing has been printed. -/
  printed : after.printed = session.printed

/-- One more operation. -/
theorem Operated.next {first middle last : Session} {disk : Disk} {request : Request}
    {fault : Option Fault} (h : Operated first disk middle)
    (hnext : Operated middle (request.effect fault middle.disk) last) :
  Operated first (request.effect fault disk) last
  where
  disk := by rw [hnext.disk, h.disk]
  faults := List.Subset.trans hnext.faults h.faults
  printed := hnext.printed.trans h.printed

/-- Operations after operations. -/
theorem Operated.trans {first middle last : Session} {disk after : Disk}
    (h : Operated first disk middle) (h' : Operated middle after last) :
  Operated first after last
  where
  disk := h'.disk
  faults := List.Subset.trans h'.faults h.faults
  printed := h'.printed.trans h.printed

section

variable (session : Session)

theorem exec_target (path : Text) :
  (target path).exec session
    = (match session.disk.targetMode path with
        | .ok mode => .ok (session.disk.target path, mode)
        | .error cause => .error (.disk (session.disk.target path) cause), session)
  := by
  unfold target Disk.targetMode Disk.target
  rw [Attempt.exec_bind, Attempt.exec_ask]
  dsimp only [Session.answer]
  cases session.disk.canonicalize path with
  | error cause => rfl
  | ok resolved =>
    dsimp only
    rw [Attempt.exec_bind, Attempt.exec_expect, Script.run_request]
    dsimp only [Session.answer]
    cases session.disk.mode resolved with
    | error cause => rfl
    | ok mode => rfl

/-- An operation on an open file is done, or a fault stops it. -/
theorem operate_cases (request : Request) :
  (∃ after, session.operate request = (.ok (), after)
      ∧ Operated session (request.effect none session.disk) after)
    ∨ ∃ fault after, session.operate request = (.error fault.cause, after)
      ∧ some fault ∈ session.faults
      ∧ Operated session (request.effect (some fault) session.disk) after
  := by
  unfold Session.operate
  rcases hfaults : session.faults with _ | ⟨_ | fault, faults⟩
  · exact .inl ⟨_, rfl, rfl, by simp, rfl⟩
  · exact .inl ⟨_, rfl, rfl, by simp [hfaults], rfl⟩
  · exact .inr ⟨fault, _, rfl, by simp, rfl, by simp [hfaults], rfl⟩

theorem exec_expectLock (path : Text) (answer : Script (Except Cause Unit)) :
  (expectLock path answer).exec session
    = ((answer.run session).1.mapError fun _ => .lockFailed path, (answer.run session).2)
  := by
  unfold expectLock Attempt.exec
  change (Script.bind answer _).run session = _
  rw [Script.run_bind]
  rcases answer.run session with ⟨⟨⟩ | ⟨⟩, session⟩
  · rfl
  · rfl

theorem exec_stepOrRemove (temporary path : Text) (step : Script (Except Cause Unit)) :
  (stepOrRemove temporary path step).exec session
    = match step.run session with
      | (.ok (), after) => (.ok (), after)
      | (.error cause, after) =>
        (.error (.disk path cause), { after with disk := after.disk.remove temporary })
  := by
  unfold stepOrRemove
  rw [Attempt.exec_bind, Attempt.exec_lift]
  rcases step.run session with ⟨⟨cause⟩ | ⟨⟩, after⟩
  · rfl
  · rfl

/-- An open file is filled, or a fault leaves it with some bytes. -/
theorem exec_fillOpen (serial : Nat) (bytes : ByteArray) (mode : Option Nat) :
  (∃ after, (fillOpen serial bytes mode).exec session = (.ok (), after)
      ∧ Operated session (session.disk.fill serial bytes mode) after)
    ∨ ∃ fault part bits after, (fillOpen serial bytes mode).exec session
        = (.error fault.cause, after)
      ∧ some fault ∈ session.faults ∧ Operated session (session.disk.fill serial part bits) after
  := by
  unfold fillOpen
  rw [Attempt.exec_bind, Attempt.exec_mk, Script.run_request]
  dsimp only [Session.answer]
  rcases operate_cases session (.write serial bytes) with
    ⟨written, hwrite, hwritten⟩ | ⟨fault, after, hwrite, hfault, hafter⟩
  case inr =>
    rw [hwrite]
    exact .inr ⟨fault, _, none, after, rfl, hfault, hafter⟩
  rw [hwrite]
  cases mode with
  | none =>
    rcases operate_cases written (.sync serial) with
      ⟨synced, hsync, hsynced⟩ | ⟨fault, after, hsync, hfault, hafter⟩
    · exact .inl ⟨synced, hsync, hwritten.next hsynced⟩
    · exact .inr ⟨fault, bytes, none, after, hsync, hwritten.faults hfault, hwritten.next hafter⟩
  | some bits =>
    dsimp only
    rw [Attempt.exec_bind, Attempt.exec_mk, Script.run_request]
    dsimp only [Session.answer]
    rcases operate_cases written (.setMode serial bits) with
      ⟨permitted, hpermit, hpermitted⟩ | ⟨fault, after, hpermit, hfault, hafter⟩
    case inr =>
      rw [hpermit]
      exact .inr ⟨fault, bytes, none, after, rfl, hwritten.faults hfault, hwritten.next hafter⟩
    rw [hpermit]
    have hall := hwritten.next hpermitted
    rcases operate_cases permitted (.sync serial) with
      ⟨synced, hsync, hsynced⟩ | ⟨fault, after, hsync, hfault, hafter⟩
    · exact .inl ⟨synced, hsync, hall.next hsynced⟩
    · exact .inr ⟨fault, bytes, some bits, after, hsync, hall.faults hfault, hall.next hafter⟩

theorem exec_fillTemporary_error {temporary : Text} {cause : Cause}
    (hopen : session.disk.openTruncated temporary = .error cause) (target : Text)
    (bytes : ByteArray) (mode : Option Nat) :
  (fillTemporary temporary target bytes mode).exec session
    = (.error (.disk temporary cause), session)
  := by
  unfold fillTemporary
  rw [Attempt.exec_bind, Attempt.exec_expect, Script.run_request]
  dsimp only [Session.answer]
  rw [hopen]
  rfl

/-- A temporary file that can be opened is filled, or a fault of its lock or of the device
stops that. -/
theorem exec_fillTemporary {temporary : Text} {serial : Nat} {opened : Disk}
    (hopen : session.disk.openTruncated temporary = .ok (serial, opened)) (target : Text)
    (bytes : ByteArray) (mode : Option Nat) :
  (∃ after, (fillTemporary temporary target bytes mode).exec session = (.ok (), after)
      ∧ Operated session (opened.fill serial bytes mode) after)
    ∨ ∃ fault error after, (fillTemporary temporary target bytes mode).exec session
        = (.error error, after)
      ∧ some fault ∈ session.faults ∧ after.printed = session.printed
      ∧ (error = .lockFailed target
          ∧ (after.disk = opened ∨ after.disk = opened.fill serial bytes mode)
        ∨ error = .disk temporary fault.cause
          ∧ ∃ part bits, after.disk = (opened.fill serial part bits).remove temporary)
  := by
  have hstart : Operated session opened { session with disk := opened } :=
    ⟨rfl, List.Subset.refl _, rfl⟩
  unfold fillTemporary
  rw [Attempt.exec_bind, Attempt.exec_expect, Script.run_request]
  dsimp only [Session.answer]
  rw [hopen, Attempt.mapError_ok]
  dsimp only
  -- The lock is taken.
  rw [Attempt.exec_bind, exec_expectLock, Script.run_request]
  dsimp only [Session.answer]
  rcases operate_cases { session with disk := opened } (.lock serial) with
    ⟨locked, hlock, hlocked⟩ | ⟨fault, after, hlock, hfault, hafter⟩
  case inr =>
    rw [hlock, Attempt.mapError_error]
    exact .inr ⟨fault, _, after, rfl, hfault, hafter.printed, .inl ⟨rfl, .inl hafter.disk⟩⟩
  rw [hlock, Attempt.mapError_ok]
  replace hlocked : Operated session opened locked := hstart.next hlocked
  dsimp only
  -- The file is filled.
  rw [Attempt.exec_bind, exec_stepOrRemove]
  have hfill := exec_fillOpen locked serial bytes mode
  rw [hlocked.disk] at hfill
  rcases hfill with ⟨filled, hfill, hfilled⟩ | ⟨fault, part, bits, after, hfill, hfault, hafter⟩
  case inr =>
    change (fillOpen serial bytes mode).run.run locked = _ at hfill
    rw [hfill]
    refine .inr ⟨fault, _, _, rfl, hlocked.faults hfault, ?_, .inr ⟨rfl, part, bits, ?_⟩⟩
    · exact hafter.printed.trans hlocked.printed
    · exact congrArg (Disk.remove · temporary) hafter.disk
  change (fillOpen serial bytes mode).run.run locked = _ at hfill
  rw [hfill]
  replace hfilled := hlocked.trans hfilled
  dsimp only
  -- The lock is given back.
  rw [exec_expectLock, Script.run_request]
  dsimp only [Session.answer]
  rcases operate_cases filled (.unlock serial) with
    ⟨closed, hunlock, hclosed⟩ | ⟨fault, after, hunlock, hfault, hafter⟩
  · rw [hunlock]
    exact .inl ⟨closed, rfl, hfilled.next hclosed⟩
  · rw [hunlock]
    replace hafter := hfilled.next hafter
    exact .inr ⟨fault, _, after, rfl, hfilled.faults hfault, hafter.printed,
      .inl ⟨rfl, .inr hafter.disk⟩⟩

/-- The directories above the file have been made: what is left is to fill the temporary
file and to move it. -/
theorem exec_fill_and_replace {process : Nat} {path : SlashPath} {bytes : ByteArray}
    {disk : Disk} {mode : Option Nat} (hmode : disk.targetMode path.text = .ok mode)
    (hparents : disk.withParents (disk.target path.text) = (.ok (), session.disk)) :
  let rest : Attempt FileError Unit := do
    fillTemporary (temporaryPath process (disk.target path.text)) (disk.target path.text) bytes
      mode
    replace (temporaryPath process (disk.target path.text)) (disk.target path.text)
    Attempt.report (.fileWritten path (disk.target path.text) bytes.size)
  Writes process path.text bytes disk session.faults (rest.exec session).1
      (rest.exec session).2.disk
    ∧ (rest.exec session).2.printed = session.printed
  := by
  dsimp only
  rw [Attempt.exec_bind]
  cases hopen : session.disk.openTruncated (temporaryPath process (disk.target path.text)) with
  | error cause =>
    rw [exec_fillTemporary_error session hopen]
    exact ⟨.unopened hmode hparents hopen, rfl⟩
  | ok answer =>
  obtain ⟨serial, opened⟩ := answer
  rcases exec_fillTemporary session hopen (disk.target path.text) bytes mode with
    ⟨filled, hfill, hfilled⟩ | ⟨fault, error, after, hfill, hfault, hprinted, hafter⟩
  case inr =>
    rw [hfill]
    refine ⟨?_, hprinted⟩
    rcases hafter with ⟨rfl, hdisk | hdisk⟩ | ⟨rfl, part, bits, hdisk⟩
    · exact hdisk ▸ .unlocked hfault hmode hparents hopen
    · exact hdisk ▸ .unreleased hfault hmode hparents hopen
    · exact hdisk ▸ .unfilled hfault hmode hparents hopen
  rw [hfill]
  dsimp only
  rw [Attempt.exec_bind, replace, exec_stepOrRemove, Script.run_request]
  dsimp only [Session.answer]
  rw [hfilled.disk]
  cases hrename : (opened.fill serial bytes mode).rename
      (temporaryPath process (disk.target path.text)) (disk.target path.text) with
  | error cause =>
    dsimp only
    rw [hfilled.disk]
    exact ⟨.unmoved hmode hparents hopen hrename, hfilled.printed⟩
  | ok after => exact ⟨.written hmode hparents hopen hrename, hfilled.printed⟩

/-- Writing bytes to the file of a path goes one of the ways of `Writes`, and prints
nothing. -/
theorem exec_writeBytes (process : Nat) (path : SlashPath) (bytes : ByteArray) :
  Writes process path.text bytes session.disk session.faults
      ((writeBytes process path bytes).exec session).1
      ((writeBytes process path bytes).exec session).2.disk
    ∧ ((writeBytes process path bytes).exec session).2.printed = session.printed
  := by
  unfold writeBytes
  rw [Attempt.exec_bind, exec_target]
  cases hmode : session.disk.targetMode path.text with
  | error cause => exact ⟨.unknown hmode, rfl⟩
  | ok mode =>
  dsimp only
  split
  next hparent =>
    apply exec_fill_and_replace session hmode
    simp [Disk.withParents, hparent]
  next hparent =>
    apply exec_fill_and_replace session hmode
    simp [Disk.withParents, hparent]
  next parent hne hparent =>
    have hparents : session.disk.withParents (session.disk.target path.text)
        = session.disk.makeDirectoryTree parent
      := by
      unfold Disk.withParents
      rw [hparent]
      cases parent with
      | nil => exact absurd rfl hne
      | cons c parent => rfl
    rw [Attempt.exec_bind, Attempt.exec_expect, Script.run_request]
    dsimp only [Session.answer]
    rw [← hparents]
    rcases hresult : session.disk.withParents (session.disk.target path.text) with
      ⟨⟨cause⟩ | ⟨⟩, middle⟩
    · exact ⟨.unparented hmode hparent hresult, rfl⟩
    · apply exec_fill_and_replace { session with disk := middle } hmode hresult

end

end Storage

end Excision
