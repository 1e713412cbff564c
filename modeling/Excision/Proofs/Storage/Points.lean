import Excision.Proofs.Disk.Confined
import Excision.Proofs.Script.Turns
import Excision.Proofs.Storage.Replacement

/-!
# One turn of a write

A call that writes to a file to which its path resolves is always at one of a few points, from
which the rest of it is known (`Point.rest`), and at each of them the temporary file is in a
state of its own (`Point.Fits`).  One turn takes the call to the next point and the temporary
file to the state that fits it, whether the device fails or not; nothing else changes, but that
the filled temporary file takes the place of the file when it is moved (`Point.advance`).  The
turns of another call with another temporary file leave the call where it is
(`Point.Fits.of_confined`).
-/

namespace Excision

namespace Storage

/-! ### Points of a call -/

/-- A call that writes bytes to the file of a path, as a process makes it. -/
structure Call where
  /-- The process. -/
  process : Nat
  /-- The path of the file. -/
  path : SlashPath
  /-- The bytes. -/
  bytes : ByteArray

/-- The steps of a call. -/
def Call.script (call : Call) : Script (Except FileError Unit) :=
  (writeBytes call.process call.path call.bytes).run

/-- How far a call has come that writes to a file which exists. -/
inductive Point where
  /-- Nothing has been done. -/
  | start
  /-- The file has been found. -/
  | located
  /-- Its permission bits are known. -/
  | measured
  /-- The directory above it is there. -/
  | parented
  /-- The temporary file has been opened. -/
  | opened (serial : Nat)
  /-- Its lock is held. -/
  | locked (serial : Nat)
  /-- The bytes have been written. -/
  | filled (serial : Nat)
  /-- The permission bits have been set. -/
  | permitted (serial : Nat)
  /-- The device holds all of it. -/
  | synced (serial : Nat)
  /-- The lock has been given back. -/
  | closed
  /-- The temporary file has been moved over the file. -/
  | moved
  /-- A step at a path has failed, and the temporary file is still there. -/
  | failed (path : Text) (cause : Cause)
  /-- The call has ended. -/
  | ended (result : Except FileError Unit)

namespace Point

/-- What is left of a call at a point. -/
def rest (call : Call) (location : Location) (mode : Nat) : Point → Attempt FileError Unit
  | start => writeBytes call.process call.path call.bytes
  | located => do
    let mode ← expect location.path (Script.request (.mode location.path))
    expect parent (Script.request (.makeDirectoryTree parent))
    fillTemporary temporary location.path call.bytes (some mode)
    finish
  | measured => do
    expect parent (Script.request (.makeDirectoryTree parent))
    fillTemporary temporary location.path call.bytes (some mode)
    finish
  | parented => do
    fillTemporary temporary location.path call.bytes (some mode)
    finish
  | opened serial => do
    (do
      expectLock location.path (Script.request (.lock serial))
      complete serial (fillOpen serial call.bytes (some mode)).run)
    finish
  | locked serial => do
    complete serial (fillOpen serial call.bytes (some mode)).run
    finish
  | filled serial => do
    complete serial (permit serial).run
    finish
  | permitted serial => do
    complete serial (Script.request (.sync serial))
    finish
  | synced serial => do
    expectLock location.path (Script.request (.unlock serial))
    finish
  | closed => finish
  | moved => Attempt.report (.fileWritten call.path location.path call.bytes.size)
  | failed path cause => do
    Attempt.ask (.remove temporary)
    throw (.disk path cause)
  | ended result => ExceptT.mk (pure result)
where
  /-- The path of the directory above the file. -/
  parent : Text := Location.path location.dropLast
  /-- The path of the temporary file. -/
  temporary : Text := temporaryPath call.process location.path
  /-- What follows the writing of the temporary file, as long as its lock is held. -/
  permit (serial : Nat) : Attempt Cause Unit := do
    ExceptT.mk (Script.request (.setMode serial mode))
    ExceptT.mk (Script.request (.sync serial))
  /-- Takes the last steps on the temporary file and gives its lock back. -/
  complete (serial : Nat) (step : Script (Except Cause Unit)) : Attempt FileError Unit := do
    stepOrRemove temporary temporary step
    expectLock location.path (Script.request (.unlock serial))
  /-- The end of a call that has filled its temporary file. -/
  finish : Attempt FileError Unit := do
    replace temporary location.path
    Attempt.report (.fileWritten call.path location.path call.bytes.size)

/-- What is left of a call at a point, as a script. -/
def script (call : Call) (location : Location) (mode : Nat) (point : Point) :
    Script (Except FileError Unit) :=
  (point.rest call location mode).run

/-- What stands at the place of the temporary file when a call is at a point. -/
def Fits (call : Call) (location : Location) (mode : Nat) (disk : Disk) : Point → Prop
  | start | located => disk.entry? temporary = none
  | measured | parented => disk.entry? temporary = none ∧ checkPath location.path = .ok ()
  | opened serial | locked serial =>
    ∃ bits, disk.Alone temporary ⟨serial, .file .empty bits⟩
  | filled serial => ∃ bits, disk.Alone temporary ⟨serial, .file call.bytes bits⟩
  | permitted serial | synced serial => disk.Alone temporary ⟨serial, .file call.bytes mode⟩
  | closed => ∃ serial, disk.Alone temporary ⟨serial, .file call.bytes mode⟩
  | failed _ _ => ∃ serial content bits, disk.Alone temporary ⟨serial, .file content bits⟩
  | moved | ended _ => True
where
  /-- The place of the temporary file. -/
  temporary : Location := temporaryLocation call.process location

/-- The call has moved its temporary file over the file. -/
def Moved : Point → Prop
  | moved | ended (.ok ()) => True
  | _ => False

/-- What a turn of a call does that takes it from one point to another. -/
structure Advances (call : Call) (location : Location) (mode : Nat) (point next : Point)
    (disk after : Disk) : Prop where
  /-- The temporary file is what it is at the next point. -/
  fits : next.Fits call location mode after
  /-- Nothing changes but the temporary file and the file. -/
  confined : disk.Confined (temporaryLocation call.process location) location after
  /-- All ways are kept. -/
  waysKept : Disk.WaysKept disk after
  /-- The file is kept, or it becomes the temporary file. -/
  holds : (after.entry? location = disk.entry? location ∧ (next.Moved ↔ point.Moved))
    ∨ (after.entry? location = some (.file call.bytes mode) ∧ next.Moved)

section

variable {call : Call} {location : Location} {mode : Nat} {point next : Point}
  {session : Session} {disk after : Disk}

/-- A request that leaves the disk alone. -/
theorem Advances.of_eq (hfits : next.Fits call location mode disk)
    (hmoved : next.Moved ↔ point.Moved) :
  Advances call location mode point next disk disk
  where
  fits := hfits
  confined := .refl disk _ _
  waysKept := Disk.waysKept_of_entry?_eq rfl rfl
  holds := .inl ⟨rfl, hmoved⟩

/-- A request that changes nothing but the temporary file. -/
theorem Advances.of_confined
    (hconfined : disk.Confined (temporaryLocation call.process location)
      (temporaryLocation call.process location) after)
    (hway : disk.HasNoWay (temporaryLocation call.process location))
    (hne : location ≠ temporaryLocation call.process location)
    (hfits : next.Fits call location mode after) (hmoved : next.Moved ↔ point.Moved) :
  Advances call location mode point next disk after
  where
  fits := hfits
  confined := {
    node?_eq := fun other hsource _ => hconfined.node?_eq other hsource hsource
    serial := hconfined.serial
    workingDirectory := hconfined.workingDirectory }
  waysKept := hconfined.waysKept hway hway
  holds := .inl ⟨hconfined.entry?_eq hne hne, hmoved⟩

/-! ### The next request -/

/-- What a call does when the file is known, if there is a directory above it. -/
theorem script_start
    (hparent : HostPath.parent? location.path = some (Location.path location.dropLast)) :
  ∃ next, start.script call location mode = .ask (.canonicalize call.path.text) next
    ∧ next (.ok location.path) = located.script call location mode
  := by
  refine ⟨_, rfl, ?_⟩
  refine congrArg (Script.ask (.mode location.path)) (funext fun answer => ?_)
  cases answer with
  | error cause => rfl
  | ok bits =>
    simp only [Script.bind, ExceptT.bindCont, pure, ExceptT.pure, ExceptT.mk, hparent]
    rfl

theorem script_located :
  located.script call location mode
    = .ask (.mode location.path) fun
      | .ok bits => measured.script call location bits
      | .error cause => (ended (.error (.disk location.path cause))).script call location mode
  := by
  refine congrArg (Script.ask (.mode location.path)) (funext fun answer => ?_)
  cases answer with
  | ok bits => rfl
  | error cause => rfl

theorem script_measured :
  measured.script call location mode
    = .ask (.makeDirectoryTree (Location.path location.dropLast)) fun
      | .ok () => parented.script call location mode
      | .error cause =>
        (ended (.error (.disk (Location.path location.dropLast) cause))).script call location mode
  := by
  refine congrArg (Script.ask (.makeDirectoryTree _)) (funext fun answer => ?_)
  cases answer with
  | ok => rfl
  | error cause => rfl

theorem script_parented :
  parented.script call location mode
    = .ask (.openTruncated (temporaryPath call.process location.path)) fun
      | .ok serial => (opened serial).script call location mode
      | .error cause =>
        (ended (.error (.disk (temporaryPath call.process location.path) cause))).script
          call location mode
  := by
  refine congrArg (Script.ask (.openTruncated _)) (funext fun answer => ?_)
  cases answer with
  | ok serial => rfl
  | error cause => rfl

theorem script_opened (serial : Nat) :
  (opened serial).script call location mode
    = .ask (.lock serial) fun
      | .ok () => (locked serial).script call location mode
      | .error _ => (ended (.error (.lockFailed location.path))).script call location mode
  := by
  refine congrArg (Script.ask (.lock serial)) (funext fun answer => ?_)
  cases answer with
  | ok => rfl
  | error cause => rfl

theorem script_locked (serial : Nat) :
  (locked serial).script call location mode
    = .ask (.write serial call.bytes) fun
      | .ok () => (filled serial).script call location mode
      | .error cause =>
        (failed (temporaryPath call.process location.path) cause).script call location mode
  := by
  refine congrArg (Script.ask (.write serial call.bytes)) (funext fun answer => ?_)
  cases answer with
  | ok => rfl
  | error cause => rfl

theorem script_filled (serial : Nat) :
  (filled serial).script call location mode
    = .ask (.setMode serial mode) fun
      | .ok () => (permitted serial).script call location mode
      | .error cause =>
        (failed (temporaryPath call.process location.path) cause).script call location mode
  := by
  refine congrArg (Script.ask (.setMode serial mode)) (funext fun answer => ?_)
  cases answer with
  | ok => rfl
  | error cause => rfl

theorem script_permitted (serial : Nat) :
  (permitted serial).script call location mode
    = .ask (.sync serial) fun
      | .ok () => (synced serial).script call location mode
      | .error cause =>
        (failed (temporaryPath call.process location.path) cause).script call location mode
  := by
  refine congrArg (Script.ask (.sync serial)) (funext fun answer => ?_)
  cases answer with
  | ok => rfl
  | error cause => rfl

theorem script_synced (serial : Nat) :
  (synced serial).script call location mode
    = .ask (.unlock serial) fun
      | .ok () => closed.script call location mode
      | .error _ => (ended (.error (.lockFailed location.path))).script call location mode
  := by
  refine congrArg (Script.ask (.unlock serial)) (funext fun answer => ?_)
  cases answer with
  | ok => rfl
  | error cause => rfl

theorem script_closed :
  closed.script call location mode
    = .ask (.rename (temporaryPath call.process location.path) location.path) fun
      | .ok () => moved.script call location mode
      | .error cause => (failed location.path cause).script call location mode
  := by
  refine congrArg (Script.ask (.rename _ _)) (funext fun answer => ?_)
  cases answer with
  | ok => rfl
  | error cause => rfl

/-! ### One turn -/

/-- The file to which the calls write is there, and their paths resolve to it. -/
structure Ready (call : Call) (location : Location) (mode : Nat) (disk : Disk) : Prop where
  /-- The disk is well formed. -/
  wellFormed : disk.WellFormed
  /-- The file is there. -/
  file : ∃ content, disk.entry? location = some (.file content mode)
  /-- The path resolves to it. -/
  resolves : disk.Resolves call.path.text location

theorem Ready.ne_nil (h : Ready call location mode disk) :
  location ≠ []
  := by
  rintro rfl
  obtain ⟨content, hfile⟩ := h.file
  simp at hfile

theorem Ready.entry?_ne_none (h : Ready call location mode disk) :
  disk.entry? location ≠ none
  := by
  obtain ⟨content, hfile⟩ := h.file
  simp [hfile]

theorem Ready.proper (h : Ready call location mode disk) :
  location.Proper
  := h.wellFormed.proper h.entry?_ne_none

theorem Ready.ne_temporary (h : Ready call location mode disk) :
  location ≠ temporaryLocation call.process location
  := (temporaryLocation_ne h.proper h.ne_nil).symm

theorem Ready.parent? (h : Ready call location mode disk) :
  HostPath.parent? location.path = some (Location.path location.dropLast)
  := by
  have hproper := h.proper
  rw [← List.dropLast_concat_getLast h.ne_nil] at hproper
  have hparent := hproper.parent?_path
  rwa [List.dropLast_concat_getLast] at hparent

/-- The permission bits that a call finds are those of the file. -/
theorem Ready.mode_eq (h : Ready call location mode disk) {bits : Nat}
    (hbits : disk.mode location.path = .ok bits) :
  bits = mode
  := by
  obtain ⟨content, hfile⟩ := h.file
  rw [h.wellFormed.mode_path hfile (Disk.checkPath_of_mode hbits)] at hbits
  cases hbits
  rfl

/-- Nothing has to be made above the file. -/
theorem Ready.makeDirectoryTree (h : Ready call location mode disk)
    (hcheck : checkPath location.path = .ok ()) :
  disk.makeDirectoryTree (Location.path location.dropLast) = (.ok (), disk)
  := by
  obtain ⟨content, hfile⟩ := h.file
  have hplace := h.wellFormed.place_path hfile (by simp) hcheck
  have hparents := Disk.withParents_of_locate (Disk.locate_eq_ok_iff.mpr hplace)
  rw [Disk.withParents, h.parent?] at hparents
  exact hparents

/-- The path of the file names its place. -/
theorem Ready.eq_of_slot (h : Ready call location mode disk) {other : Location} {slash : Bool}
    (hslot : disk.slot location.path = .ok (.named other slash)) :
  other = location
  := by
  obtain ⟨directory, name, -, hnames⟩ := Disk.slot_eq_named_iff.mp hslot
  rw [h.wellFormed.slot_path h.ne_nil h.entry?_ne_none hnames.checked, Except.ok.injEq,
    Slot.named.injEq] at hslot
  exact hslot.1.symm

/-- The path of the temporary file names its place. -/
theorem Ready.eq_of_slot_temporary (h : Ready call location mode disk) {other : Location}
    {slash : Bool}
    (hslot : disk.slot (temporaryPath call.process location.path) = .ok (.named other slash)) :
  other = temporaryLocation call.process location
  := eq_of_slot_temporaryPath h.wellFormed h.ne_nil h.entry?_ne_none hslot

/-- Opening the temporary file makes a new one. -/
theorem Ready.openTruncated (h : Ready call location mode disk)
    (hnone : disk.entry? (temporaryLocation call.process location) = none) {serial : Nat}
    (hopen : disk.openTruncated (temporaryPath call.process location.path) = .ok (serial, after)) :
  serial = disk.freshSerial
    ∧ after = disk.create (temporaryLocation call.process location)
      (.file .empty disk.newFileMode)
  := by
  obtain ⟨front, hparts⟩ := splitAt_temporaryPath call.process location.path
  obtain ⟨directory, hnames, -, rfl, rfl⟩ := Disk.openTruncated_of_free hparts
    (temporaryName_not_void call.process _) (temporaryName_ne_up call.process _)
    (fun other slash hslot => .inl (by rw [h.eq_of_slot_temporary hslot, hnone])) hopen
  rw [h.eq_of_slot_temporary (Disk.slot_eq_named_iff.mpr ⟨directory, _, rfl, hnames⟩)]
  exact ⟨rfl, rfl⟩

/-- Moving the temporary file puts it in the place of the file. -/
theorem Ready.rename (h : Ready call location mode disk) {node : Node}
    (halone : disk.Alone (temporaryLocation call.process location) node)
    (hrename : disk.rename (temporaryPath call.process location.path) location.path = .ok after) :
  after = (disk.erase (temporaryLocation call.process location)).setNode location node
  := by
  obtain ⟨source, target, moved, hsource, htarget, hmoved, -, -, hafter⟩ :=
    Disk.rename_eq_ok hrename
  obtain rfl := h.eq_of_slot_temporary hsource
  obtain rfl := h.eq_of_slot htarget
  rw [halone.node?_eq, Option.some.injEq] at hmoved
  subst hmoved
  rcases hafter with ⟨-, other, hother, hserial⟩ | ⟨rfl, -⟩
  · exact absurd (halone.eq_of_serial target other hother hserial) h.ne_temporary
  · rfl

/-- Removing the temporary file takes at most its entry away. -/
theorem Ready.remove_confined (h : Ready call location mode disk) :
  disk.Confined (temporaryLocation call.process location)
    (temporaryLocation call.process location)
    (disk.remove (temporaryPath call.process location.path))
  := by
  unfold Disk.remove
  split
  next other hslot =>
    obtain rfl := h.eq_of_slot_temporary hslot
    split
    · apply Disk.Confined.refl
    · apply Disk.confined_erase
  · apply Disk.Confined.refl

/-- What a step of a call is when its next request is known. -/
theorem step_eq_some {request : Request} {rest : request.Answer → Script (Except FileError Unit)}
    (hscript : point.script call location mode = .ask request rest)
    {left : Script (Except FileError Unit)} {after : Session}
    (hstep : (point.script call location mode).step session = some (left, after)) :
  left = rest (session.answer request).1 ∧ after = (session.answer request).2
  := by
  rw [hscript, Script.step, Option.some.injEq, Prod.mk.injEq] at hstep
  exact ⟨hstep.1.symm, hstep.2.symm⟩

/-- A turn takes a call from a point to the next, and the temporary file fits that. -/
theorem advance (h : Ready call location mode session.disk)
    (hfits : point.Fits call location mode session.disk)
    {left : Script (Except FileError Unit)} {after : Session}
    (hstep : (point.script call location mode).step session = some (left, after)) :
  ∃ next : Point, left = next.script call location mode
    ∧ Advances call location mode point next session.disk after.disk
  := by
  cases point with
  | start =>
    obtain ⟨rest, hrest, hlocated⟩ := script_start h.parent?
    obtain ⟨rfl, rfl⟩ := step_eq_some hrest hstep
    refine ⟨located, ?_, .of_eq hfits Iff.rfl⟩
    rw [← hlocated]
    exact congrArg rest h.resolves.canonicalize
  | located =>
    obtain ⟨rfl, hafter⟩ := step_eq_some script_located hstep
    rw [hafter]
    dsimp only [Session.answer]
    cases hmode : session.disk.mode location.path with
    | error cause => exact ⟨ended _, rfl, .of_eq trivial Iff.rfl⟩
    | ok bits =>
      obtain rfl := h.mode_eq hmode
      exact ⟨measured, rfl, .of_eq ⟨hfits, Disk.checkPath_of_mode hmode⟩ Iff.rfl⟩
  | measured =>
    have hanswer : session.answer (.makeDirectoryTree (Location.path location.dropLast))
        = (.ok (), session)
      := by simp only [Session.answer, h.makeDirectoryTree hfits.2]
    obtain ⟨rfl, rfl⟩ := step_eq_some script_measured hstep
    rw [hanswer]
    exact ⟨parented, rfl, .of_eq hfits Iff.rfl⟩
  | parented =>
    obtain ⟨rfl, rfl⟩ := step_eq_some script_parented hstep
    dsimp only [Session.answer]
    cases hopen : session.disk.openTruncated (temporaryPath call.process location.path) with
    | error cause => exact ⟨ended _, rfl, .of_eq trivial Iff.rfl⟩
    | ok answer =>
      obtain ⟨serial, made⟩ := answer
      obtain ⟨rfl, rfl⟩ := h.openTruncated hfits.1 hopen
      refine ⟨opened _, rfl, ?_⟩
      exact .of_confined (Disk.confined_create _) (Disk.hasNoWay_of_none hfits.1) h.ne_temporary
        ⟨_, Disk.alone_create _⟩ Iff.rfl
  | opened serial =>
    obtain ⟨rfl, rfl⟩ := step_eq_some (script_opened serial) hstep
    dsimp only [Session.answer]
    rcases operate_cases session (.lock serial) with
      ⟨after, hlock, hafter⟩ | ⟨fault, after, hlock, -, hafter⟩
    · rw [hlock, hafter.disk]
      exact ⟨locked serial, rfl, .of_eq hfits Iff.rfl⟩
    · rw [hlock, hafter.disk]
      exact ⟨ended _, rfl, .of_eq trivial Iff.rfl⟩
  | locked serial =>
    obtain ⟨bits, halone⟩ := hfits
    obtain ⟨rfl, rfl⟩ := step_eq_some (script_locked serial) hstep
    dsimp only [Session.answer]
    have hway := halone.hasNoWay temporaryLocation_ne_nil
    rcases operate_cases session (.write serial call.bytes) with
      ⟨after, hwrite, hafter⟩ | ⟨fault, after, hwrite, -, hafter⟩
    · rw [hwrite, hafter.disk]
      exact ⟨filled serial, rfl, .of_confined (halone.confined_write _) hway h.ne_temporary
        ⟨bits, halone.write _⟩ Iff.rfl⟩
    · rw [hwrite, hafter.disk]
      exact ⟨failed _ _, rfl, .of_confined (halone.confined_write _) hway h.ne_temporary
        ⟨serial, _, bits, halone.write _⟩ Iff.rfl⟩
  | filled serial =>
    obtain ⟨bits, halone⟩ := hfits
    obtain ⟨rfl, rfl⟩ := step_eq_some (script_filled serial) hstep
    dsimp only [Session.answer]
    rcases operate_cases session (.setMode serial mode) with
      ⟨after, hset, hafter⟩ | ⟨fault, after, hset, -, hafter⟩
    · rw [hset, hafter.disk]
      exact ⟨permitted serial, rfl, .of_confined (halone.confined_setMode mode)
        (halone.hasNoWay temporaryLocation_ne_nil) h.ne_temporary (halone.setMode mode) Iff.rfl⟩
    · rw [hset, hafter.disk]
      exact ⟨failed _ _, rfl, .of_eq ⟨serial, _, bits, halone⟩ Iff.rfl⟩
  | permitted serial =>
    obtain ⟨rfl, rfl⟩ := step_eq_some (script_permitted serial) hstep
    dsimp only [Session.answer]
    rcases operate_cases session (.sync serial) with
      ⟨after, hsync, hafter⟩ | ⟨fault, after, hsync, -, hafter⟩
    · rw [hsync, hafter.disk]
      exact ⟨synced serial, rfl, .of_eq hfits Iff.rfl⟩
    · rw [hsync, hafter.disk]
      exact ⟨failed _ _, rfl, .of_eq ⟨serial, _, mode, hfits⟩ Iff.rfl⟩
  | synced serial =>
    obtain ⟨rfl, rfl⟩ := step_eq_some (script_synced serial) hstep
    dsimp only [Session.answer]
    rcases operate_cases session (.unlock serial) with
      ⟨after, hunlock, hafter⟩ | ⟨fault, after, hunlock, -, hafter⟩
    · rw [hunlock, hafter.disk]
      exact ⟨closed, rfl, .of_eq ⟨serial, hfits⟩ Iff.rfl⟩
    · rw [hunlock, hafter.disk]
      exact ⟨ended _, rfl, .of_eq trivial Iff.rfl⟩
  | closed =>
    obtain ⟨serial, halone⟩ := hfits
    obtain ⟨rfl, rfl⟩ := step_eq_some script_closed hstep
    dsimp only [Session.answer]
    cases hrename : session.disk.rename (temporaryPath call.process location.path)
        location.path with
    | error cause => exact ⟨failed _ cause, rfl, .of_eq ⟨serial, _, mode, halone⟩ Iff.rfl⟩
    | ok disk =>
      obtain rfl := h.rename halone hrename
      have hconfined := Disk.confined_move halone.node?_eq location
      obtain ⟨content, hfile⟩ := h.file
      refine ⟨moved, rfl, trivial, hconfined, ?_, .inr ⟨?_, trivial⟩⟩
      · exact hconfined.waysKept (halone.hasNoWay temporaryLocation_ne_nil)
          (Disk.hasNoWay_of_file hfile)
      · dsimp only
        rw [Disk.entry?_setNode h.ne_nil, Function.update_self]
  | moved =>
    cases hstep
    exact ⟨ended (.ok ()), rfl, .of_eq trivial Iff.rfl⟩
  | failed path cause =>
    obtain ⟨serial, content, bits, halone⟩ := hfits
    cases hstep
    exact ⟨ended (.error (.disk path cause)), rfl, .of_confined h.remove_confined
      (halone.hasNoWay temporaryLocation_ne_nil) h.ne_temporary trivial Iff.rfl⟩
  | ended result => contradiction

/-- What another call does leaves the temporary file of a call as it is. -/
theorem Fits.of_confined {source : Location} (hfits : point.Fits call location mode disk)
    (hconfined : disk.Confined source location after)
    (hsource : temporaryLocation call.process location ≠ source)
    (hlocation : temporaryLocation call.process location ≠ location) :
  point.Fits call location mode after
  := by
  have hentry := hconfined.entry?_eq hsource hlocation
  cases point with
  | start | located => exact hentry.trans hfits
  | measured | parented => exact ⟨hentry.trans hfits.1, hfits.2⟩
  | opened | locked | filled | closed =>
    obtain ⟨number, halone⟩ := hfits
    exact ⟨number, halone.of_confined hconfined hsource hlocation⟩
  | permitted | synced => exact hfits.of_confined hconfined hsource hlocation
  | failed =>
    obtain ⟨serial, content, bits, halone⟩ := hfits
    exact ⟨serial, content, bits, halone.of_confined hconfined hsource hlocation⟩
  | moved | ended => trivial

end

end Point

end Storage

end Excision
