import Excision.Proofs.Storage.Atomic
import Excision.Proofs.Storage.Points

/-!
# Writes that take turns

Several calls may write to one file at the same time.  What every turn of one of them
preserves (`Sound.turn`) holds for every schedule: calls of different processes have
temporary files of their own, and the file always holds what it held at first or all the
bytes of one call (`writeBytes_interleaved`).  Calls of the same process share their
temporary file.  It is emptied when it is opened, before its lock is taken, and moved after
the lock has been given back, so that the lock does not keep the bytes of such calls apart
(`writeBytes_mixed`).
-/

namespace Excision

namespace Storage

/-! ### All turns -/

/-- Calls that have not begun. -/
def beginning (session : Session) (calls : List Call) : Turns (Except FileError Unit) where
  session
  scripts := calls.map Call.script

/-- What holds after every turn of calls that write to the file at a location. -/
structure Sound (calls : List Call) (before : Disk) (location : Location) (content : ByteArray)
    (mode : Nat) (points : Nat → Point) (turns : Turns (Except FileError Unit)) : Prop where
  /-- The disk is well formed. -/
  wellFormed : turns.session.disk.WellFormed
  /-- The paths lead where they led. -/
  waysKept : Disk.WaysKept before turns.session.disk
  /-- Each call is at its point. -/
  scripts : ∀ number, turns.scripts[number]?
    = calls[number]?.map fun call => (points number).script call location mode
  /-- Its temporary file fits the point. -/
  fits : ∀ number call, calls[number]? = some call →
    (points number).Fits call location mode turns.session.disk
  /-- The file holds what it held at first, or the bytes of a call that has been moved. -/
  holds : (turns.session.disk.entry? location = some (.file content mode)
      ∧ ∀ number call, calls[number]? = some call → ¬ (points number).Moved)
    ∨ ∃ number call, calls[number]? = some call ∧ (points number).Moved
      ∧ turns.session.disk.entry? location = some (.file call.bytes mode)

section

variable {calls : List Call} {session : Session} {before : Disk} {location : Location}
  {content : ByteArray} {mode : Nat} {points : Nat → Point}
  {turns after : Turns (Except FileError Unit)}

theorem Sound.exists_file (h : Sound calls before location content mode points turns) :
  ∃ bytes, turns.session.disk.entry? location = some (.file bytes mode)
  := by
  rcases h.holds with ⟨hfile, -⟩ | ⟨number, call, -, -, hfile⟩
  · exact ⟨content, hfile⟩
  · exact ⟨call.bytes, hfile⟩

theorem Sound.ready (h : Sound calls before location content mode points turns)
    (hbefore : before.WellFormed) {call : Call}
    (hresolves : before.Resolves call.path.text location) :
  Point.Ready call location mode turns.session.disk
  where
  wellFormed := h.wellFormed
  file := h.exists_file
  resolves := by
    obtain ⟨bytes, hfile⟩ := h.exists_file
    exact hresolves.of_waysKept hbefore h.wellFormed h.waysKept ⟨_, hfile, by simp⟩

/-- A step leaves a well-formed disk well formed. -/
theorem wellFormed_step {script next : Script (Except FileError Unit)} {stepped : Session}
    (h : session.disk.WellFormed) (hstep : script.step session = some (next, stepped)) :
  stepped.disk.WellFormed
  := by
  cases script with
  | done => contradiction
  | ask request rest =>
    cases hstep
    apply Session.wellFormed_answer h

/-- Calls of different processes differ in their temporary files. -/
theorem temporaryLocation_ne_of_nodup (hprocess : (calls.map Call.process).Nodup)
    {number other : Nat} {call call' : Call} (hcall : calls[number]? = some call)
    (hcall' : calls[other]? = some call') (hother : other ≠ number) :
  temporaryLocation call'.process location ≠ temporaryLocation call.process location
  := by
  intro h
  have hsame := temporaryLocation_injective h
  obtain ⟨hlength, -⟩ := List.getElem?_eq_some_iff.mp hcall'
  apply hother
  apply (List.getElem?_inj (by simpa using hlength) hprocess).mp
  rw [List.getElem?_map, List.getElem?_map, hcall, hcall', Option.map_some, Option.map_some, hsame]

theorem Sound.turn (h : Sound calls before location content mode points turns)
    (hbefore : before.WellFormed)
    (hpaths : ∀ call ∈ calls, before.Resolves call.path.text location)
    (hprocess : (calls.map Call.process).Nodup) {number : Nat}
    (hturn : turns.turn number = some after) :
  ∃ points', Sound calls before location content mode points' after
  := by
  obtain ⟨script, left, hscript, hstep, hscripts⟩ := Turns.turn_eq_some hturn
  rw [h.scripts] at hscript
  obtain ⟨call, hcall, rfl⟩ := Option.map_eq_some_iff.mp hscript
  have hready := h.ready hbefore (hpaths call (List.mem_of_getElem? hcall))
  obtain ⟨next, rfl, hadvances⟩ := Point.advance hready (h.fits number call hcall) hstep
  refine ⟨Function.update points number next, ?_⟩
  constructor
  case wellFormed => exact wellFormed_step h.wellFormed hstep
  case waysKept => exact h.waysKept.trans hadvances.waysKept
  case scripts =>
    intro other
    rw [hscripts, List.getElem?_set]
    by_cases hother : number = other
    · subst hother
      obtain ⟨hlength, -⟩ := List.getElem?_eq_some_iff.mp ((h.scripts number).trans hscript)
      rw [if_pos rfl, if_pos hlength, hcall, Option.map_some, Function.update_self]
    · rw [if_neg hother, h.scripts, Function.update_of_ne (Ne.symm hother)]
  case fits =>
    intro other call' hcall'
    by_cases hother : other = number
    · subst hother
      rw [hcall, Option.some.injEq] at hcall'
      subst hcall'
      rw [Function.update_self]
      exact hadvances.fits
    · rw [Function.update_of_ne hother]
      apply (h.fits other call' hcall').of_confined hadvances.confined
      · apply temporaryLocation_ne_of_nodup hprocess hcall hcall' hother
      · apply temporaryLocation_ne hready.proper hready.ne_nil
  case holds =>
    rcases hadvances.holds with ⟨hfile, hmoved⟩ | ⟨hfile, hmoved⟩
    · have hmoved' (other : Nat) :
          (Function.update points number next other).Moved ↔ (points other).Moved
        := by
        by_cases hother : other = number
        · subst hother
          rw [Function.update_self, hmoved]
        · rw [Function.update_of_ne hother]
      rw [hfile]
      simp only [hmoved']
      exact h.holds
    · exact .inr ⟨number, call, hcall, by rwa [Function.update_self], hfile⟩

theorem sound_beginning (hdisk : session.disk.WellFormed)
    (hfile : session.disk.entry? location = some (.file content mode))
    (hfree : ∀ call ∈ calls, session.disk.entry? (temporaryLocation call.process location) = none) :
  Sound calls session.disk location content mode (fun _ => .start) (beginning session calls)
  where
  wellFormed := hdisk
  waysKept := Disk.waysKept_of_entry?_eq rfl rfl
  scripts number := by
    rw [beginning, List.getElem?_map]
    rfl
  fits number call hcall := hfree call (List.mem_of_getElem? hcall)
  holds := .inl ⟨hfile, fun _ _ _ hmoved => hmoved⟩

/-- The file at a location is never a mixture of the bytes of several calls, nor a part of
them. -/
structure Undivided (calls : List Call) (location : Location) (content : ByteArray) (mode : Nat)
    (turns : Turns (Except FileError Unit)) : Prop where
  /-- The paths of the calls still resolve to the file. -/
  resolves : ∀ call ∈ calls, turns.session.disk.Resolves call.path.text location
  /-- It holds what it held at first, or all the bytes of one call. -/
  whole : ∃ bytes, turns.session.disk.entry? location = some (.file bytes mode)
    ∧ (bytes = content ∨ ∃ call ∈ calls, bytes = call.bytes)
  /-- When all calls have ended, one of them with success, it holds the bytes of such a
  one. -/
  ended : none ∉ turns.results → some (.ok ()) ∈ turns.results →
    ∃ (number : Nat) (call : Call), calls[number]? = some call
      ∧ turns.results[number]? = some (some (.ok ()))
      ∧ turns.session.disk.entry? location = some (.file call.bytes mode)

/-- A call that has ended is at the end. -/
theorem eq_ended_of_result? {point : Point} {call : Call} {result : Except FileError Unit}
    (h : (point.script call location mode).result? = some result) :
  point = .ended result
  := by
  cases point with
  | ended other =>
    cases h
    rfl
  | _ => contradiction

theorem Sound.results (h : Sound calls before location content mode points turns)
    (number : Nat) :
  turns.results[number]? = calls[number]?.map
    fun call => ((points number).script call location mode).result?
  := by
  rw [Turns.results, List.getElem?_map, h.scripts, Option.map_map]
  rfl

theorem Sound.undivided (h : Sound calls before location content mode points turns)
    (hbefore : before.WellFormed)
    (hpaths : ∀ call ∈ calls, before.Resolves call.path.text location) :
  Undivided calls location content mode turns
  where
  resolves call hcall := (h.ready hbefore (hpaths call hcall)).resolves
  whole := by
    rcases h.holds with ⟨hfile, -⟩ | ⟨number, call, hcall, -, hfile⟩
    · exact ⟨content, hfile, .inl rfl⟩
    · exact ⟨call.bytes, hfile, .inr ⟨call, List.mem_of_getElem? hcall, rfl⟩⟩
  ended := by
    intro hended hdone
    rcases h.holds with ⟨-, hunmoved⟩ | ⟨number, call, hcall, hmoved, hfile⟩
    · -- A call that has ended with success has been moved.
      obtain ⟨number, hnumber⟩ := List.mem_iff_getElem?.mp hdone
      rw [h.results] at hnumber
      obtain ⟨call, hcall, hresult⟩ := Option.map_eq_some_iff.mp hnumber
      have hmoved := hunmoved number call hcall
      rw [eq_ended_of_result? hresult] at hmoved
      exact absurd trivial hmoved
    · have hnumber := h.results number
      rw [hcall, Option.map_some] at hnumber
      cases hresult : ((points number).script call location mode).result? with
      | none =>
        rw [hresult] at hnumber
        exact absurd (List.mem_of_getElem? hnumber) hended
      | some result =>
        rw [eq_ended_of_result? hresult] at hmoved
        cases result with
        | error error => exact absurd hmoved id
        | ok => exact ⟨number, call, hcall, hnumber.trans (congrArg some hresult), hfile⟩

/-- Calls of different processes that write to one file never mix or divide what they
write, in whatever order they take turns and wherever the device fails. -/
theorem writeBytes_interleaved {schedule : List Nat} (hdisk : session.disk.WellFormed)
    (hfile : session.disk.entry? location = some (.file content mode))
    (hpaths : ∀ call ∈ calls, session.disk.Resolves call.path.text location)
    (hfree : ∀ call ∈ calls, session.disk.entry? (temporaryLocation call.process location) = none)
    (hprocess : (calls.map Call.process).Nodup)
    (hplay : (beginning session calls).play schedule = some turns) :
  Undivided calls location content mode turns
  := by
  have hsound : ∃ points, Sound calls session.disk location content mode points turns := by
    refine Turns.play_induction
      (motive := fun turns => ∃ points,
        Sound calls session.disk location content mode points turns)
      ?_ ⟨_, sound_beginning hdisk hfile hfree⟩ hplay
    rintro turns after number ⟨points, h⟩ hturn
    apply h.turn hdisk hpaths hprocess hturn
  obtain ⟨points, h⟩ := hsound
  apply h.undivided hdisk hpaths

end

/-- Two calls that write to the same file, one of them through a link. -/
def pairOfCalls (first second : Nat) : List Call :=
  [⟨first, ⟨['l']⟩, ⟨#[65, 65, 65, 65]⟩⟩, ⟨second, ⟨['d', '/', 't']⟩, ⟨#[66, 66]⟩⟩]

/-- The calls on a disk with the file and the link. -/
def pairBeginning (first second : Nat) : Turns (Except FileError Unit) :=
  beginning { disk := linkedDisk ⟨#[67]⟩ } (pairOfCalls first second)

/-- A schedule in which both calls open their temporary files before either holds a lock, and
both give their locks back before either is moved. -/
def crossedSchedule : List Nat :=
  [0, 0, 0, 0, 1, 1, 1, 1, 0, 0, 0, 0, 0, 1, 1, 1, 1, 1, 0, 0, 1, 1]

/-- Calls of two processes end with success. -/
theorem writeBytes_interleaved_linked :
  ∃ turns, (pairBeginning 7 8).play crossedSchedule = some turns
    ∧ turns.results = [some (.ok ()), some (.ok ())]
    ∧ Undivided (pairOfCalls 7 8) [['d'], ['t']] ⟨#[67]⟩ 0o755 turns
  := by
  have hrun : ((pairBeginning 7 8).play crossedSchedule).map Turns.results
      = some [some (.ok ()), some (.ok ())] := by decide +kernel
  obtain ⟨turns, hplay, hresults⟩ := Option.map_eq_some_iff.mp hrun
  refine ⟨turns, hplay, hresults, ?_⟩
  refine writeBytes_interleaved (wellFormed_linkedDisk _) rfl ?_ ?_ (by decide) hplay
  · simp only [pairOfCalls, List.forall_mem_cons]
    exact ⟨⟨rfl, rfl⟩, ⟨rfl, rfl⟩, by simp⟩
  · simp only [pairOfCalls, List.forall_mem_cons]
    exact ⟨rfl, rfl, by simp⟩

/-- Two calls of one process share their temporary file: the second empties it before the
first has the lock, and writes over the bytes of the first before these are moved.  The first
call ends with success, and the file holds the bytes of the second with the rest of those of
the first behind them. -/
theorem writeBytes_mixed :
  ∃ turns, (pairBeginning 7 7).play crossedSchedule = some turns
    ∧ turns.results = [some (.ok ()), some (.error (.disk ['/', 'd', '/', 't'] .noSuchFile))]
    ∧ turns.session.disk.readBytes ['d', '/', 't'] = .ok ⟨#[66, 66, 65, 65]⟩
    ∧ ¬ Undivided (pairOfCalls 7 7) [['d'], ['t']] ⟨#[67]⟩ 0o755 turns
  := by
  have hrun : ((pairBeginning 7 7).play crossedSchedule).map
        (fun turns => (turns.results, turns.session.disk.readBytes ['d', '/', 't']))
      = some ([some (.ok ()), some (.error (.disk ['/', 'd', '/', 't'] .noSuchFile))],
          .ok ⟨#[66, 66, 65, 65]⟩)
    := by decide +kernel
  obtain ⟨turns, hplay, hend⟩ := Option.map_eq_some_iff.mp hrun
  obtain ⟨hresults, hreads⟩ := Prod.mk.inj hend
  refine ⟨turns, hplay, hresults, hreads, fun hundivided => ?_⟩
  -- The file holds the bytes that the path reads.
  obtain ⟨location, mode, hlocate, hentry⟩ := Disk.readBytes_eq_ok_iff.mp hreads
  obtain ⟨bytes, hfile, hbytes⟩ := hundivided.whole
  have hpath := hundivided.resolves ⟨7, ⟨['d', '/', 't']⟩, ⟨#[66, 66]⟩⟩ (by simp [pairOfCalls])
  have hplace := hpath.locate
  rw [hlocate, Except.ok.injEq] at hplace
  rw [hplace, hfile, Option.some.injEq, Entry.file.injEq] at hentry
  rw [hentry.1] at hbytes
  rcases hbytes with hbytes | ⟨call, hcall, hbytes⟩
  · revert hbytes
    decide
  · simp only [pairOfCalls, List.mem_cons, List.not_mem_nil, or_false] at hcall
    rcases hcall with rfl | rfl
    · revert hbytes
      decide
    · revert hbytes
      decide

end Storage

end Excision
