import Excision.Script
import Mathlib.Logic.Function.Basic

/-!
# Scripts that take turns

Several scripts on one session, each of which goes on by one request whenever it has its
turn.  A lock is held by one script at a time, and a script that asks for the lock of another
waits: it has no turn until the lock is given back, or the other script has ended.  What every
turn preserves holds along every schedule (`Turns.play_induction`).
-/

namespace Excision

/-- What is left of a script after its next request, and the session after the answer. -/
def Script.step {α : Type} (session : Session) : Script α → Option (Script α × Session)
  | .done _ => none
  | .ask request next =>
    let (answer, session) := session.answer request
    some (next answer, session)

/-- The result of a script that has ended. -/
def Script.result? {α : Type} : Script α → Option α
  | .done value => some value
  | .ask _ _ => none

/-- Scripts that take turns on one session. -/
structure Turns (α : Type) where
  /-- The session that answers the requests. -/
  session : Session
  /-- What is left of each script. -/
  scripts : List (Script α)
  /-- The script that holds the lock of the file of a serial number. -/
  holder : Nat → Option Nat := fun _ => none

namespace Turns

variable {α : Type}

/-- Who holds the locks after the answer to a request of a script, unless it has to wait.  A
lock that cannot be taken is not waited for. -/
def holderAfter (holder : Nat → Option Nat) (number : Nat) :
    (request : Request) → request.Answer → Option (Nat → Option Nat)
  | .lock serial, .ok () =>
    match holder serial with
    | none => some (Function.update holder serial (some number))
    | some other => if other = number then some holder else none
  | .unlock serial, .ok () =>
    if holder serial = some number then some (Function.update holder serial none)
    else some holder
  | _, _ => some holder

/-- Who holds the locks when this is what is left of a script: one that has ended has closed
its files, and holds none. -/
def holderLeft (holder : Nat → Option Nat) (number : Nat) : Script α → Nat → Option Nat
  | .done _ => fun serial => if holder serial = some number then none else holder serial
  | .ask _ _ => holder

/-- The next request of a script is answered, unless the script has ended or has to wait. -/
def turn (turns : Turns α) (number : Nat) : Option (Turns α) :=
  match turns.scripts[number]? with
  | some (.ask request next) =>
    let (answer, session) := turns.session.answer request
    (holderAfter turns.holder number request answer).map fun holder => {
      session
      scripts := turns.scripts.set number (next answer)
      holder := holderLeft holder number (next answer) }
  | _ => none

/-- The scripts take turns in the order of a schedule. -/
def play (turns : Turns α) : (schedule : List Nat) → Option (Turns α)
  | [] => some turns
  | number :: schedule =>
    match turns.turn number with
    | none => none
    | some turns => turns.play schedule

/-- The results of the scripts that have ended. -/
def results (turns : Turns α) : List (Option α) := turns.scripts.map Script.result?

variable {turns after : Turns α} {number : Nat}

/-- A turn is a step of one script, and leaves the other scripts alone. -/
theorem turn_eq_some (h : turns.turn number = some after) :
  ∃ script next, turns.scripts[number]? = some script
    ∧ script.step turns.session = some (next, after.session)
    ∧ after.scripts = turns.scripts.set number next
  := by
  unfold turn at h
  split at h
  next request next hscript =>
    obtain ⟨holder, -, rfl⟩ := Option.map_eq_some_iff.mp h
    exact ⟨_, _, hscript, rfl, rfl⟩
  · contradiction

/-- What a turn preserves holds after every schedule. -/
theorem play_induction {motive : Turns α → Prop}
    (hturn : ∀ turns after number, motive turns → turns.turn number = some after → motive after)
    {schedule : List Nat} (hstart : motive turns) (h : turns.play schedule = some after) :
  motive after
  := by
  induction schedule generalizing turns with
  | nil =>
    cases h
    exact hstart
  | cons number schedule ih =>
    rw [play] at h
    cases hnext : turns.turn number with
    | none =>
      rw [hnext] at h
      contradiction
    | some middle =>
      rw [hnext] at h
      exact ih (hturn turns middle number hstart hnext) h

end Turns

end Excision
