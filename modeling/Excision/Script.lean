import Excision.Disk.Change
import Excision.Report

/-!
# Scripts

A script is a program that asks its host for operations on the disk, one request at a time,
and goes on with the answer. It can also print text and report to the log. `Script.run`
answers the requests on a disk that is a value, whose device may fail at any operation on an
open file. What a script does between two requests is its own, so that the requests of several
scripts can be answered in turn.
-/

namespace Excision

/-- What a script asks of its host. -/
inductive Request where
  /-- The canonical path of what a path leads to. -/
  | canonicalize (path : Text)
  /-- The permission bits of what a path leads to. -/
  | mode (path : Text)
  /-- The bytes of a file. -/
  | readBytes (path : Text)
  /-- To make a directory and those above it. -/
  | makeDirectoryTree (path : Text)
  /-- To open a file for writing, emptied or new. -/
  | openTruncated (path : Text)
  /-- To wait until no one else holds the lock of an open file, and take it. -/
  | lock (serial : Nat)
  /-- To write bytes at the beginning of an open file. -/
  | write (serial : Nat) (bytes : ByteArray)
  /-- To set the permission bits of an open file. -/
  | setMode (serial mode : Nat)
  /-- To wait until the device holds all of an open file. -/
  | sync (serial : Nat)
  /-- To give the lock of an open file back. -/
  | unlock (serial : Nat)
  /-- To move a file over another name. -/
  | rename (source target : Text)
  /-- To remove a file, if it is there. -/
  | remove (path : Text)
  /-- To print a text. -/
  | print (text : Text)
  /-- To tell the log. -/
  | report (report : Report)

/-- What the answer to a request is. -/
abbrev Request.Answer : Request → Type
  | canonicalize _ => Except Cause Text
  | mode _ => Except Cause Nat
  | readBytes _ => Except Cause ByteArray
  | makeDirectoryTree _ => Except Cause Unit
  | openTruncated _ => Except Cause Nat
  | lock _ | write _ _ | setMode _ _ | sync _ | unlock _ => Except Cause Unit
  | rename _ _ => Except Cause Unit
  | remove _ | print _ | report _ => Unit

/-- A program of requests with a result. -/
inductive Script (α : Type) where
  /-- The result. -/
  | done (value : α)
  /-- A request and what follows its answer. -/
  | ask (request : Request) (next : request.Answer → Script α)

namespace Script

/-- One script after another. -/
def bind {α β : Type} : Script α → (α → Script β) → Script β
  | done value, next => next value
  | ask request rest, next => ask request fun answer => (rest answer).bind next

instance : Monad Script where
  pure := done
  bind := bind

/-- The script of one request, with the answer as its result. -/
def request (request : Request) : Script request.Answer := ask request done

end Script

/-- How an operation on an open file fails. -/
structure Fault where
  /-- Why it fails. -/
  cause : Cause
  /-- How many bytes have been written, if it is a write. -/
  written : Nat := 0
deriving DecidableEq, Repr

/-- What an operation on an open file does to a disk, or does before its fault stops it. -/
def Request.effect : Request → Option Fault → Disk → Disk
  | .write serial bytes, none, disk => disk.write serial bytes
  | .write serial bytes, some fault, disk => disk.write serial (bytes.extract 0 fault.written)
  | .setMode serial bits, none, disk => disk.setMode serial bits
  | _, _, disk => disk

/-- What a run acts on: a disk, the faults of its device, the text printed so far and the log
so far. -/
structure Session where
  /-- The disk. -/
  disk : Disk
  /-- How the next operations on open files fail, if they do. Those after the last of them do
  not fail. -/
  faults : List (Option Fault) := []
  /-- The text printed, in order. -/
  printed : Text := []
  /-- The reports, the earliest first. -/
  reports : List Report := []

namespace Session

/-- The answer to an operation on an open file, which the next fault may stop. -/
def operate (session : Session) (request : Request) : Except Cause Unit × Session :=
  let fault := session.faults.head?.join
  (match fault with
    | none => .ok ()
    | some fault => .error fault.cause,
  { session with disk := request.effect fault session.disk, faults := session.faults.tail })

/-- The answer to a request and the session after it. A session has no other user of its
disk, so every lock is free. -/
def answer (session : Session) : (request : Request) → request.Answer × Session
  | .canonicalize path => (session.disk.canonicalize path, session)
  | .mode path => (session.disk.mode path, session)
  | .readBytes path => (session.disk.readBytes path, session)
  | .makeDirectoryTree path =>
    let (result, disk) := session.disk.makeDirectoryTree path
    (result, { session with disk })
  | .openTruncated path =>
    match session.disk.openTruncated path with
    | .error cause => (.error cause, session)
    | .ok (serial, disk) => (.ok serial, { session with disk })
  | .lock serial => session.operate (.lock serial)
  | .write serial bytes => session.operate (.write serial bytes)
  | .setMode serial mode => session.operate (.setMode serial mode)
  | .sync serial => session.operate (.sync serial)
  | .unlock serial => session.operate (.unlock serial)
  | .rename source target =>
    match session.disk.rename source target with
    | .error cause => (.error cause, session)
    | .ok disk => (.ok (), { session with disk })
  | .remove path => ((), { session with disk := session.disk.remove path })
  | .print text => ((), { session with printed := session.printed ++ text })
  | .report report => ((), { session with reports := session.reports ++ [report] })

end Session

namespace Script

/-- The result of a script and the session after it, every request being answered by the
session that the one before it left. -/
def run {α : Type} : Script α → Session → α × Session
  | done value, session => (value, session)
  | ask request next, session =>
    let (answer, session) := session.answer request
    (next answer).run session

@[simp] theorem run_done {α : Type} (value : α) (session : Session) :
  (done value).run session = (value, session)
  := rfl

@[simp] theorem run_ask {α : Type} (request : Request) (next : request.Answer → Script α)
    (session : Session) :
  (ask request next).run session
    = (next (session.answer request).1).run (session.answer request).2
  := rfl

/-- A script after another runs on the session that the first one leaves. -/
@[simp] theorem run_bind {α β : Type} (first : Script α) (next : α → Script β)
    (session : Session) :
  (first.bind next).run session = (next (first.run session).1).run (first.run session).2
  := by
  induction first generalizing session with
  | done value => rfl
  | ask request rest ih => exact ih _ _

end Script

/-- A script whose result may be an error, in which case it stops there. -/
abbrev Attempt (ε α : Type) := ExceptT ε Script α

namespace Attempt

/-- The answer to a request that cannot fail. -/
def ask {ε : Type} (request : Request) : Attempt ε request.Answer :=
  ExceptT.lift (Script.request request)

/-- Puts a line on the output. -/
def printLine {ε : Type} (line : Text) : Attempt ε Unit := ask (.print (line ++ ['\n']))

/-- Tells the log. -/
def report {ε : Type} (report : Report) : Attempt ε Unit := ask (.report report)

/-- The result of a computation that may be an error, its events reported. -/
def ofLogged {ε α : Type} (logged : Logged (Except ε α)) : Attempt ε α := do
  logged.events.forM fun event => report (.block event)
  ExceptT.mk (pure logged.value)

end Attempt

end Excision
