import Excision.Document
import Excision.Script

/-!
# Storage

Reading and writing whole files. A file is replaced through a temporary file beside it: the
new content is written there, under the lock of that file and with the permission bits of
the old one, and a rename then puts it in place, so that the target is never half written. A
path that leads through links has its links kept, and the file behind them replaced, if its
canonical path can be found.
-/

namespace Excision

/-- The name of the temporary file for a target, as a process makes it. -/
def temporaryName (process : Nat) (target : Text) : Text :=
  '.' :: (HostPath.fileName? target).getD [] ++ '.' :: Text.ofNat process
    ++ ['.', 't', 'm', 'p']

/-- The path of the temporary file for a target: beside it. -/
def temporaryPath (process : Nat) (target : Text) : Text :=
  HostPath.withFileName target (temporaryName process target)

namespace Storage

/-- The answer to a request on which the operation at `path` rests. -/
def expect {α : Type} (path : Text) (answer : Script (Except Cause α)) : Attempt FileError α :=
  ExceptT.mk do
    match ← answer with
    | .ok value => pure (.ok value)
    | .error cause => pure (.error (.disk path cause))

/-- The file that is to be replaced and the permission bits that it has. A path that has no
canonical path, most often because it leads to nothing, names the file itself, which is then
taken to have none. -/
def target (path : Text) : Attempt FileError (Text × Option Nat) := do
  match ← Attempt.ask (.canonicalize path) with
  | .error _ => return (path, none)
  | .ok resolved =>
    return (resolved, some (← expect resolved (Script.request (.mode resolved))))

/-- The answer to a request for the lock of the temporary file for the file at `path`. -/
def expectLock (path : Text) (answer : Script (Except Cause Unit)) : Attempt FileError Unit :=
  ExceptT.mk do
    match ← answer with
    | .ok () => pure (.ok ())
    | .error _ => pure (.error (.lockFailed path))

/-- Takes a step on which the operation at `path` rests, and removes the temporary file if it
fails. -/
def stepOrRemove (temporary path : Text) (step : Script (Except Cause Unit)) :
    Attempt FileError Unit := do
  match ← ExceptT.lift step with
  | .ok () => return ()
  | .error cause =>
    Attempt.ask (.remove temporary)
    throw (.disk path cause)

/-- Writes bytes to an open file, gives it permission bits, if there are any to be given, and
waits until the device has all of it. -/
def fillOpen (serial : Nat) (bytes : ByteArray) (mode : Option Nat) : Attempt Cause Unit := do
  ExceptT.mk (Script.request (.write serial bytes))
  if let some mode := mode then
    ExceptT.mk (Script.request (.setMode serial mode))
  ExceptT.mk (Script.request (.sync serial))

/-- Fills a new temporary file for a target and closes it. It is removed if it cannot be
filled, and stays if its lock fails. -/
def fillTemporary (temporary target : Text) (bytes : ByteArray) (mode : Option Nat) :
    Attempt FileError Unit := do
  let serial ← expect temporary (Script.request (.openTruncated temporary))
  expectLock target (Script.request (.lock serial))
  stepOrRemove temporary temporary (fillOpen serial bytes mode).run
  expectLock target (Script.request (.unlock serial))

/-- Moves a temporary file over its target, and removes it if that fails. -/
def replace (temporary target : Text) : Attempt FileError Unit :=
  stepOrRemove temporary target (Script.request (.rename temporary target))

/-- Writes bytes to the file of a path, whole or not at all. -/
def writeBytes (process : Nat) (path : SlashPath) (bytes : ByteArray) :
    Attempt FileError Unit := do
  let (target, mode) ← target path.text
  match HostPath.parent? target with
  | none | some [] => pure ()
  | some parent => expect parent (Script.request (.makeDirectoryTree parent))
  let temporary := temporaryPath process target
  fillTemporary temporary target bytes mode
  replace temporary target
  Attempt.report (.fileWritten path target bytes.size)

/-- Writes a text to the file of a path. -/
def writeText (process : Nat) (path : SlashPath) (text : Text) : Attempt FileError Unit :=
  writeBytes process path text.toBytes

/-- The text of the file of a path, which must be UTF-8. -/
def readText (path : SlashPath) : Attempt FileError Text := do
  let bytes ← expect path.text (Script.request (.readBytes path.text))
  match Text.ofBytes? bytes with
  | some text => return text
  | none => throw (.disk path.text .notText)

/-- The document in the file of a path. -/
def loadDocument (path : SlashPath) : Attempt FileError Document := do
  let document := Document.ofText (← readText path)
  Attempt.report (.documentLoaded path document.length)
  return document

/-- Writes a document to the file of a path. -/
def saveDocument (process : Nat) (path : SlashPath) (document : Document) :
    Attempt FileError Unit :=
  writeText process path document.toText

end Storage

end Excision
