import Excision.Removal
import Excision.Storage

/-!
# Failures

Why a run of the program fails, and the two operations on stored documents that every
command is made of: finding the block of a resolver in a loaded document, and taking a span
out of it and writing it back.
-/

namespace Excision

/-- Why a run fails. -/
inductive Failure where
  /-- The block cannot be found or removed. -/
  | block (error : BlockError)
  /-- A file cannot be read or written. -/
  | file (error : FileError)
  /-- Neither the arguments nor the job file name a document. -/
  | noDocument
deriving DecidableEq, Repr

/-- The message for a failure. -/
def Failure.message : Failure → Text
  | block error => error.message
  | file error => error.message
  | noDocument => "no document given: pass FILE or set `file` in the job file".toList

namespace Attempt

/-- An attempt on files as part of a run. -/
def onFiles {α : Type} (attempt : Attempt FileError α) : Attempt Failure α :=
  ExceptT.mk do
    match ← attempt.run with
    | .ok value => pure (.ok value)
    | .error e => pure (.error (.file e))

/-- A search for a block as part of a run. -/
def onBlock {α : Type} (logged : Logged (Except BlockError α)) : Attempt Failure α :=
  ofLogged ⟨match logged.value with
    | .ok value => .ok value
    | .error e => .error (.block e), logged.events⟩

end Attempt

namespace Storage

/-- The span of the block that a resolver finds in a document. -/
def findBlock (resolver : Resolver) (document : Document) : Attempt Failure Span :=
  Attempt.onBlock (resolver.resolve document.lines)

/-- Takes a span out of a document and writes the rest to its file. The result is the list
of lines taken out. -/
def saveWithout (process : Nat) (path : SlashPath) (document : Document) (span : Span) :
    Attempt Failure (List Line) := do
  let cut ← Attempt.onBlock (.quiet (span.cut document.lines))
  Attempt.onFiles (saveDocument process path ⟨cut.rest⟩)
  return cut.removed

/-- Takes the block of a job out of the document in a file. The result is its span. -/
def cutBlock (process : Nat) (path : SlashPath) (job : Job) : Attempt Failure Span := do
  let document ← Attempt.onFiles (loadDocument path)
  let resolver ← Attempt.onBlock job.resolver
  let span ← findBlock resolver document
  let _ ← saveWithout process path document span
  return span

end Storage

end Excision
