import Excision.Failure
import Excision.Job.File
import Excision.Terminal.Tone

/-!
# Commands

What the program can be asked to do: to remove a block from its document, or to tell what it
would do and write nothing, or to show the lines of the block. The block is selected by
settings on the command line, laid over those of a job file.
-/

namespace Excision

/-- Which block a command is about. -/
structure Selection where
  /-- The path of the job file. -/
  jobFile : Option Text := none
  /-- The settings that go before those of the job file. -/
  settings : Job := {}
deriving DecidableEq, Repr

/-- What the program is asked to do. -/
inductive Command where
  /-- To remove the block, or only to tell how much that would be. -/
  | remove (selection : Selection) (dryRun : Bool)
  /-- To show the lines of the block. -/
  | show (selection : Selection)
deriving DecidableEq, Repr

/-- The job with its document looked for in the directory of the file at `path`, unless the
document has an absolute path. -/
def Job.beside (job : Job) (path : Text) : Job :=
  match job.file, HostPath.parent? path with
  | some file, some directory =>
    if HostPath.isAbsolute file then job
    else { job with file := some (HostPath.join directory file) }
  | _, _ => job

namespace Selection

/-- The job of the job file. Without a job file every setting is left open. -/
def baseJob (selection : Selection) : Attempt Failure Job := do
  match selection.jobFile with
  | none => return {}
  | some path =>
    let job ← Attempt.onFiles (Storage.loadJob (SlashPath.ofText path))
    return job.beside path

/-- The path of the document, and the resolver for the block. -/
def prepare (selection : Selection) : Attempt Failure (SlashPath × Resolver) := do
  let job := (← selection.baseJob).overlay selection.settings
  Attempt.report (.effectiveJob job)
  match job.file with
  | none => throw .noDocument
  | some file =>
    let resolver ← Attempt.onBlock job.resolver
    return (SlashPath.ofText file, resolver)

end Selection

/-- The line without the line terminators at its end. -/
def Line.bare (line : Line) : Text :=
  (line.reverse.dropWhile fun c => c == '\n' || c == '\r').reverse

namespace Command

/-- Removes a block from its document, or tells how many lines that would be. -/
def removeBlock (process : Nat) (coloured : Bool) (selection : Selection) (dryRun : Bool) :
    Attempt Failure Unit := do
  let (path, resolver) ← selection.prepare
  let document ← Attempt.onFiles (Storage.loadDocument path)
  let span ← Storage.findBlock resolver document
  Attempt.printLine ("Removing lines ".toList ++ Text.ofNat span.first ++ " to ".toList
    ++ Text.ofNat span.last)
  if dryRun then
    Attempt.printLine (Tone.notice.paint coloured "[dry-run]".toList ++ ' ' ::
      Text.ofNat span.lineCount ++ " line(s) would be removed from ".toList ++ path.text)
  else
    let removed ← Storage.saveWithout process path document span
    Attempt.report (.blockRemoved path removed.length)
    Attempt.printLine "Successfully removed block".toList

/-- The line of the output above the lines of a span. -/
def showHeading (coloured : Bool) (path : SlashPath) (span : Span) : Text :=
  Tone.heading.paint coloured path.text ++ ": lines ".toList ++ Text.ofNat span.displayFirst
    ++ '-' :: Text.ofNat span.displayLast ++ " (".toList ++ Text.ofNat span.lineCount
    ++ " lines, boundary at line ".toList ++ Text.ofNat (Span.displayNumber span.boundary) ++ [')']

/-- The line of the output for a line of the document with its number, which is set to the
right of `width` columns. -/
def showLine (coloured : Bool) (width number : Nat) (line : Line) : Text :=
  let digits := Text.ofNat number
  let gutter := List.replicate (width - digits.length) ' ' ++ digits ++ [' ', '|']
  Tone.gutter.paint coloured gutter ++ ' ' :: line.bare

/-- Shows the lines of a block. -/
def showBlock (coloured : Bool) (selection : Selection) : Attempt Failure Unit := do
  let (path, resolver) ← selection.prepare
  let document ← Attempt.onFiles (Storage.loadDocument path)
  let span ← Storage.findBlock resolver document
  Attempt.printLine (showHeading coloured path span)
  let width := (Text.ofNat span.displayLast).length
  let numbers := List.range' span.displayFirst (span.displayLast + 1 - span.displayFirst)
  let lines := (document.lines.take (span.last + 1)).drop span.first
  (numbers.zip lines).forM fun (number, line) =>
    Attempt.printLine (showLine coloured width number line)

/-- Does what a command asks for. -/
def attempt (process : Nat) (coloured : Bool) : Command → Attempt Failure Unit
  | .remove selection dryRun => removeBlock process coloured selection dryRun
  | .show selection => showBlock coloured selection

/-- Does what a command asks for and prints why it fails if it does. The result is the exit
status. -/
def script (process : Nat) (coloured : Bool) (command : Command) : Script Nat := do
  match ← (command.attempt process coloured).run with
  | .ok () => return 0
  | .error failure =>
    Script.request (.print (Tone.failure.paint coloured "error".toList ++ [':', ' ']
      ++ failure.message ++ ['\n']))
    return 1

end Command

end Excision
