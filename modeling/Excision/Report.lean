import Excision.Disk.Basic
import Excision.Job.Basic
import Excision.Job.Format

/-!
# Reports and file errors

What a run of the program tells its log, and why reading or writing a document or a job file
fails.
-/

namespace Excision

/-- A report of a run. -/
inductive Report where
  /-- The log shows everything. -/
  | verboseEnabled
  /-- The job file has been read and is to be understood in this format. -/
  | jobFileRead (path : SlashPath) (format : JobFormat)
  /-- The settings in force. -/
  | effectiveJob (job : Job)
  /-- The document has been read. -/
  | documentLoaded (path : SlashPath) (lines : Nat)
  /-- The search for the block reports something. -/
  | block (event : BlockEvent)
  /-- The file at `target`, to which `path` leads, has been replaced. -/
  | fileWritten (path : SlashPath) (target : Text) (bytes : Nat)
  /-- The block is out of the document. -/
  | blockRemoved (path : SlashPath) (lines : Nat)
deriving DecidableEq, Repr

/-- Why a document or a job file cannot be read or written. -/
inductive FileError where
  /-- An operation on the disk failed at this path. -/
  | disk (path : Text) (cause : Cause)
  /-- The text of the job file is no job in its format. -/
  | notAJob (format : JobFormat) (path : SlashPath)
  /-- No format has this extension. -/
  | unsupportedFormat (extension : Text)
  /-- The lock of the temporary file for this path could not be taken or given back. -/
  | lockFailed (path : Text)
deriving DecidableEq, Repr

namespace FileError

/-- What the message for a job file that is no job ends with. -/
def notAJobReason : Text := "the text is not a job in this format".toList

/-- The message for an error. -/
def message : FileError → Text
  | disk path cause => "I/O error at ".toList ++ path ++ ": ".toList ++ cause.message
  | notAJob format path =>
    "Failed to parse ".toList ++ format.label ++ " config at ".toList ++ path.text
      ++ ": ".toList ++ notAJobReason
  | unsupportedFormat extension => "Unsupported config format: ".toList ++ extension
  | lockFailed path => "Lock acquisition failed for ".toList ++ path

end FileError

end Excision
