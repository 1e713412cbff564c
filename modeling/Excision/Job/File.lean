import Excision.Json.Job
import Excision.Storage
import Excision.Toml.Job
import Excision.Yaml.Job

/-!
# Job files

Loading a job from a file. The extension of the path decides the format, before the file is
looked at.
-/

namespace Excision

/-- The job that a text writes in a format. -/
def JobFormat.jobOfText? : JobFormat → Text → Option Job
  | toml => Toml.jobOfText?
  | json => Json.jobOfText?
  | yaml => Yaml.jobOfText?

namespace Storage

/-- The job in the file of a path. -/
def loadJob (path : SlashPath) : Attempt FileError Job := do
  let extension := JobFormat.extensionOf path
  match JobFormat.ofExtension? extension with
  | none => throw (.unsupportedFormat extension)
  | some format =>
    let text ← readText path
    Attempt.report (.jobFileRead path format)
    match format.jobOfText? text with
    | some job => return job
    | none => throw (.notAJob format path)

end Storage

end Excision
