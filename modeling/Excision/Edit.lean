import Excision.Job.Basic
import Excision.Removal

/-!
# Edits

The steps of an editing session on a document. `Document.edit` gives for each step the
document after it, which is the one before it if the step fails, with the value and the
events of the step.
-/

namespace Excision

/-- A step of an editing session. -/
inductive Edit where
  /-- Put the document of this text in the place of the present one. -/
  | load (text : Text)
  /-- Write the document to a text and read it again. -/
  | reload
  /-- Put a line in at this index, or at the end if the document is shorter. -/
  | insert (index : Nat) (line : Line)
  /-- Take the lines of a span out. -/
  | remove (span : Span)
  /-- Find the block of a job. -/
  | resolve (job : Job)
  /-- Find the block of a job and take it out. -/
  | cut (job : Job)
  /-- Show the text. -/
  | show
deriving DecidableEq, Repr

/-- The value of a step that succeeds. -/
inductive EditValue where
  /-- The number of lines after the step. -/
  | length (count : Nat)
  /-- The lines taken out. -/
  | removed (lines : List Line)
  /-- The span found. -/
  | span (span : Span)
  /-- The span found and the lines taken out. -/
  | cut (span : Span) (removed : List Line)
  /-- The text, and whether there is no line. -/
  | text (text : Text) (isEmpty : Bool)
deriving DecidableEq, Repr

/-- The span of the block of a job. -/
def Job.resolve (job : Job) (lines : List Line) : Logged (Except BlockError Span) :=
  job.resolver.andThen fun resolver => resolver.resolve lines

namespace Document

/-- The value and events of a step, and the document after it. -/
def edit (document : Document) : Edit → Logged (Except BlockError EditValue) × Document
  | .load text =>
    let loaded := ofText text
    (.quiet (.ok (.length loaded.length)), loaded)
  | .reload =>
    let reloaded := ofText document.toText
    (.quiet (.ok (.length reloaded.length)), reloaded)
  | .insert index line =>
    let lines := document.lines.take index ++ line :: document.lines.drop index
    (.quiet (.ok (.length lines.length)), ⟨lines⟩)
  | .remove span =>
    match span.cut document.lines with
    | .error e => (.quiet (.error e), document)
    | .ok cut => (.quiet (.ok (.removed cut.removed)), ⟨cut.rest⟩)
  | .resolve job => ((job.resolve document.lines).map (·.map .span), document)
  | .cut job =>
    let found := job.resolve document.lines
    match found.value with
    | .error e => (⟨.error e, found.events⟩, document)
    | .ok span =>
      match span.cut document.lines with
      | .error e => (⟨.error e, found.events⟩, document)
      | .ok cut => (⟨.ok (.cut span cut.removed), found.events⟩, ⟨cut.rest⟩)
  | .show => (.quiet (.ok (.text document.toText document.isEmpty)), document)

end Document

end Excision
