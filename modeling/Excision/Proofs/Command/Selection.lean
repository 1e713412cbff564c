import Excision.Command.Basic
import Excision.Proofs.Job.Format
import Excision.Proofs.Removal.Block
import Excision.Proofs.Storage.Steps

/-!
# Finding the selected block

All commands begin alike: the settings are laid over one another, the document is loaded and
the block is found in it (`Selection.find`).  So far nothing is written and nothing printed
(`Selection.find_readOnly`), and what is found is the block of the prepared resolver in the
text of the prepared file (`Selection.find_eq_ok_iff`).  What the commands do from there on
is all in which they differ.
-/

namespace Excision

namespace Storage

theorem loadJobAs_readOnly (format : JobFormat) (path : SlashPath) :
  (loadJobAs format path).ReadOnly
  := by
  apply (readText_readOnly path).bind
  intro text
  apply (Attempt.ReadOnly.report _).bind
  intro _
  split
  · apply Attempt.ReadOnly.pure
  · apply Attempt.ReadOnly.throw

theorem loadJob_readOnly (path : SlashPath) :
  (loadJob path).ReadOnly
  := by
  cases hformat : JobFormat.ofExtension? (JobFormat.extensionOf path) with
  | none =>
    rw [loadJob_of_none hformat]
    apply Attempt.ReadOnly.throw
  | some format =>
    rw [loadJob_of_some hformat]
    apply loadJobAs_readOnly

end Storage

/-! ### The beginning of every command -/

namespace Selection

theorem baseJob_readOnly (selection : Selection) :
  selection.baseJob.ReadOnly
  := by
  unfold baseJob
  split
  · apply Attempt.ReadOnly.pure
  · apply (Storage.loadJob_readOnly _).onFiles.bind
    intro job
    apply Attempt.ReadOnly.pure

theorem prepare_readOnly (selection : Selection) :
  selection.prepare.ReadOnly
  := by
  unfold prepare
  apply selection.baseJob_readOnly.bind
  intro job
  apply (Attempt.ReadOnly.report _).bind
  intro _
  split
  · apply Attempt.ReadOnly.throw
  · apply (Attempt.ReadOnly.onBlock _).bind
    intro resolver
    apply Attempt.ReadOnly.pure

/-- The path of the document, the document and the span of the selected block in it. -/
def find (selection : Selection) : Attempt Failure (SlashPath × Document × Span) := do
  let (path, resolver) ← selection.prepare
  let document ← Attempt.onFiles (Storage.loadDocument path)
  let span ← Storage.findBlock resolver document
  return (path, document, span)

theorem find_readOnly (selection : Selection) :
  selection.find.ReadOnly
  := by
  unfold find
  apply selection.prepare_readOnly.bind
  rintro ⟨path, resolver⟩
  apply (Storage.loadDocument_readOnly path).onFiles.bind
  intro document
  apply (Attempt.ReadOnly.onBlock _).bind
  intro span
  apply Attempt.ReadOnly.pure

/-- The block of a selection stands in a text under a path. -/
structure Finds (selection : Selection) (session : Session) (path : SlashPath)
    (resolver : Resolver) (text : Text) (span : Span) : Prop where
  /-- The settings name the path of the document and make a resolver. -/
  prepared : (selection.prepare.exec session).1 = .ok (path, resolver)
  /-- The document has this text. -/
  loaded : session.disk.readBytes path.text = .ok text.toBytes
  /-- The resolver finds the span of the block in its lines. -/
  resolved : (resolver.resolve (Line.ofText text)).value = .ok span

theorem find_eq_ok_iff {selection : Selection} {session : Session} {path : SlashPath}
    {document : Document} {span : Span} :
  (selection.find.exec session).1 = .ok (path, document, span)
    ↔ ∃ resolver text, selection.Finds session path resolver text span
      ∧ document = Document.ofText text
  := by
  have hprepare := selection.prepare_readOnly.disk_eq session
  simp only [find, Storage.findBlock, Attempt.exec_bind_eq_ok_iff, Attempt.exec_onFiles,
    Attempt.exec_onBlock, Attempt.exec_pure, Attempt.mapError_eq_ok_iff,
    Storage.loadDocument_eq_ok_iff, hprepare, Except.ok.injEq, Prod.mk.injEq]
  constructor
  · rintro ⟨⟨path, resolver⟩, hprepared, _, ⟨text, hloaded, rfl⟩, span, hspan, rfl, rfl, rfl⟩
    exact ⟨resolver, text, ⟨hprepared, hloaded, hspan⟩, rfl⟩
  · rintro ⟨resolver, text, ⟨hprepared, hloaded, hspan⟩, rfl⟩
    exact ⟨⟨path, resolver⟩, hprepared, _, ⟨text, hloaded, rfl⟩, span, hspan, rfl, rfl, rfl⟩

/-- What a command does after it has found its block. -/
theorem exec_find_bind {α : Type} (selection : Selection) (session : Session)
    (rest : SlashPath → Document → Span → Attempt Failure α) :
  (do
    let (path, resolver) ← selection.prepare
    let document ← Attempt.onFiles (Storage.loadDocument path)
    let span ← Storage.findBlock resolver document
    rest path document span : Attempt Failure α).exec session
    = match selection.find.exec session with
      | (.ok (path, document, span), after) => (rest path document span).exec after
      | (.error failure, after) => (.error failure, after)
  := by
  unfold find
  simp only [Attempt.exec_bind, Attempt.exec_pure]
  rcases selection.prepare.exec session with ⟨⟨failure⟩ | ⟨path, resolver⟩, prepared⟩
  · rfl
  dsimp only
  rcases (Attempt.onFiles (Storage.loadDocument path)).exec prepared with
    ⟨⟨failure⟩ | ⟨document⟩, loaded⟩
  · rfl
  dsimp only
  rcases (Storage.findBlock resolver document).exec loaded with ⟨⟨failure⟩ | ⟨span⟩, found⟩
  · rfl
  · rfl

end Selection

/-! ### The end of every command -/

namespace Command

/-- The line that tells why a command fails. -/
def failureLine (coloured : Bool) (failure : Failure) : Text :=
  Tone.failure.paint coloured "error".toList ++ [':', ' '] ++ failure.message ++ ['\n']

/-- The exit status is zero for a command that succeeds.  One that fails has status one, and
says why at the end of its output. -/
theorem run_script (process : Nat) (coloured : Bool) (command : Command) (session : Session) :
  (command.script process coloured).run session
    = match (command.attempt process coloured).exec session with
      | (.ok (), after) => (0, after)
      | (.error failure, after) =>
        (1, { after with printed := after.printed ++ failureLine coloured failure })
  := by
  unfold script Attempt.exec
  change (Script.bind (command.attempt process coloured).run _).run session = _
  rw [Script.run_bind]
  rcases (command.attempt process coloured).run.run session with ⟨⟨failure⟩ | ⟨⟩, after⟩
  · rfl
  · rfl

end Command

end Excision
