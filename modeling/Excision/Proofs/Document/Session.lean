import Excision.Edit
import Excision.Proofs.Line.Canonical
import Excision.Proofs.Removal.Cut

/-!
# Editing sessions

A document is canonical if its lines are, and these are the documents that reading their text
gives back (`reload_eq_iff`).  A step of an editing session that puts no line in leaves a
canonical document canonical (`Canonical.edit`), so that all steps of a session together do,
and a step that fails leaves every document as it is (`edit_of_error`).
-/

namespace Excision

/-- The step puts a line in that need not fit between its neighbours. -/
def Edit.Inserts : Edit → Prop
  | .insert _ _ => True
  | _ => False

namespace Document

/-- The lines of the document are canonical. -/
def Canonical (document : Document) : Prop := Line.Canonical document.lines

/-- The document after all steps of a session. -/
def after (document : Document) (edits : List Edit) : Document :=
  edits.foldl (fun document edit => (document.edit edit).2) document

theorem canonical_of_ofText (text : Text) :
  (ofText text).Canonical
  := Line.canonical_ofText text

/-- A document comes back from its text exactly if it is canonical. -/
theorem reload_eq_iff {document : Document} :
  ofText document.toText = document ↔ document.Canonical
  := by
  constructor
  · intro h
    rw [← h]
    apply canonical_of_ofText
  · intro h
    rw [ofText, toText, Line.ofText_flatten h]

/-! ### One step -/

/-- A step leaves the document as it is, or it succeeds and puts the document of a text in its
place, takes the lines of a span out, or puts a line in. -/
theorem edit_cases (document : Document) (edit : Edit) :
  (document.edit edit).2 = document
  ∨ (∃ value, (document.edit edit).1.value = .ok value)
    ∧ ((∃ text, (document.edit edit).2 = ofText text)
      ∨ (∃ span cut, Span.cut span document.lines = .ok cut
          ∧ (document.edit edit).2 = ⟨cut.rest⟩)
      ∨ edit.Inserts)
  := by
  cases edit with
  | load text => exact .inr ⟨⟨_, rfl⟩, .inl ⟨text, rfl⟩⟩
  | reload => exact .inr ⟨⟨_, rfl⟩, .inl ⟨document.toText, rfl⟩⟩
  | insert index line => exact .inr ⟨⟨_, rfl⟩, .inr (.inr trivial)⟩
  | remove span =>
    cases hcut : span.cut document.lines with
    | error error =>
      left
      simp only [edit, hcut]
    | ok cut =>
      right
      simp only [edit, hcut]
      exact ⟨⟨_, rfl⟩, .inr (.inl ⟨span, cut, hcut, rfl⟩)⟩
  | resolve job => exact .inl rfl
  | cut job =>
    cases hfound : (job.resolve document.lines).value with
    | error error =>
      left
      simp only [edit, hfound]
    | ok span =>
      cases hcut : span.cut document.lines with
      | error error =>
        left
        simp only [edit, hfound, hcut]
      | ok cut =>
        right
        simp only [edit, hfound, hcut]
        exact ⟨⟨_, rfl⟩, .inr (.inl ⟨span, cut, hcut, rfl⟩)⟩
  | «show» => exact .inl rfl

/-- A step that puts no line in leaves a canonical document canonical. -/
theorem Canonical.edit {document : Document} (h : document.Canonical) {edit : Edit}
    (hedit : ¬ edit.Inserts) :
  (document.edit edit).2.Canonical
  := by
  obtain hsame | ⟨-, ⟨text, hnew⟩ | ⟨span, cut, hcut, hrest⟩ | hinserts⟩ :=
    document.edit_cases edit
  · rwa [hsame]
  · rw [hnew]
    apply canonical_of_ofText
  · rw [hrest]
    apply Line.Canonical.sublist h (Span.rest_sublist hcut)
  · exact absurd hinserts hedit

/-- A step that fails leaves the document as it is. -/
theorem edit_of_error {document : Document} {edit : Edit} {error : BlockError}
    (h : (document.edit edit).1.value = .error error) :
  (document.edit edit).2 = document
  := by
  obtain hsame | ⟨⟨value, hvalue⟩, -⟩ := document.edit_cases edit
  · exact hsame
  · rw [hvalue] at h
    contradiction

/-! ### All steps -/

theorem after_append (document : Document) (edits : List Edit) (edit : Edit) :
  document.after (edits ++ [edit]) = ((document.after edits).edit edit).2
  := by
  rw [after, List.foldl_append]
  rfl

/-- Steps that put no line in leave a canonical document canonical. -/
theorem Canonical.after {document : Document} (h : document.Canonical) {edits : List Edit}
    (hedits : ∀ edit ∈ edits, ¬ edit.Inserts) :
  (document.after edits).Canonical
  := by
  induction edits generalizing document with
  | nil => exact h
  | cons edit edits ih =>
    rw [List.forall_mem_cons] at hedits
    apply ih (h.edit hedits.1) hedits.2

/-- Documents lose nothing.  The document of a text is canonical and has that text, and a
document is that of its text exactly if it is canonical.  All steps that put no line in,
however many, leave a canonical document canonical, so that reading its text again does not
change it.  A step that fails after them leaves it as it is. -/
theorem document_lossless :
  (∀ text, (ofText text).Canonical ∧ (ofText text).toText = text)
  ∧ (∀ document, ofText document.toText = document ↔ document.Canonical)
  ∧ ∀ (document : Document) (edits : List Edit), document.Canonical →
      (∀ edit ∈ edits, ¬ edit.Inserts) →
      (document.after edits).Canonical
      ∧ document.after (edits ++ [.reload]) = document.after edits
      ∧ ∀ edit error, ((document.after edits).edit edit).1.value = .error error →
          document.after (edits ++ [edit]) = document.after edits
  := by
  refine ⟨?_, ?_, ?_⟩
  · intro text
    exact ⟨canonical_of_ofText text, toText_ofText text⟩
  · intro document
    apply reload_eq_iff
  · intro document edits hcanonical hedits
    have hafter := hcanonical.after hedits
    refine ⟨hafter, ?_, ?_⟩
    · rw [after_append]
      apply reload_eq_iff.mpr hafter
    · intro edit error herror
      rw [after_append]
      apply edit_of_error herror

/-- A document with a carriage return in a line and one before a line feed, after a removal
that succeeds and a cut that lacks its settings: it is read again as it is, and a removal
behind its end leaves it so. -/
theorem document_lossless_sample :
  let document := ofText ['a', '\n', 'b', '\r', '\n', '\n', 'c', '\r', 'd']
  let edits : List Edit := [.remove ⟨0, 0, 0⟩, .cut {}]
  (document.after edits).lines = [['b', '\r', '\n'], ['\n'], ['c', '\r', 'd']]
    ∧ document.after (edits ++ [.reload]) = document.after edits
    ∧ document.after (edits ++ [.remove ⟨1, 3, 0⟩]) = document.after edits
  := by
  intro document edits
  have hedits : ∀ edit ∈ edits, ¬ edit.Inserts := by simp [edits, Edit.Inserts]
  obtain ⟨htext, -, hsession⟩ := document_lossless
  obtain ⟨-, hreload, hfails⟩ := hsession document edits (htext _).1 hedits
  refine ⟨rfl, hreload, ?_⟩
  apply hfails _ (.spanOutOfRange ⟨1, 3, 0⟩ 3) rfl

end Document

end Excision
