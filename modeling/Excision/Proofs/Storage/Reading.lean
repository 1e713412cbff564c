import Excision.Proofs.Script.Attempt

/-!
# Reading

Reading a file, and a document from it, leaves the disk alone (`loadDocument_readOnly`).  What is
read is the text whose UTF-8 form the file holds (`readText_eq_ok_iff`), and a document is the
one of that text (`loadDocument_eq_ok_iff`).
-/

namespace Excision

namespace Storage

/-- What reading the text of a file answers. -/
theorem exec_readText (path : SlashPath) (session : Session) :
  (readText path).exec session
    = (match session.disk.readBytes path.text with
        | .error cause => .error (.disk path.text cause)
        | .ok bytes =>
          match Text.ofBytes? bytes with
          | some text => .ok text
          | none => .error (.disk path.text .notText), session)
  := by
  unfold readText
  rw [Attempt.exec_bind, Attempt.exec_expect, Script.run_request]
  dsimp only [Session.answer]
  cases session.disk.readBytes path.text with
  | error cause => rfl
  | ok bytes =>
    rw [Attempt.mapError_ok]
    dsimp only
    cases Text.ofBytes? bytes with
    | none => rfl
    | some text => rfl

theorem readText_readOnly (path : SlashPath) :
  (readText path).ReadOnly
  := by
  intro session
  rw [exec_readText]
  exact ⟨session.reports, rfl⟩

theorem loadDocument_readOnly (path : SlashPath) :
  (loadDocument path).ReadOnly
  := (readText_readOnly path).bind fun _ => (Attempt.ReadOnly.report _).bind fun _ => .pure _

/-- A file can be read as a text exactly if it holds the UTF-8 form of the text. -/
theorem readText_eq_ok_iff {path : SlashPath} {session : Session} {text : Text} :
  ((readText path).exec session).1 = .ok text
    ↔ session.disk.readBytes path.text = .ok text.toBytes
  := by
  rw [exec_readText]
  cases session.disk.readBytes path.text with
  | error cause => simp
  | ok bytes =>
    dsimp only
    cases htext : Text.ofBytes? bytes with
    | none =>
      simp only [reduceCtorEq, Except.ok.injEq, false_iff]
      rintro rfl
      simp at htext
    | some other =>
      have hbytes := Text.toBytes_of_ofBytes? htext
      simp only [Except.ok.injEq]
      constructor
      · rintro rfl
        exact hbytes.symm
      · rintro rfl
        rw [Text.ofBytes?_toBytes, Option.some.injEq] at htext
        exact htext.symm

theorem loadDocument_eq_ok_iff {path : SlashPath} {session : Session} {document : Document} :
  ((loadDocument path).exec session).1 = .ok document
    ↔ ∃ text : Text, session.disk.readBytes path.text = .ok text.toBytes
      ∧ document = Document.ofText text
  := by
  unfold loadDocument
  simp only [Attempt.exec_bind_eq_ok_iff, readText_eq_ok_iff, Attempt.exec_report,
    Attempt.exec_pure, Except.ok.injEq, true_and, exists_const]
  simp only [eq_comm]

end Storage

end Excision
