import Excision.Line.Basic

/-!
# Documents

A document is the list of its lines, each with its terminator, so that a document that is
not edited is written back as it was read, whatever mixture of terminators it uses.
-/

namespace Excision

/-- A text as its lines. -/
structure Document where
  /-- The lines in order, each with its terminator. -/
  lines : List Line
deriving DecidableEq, Repr

namespace Document

/-- The document of a text. -/
def ofText (text : Text) : Document := ⟨Line.ofText text⟩

/-- The text of a document: its lines one after the other. -/
def toText (document : Document) : Text := document.lines.flatten

/-- The number of lines. -/
def length (document : Document) : Nat := document.lines.length

/-- Whether the document has no line. -/
def isEmpty (document : Document) : Bool := document.lines.isEmpty

/-- Reading a text as a document loses nothing. -/
@[simp] theorem toText_ofText (text : Text) :
  (ofText text).toText = text
  := Line.flatten_ofText text

end Document

end Excision
