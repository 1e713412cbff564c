import Excision.Document
import Excision.Resolver.Basic

/-!
# Removal

Taking the lines of a span out of a document. `Span.cut` takes any span and fails if it is
not one of the document; `Resolver.removeBlock` finds the span of a block in a text and cuts
it out.
-/

namespace Excision

/-- The two parts into which a span divides the lines of a document. -/
structure Cut where
  /-- The lines of the span. -/
  removed : List Line
  /-- The lines before and after it. -/
  rest : List Line
deriving DecidableEq, Repr

/-- The lines of a span and the lines left without them. A span whose last line comes before
its first, or does not exist, is an error. -/
def Span.cut (span : Span) (lines : List Line) : Except BlockError Cut :=
  if span.first ≤ span.last ∧ span.last < lines.length then
    .ok {
      removed := (lines.take (span.last + 1)).drop span.first
      rest := lines.take span.first ++ lines.drop (span.last + 1) }
  else .error (.spanOutOfRange span lines.length)

/-- A text with a block taken out. -/
structure Removal where
  /-- The lines of the block. -/
  span : Span
  /-- The text without them. -/
  content : Text
  /-- The lines that were taken out, each with its terminator. -/
  removed : List Line
deriving DecidableEq, Repr

/-- The text without the block that the resolver finds in it. -/
def Resolver.removeBlock (resolver : Resolver) (text : Text) :
    Logged (Except BlockError Removal) :=
  let lines := Line.ofText text
  (resolver.resolve lines).andThen fun span =>
    .quiet ((span.cut lines).map fun cut => ⟨span, cut.rest.flatten, cut.removed⟩)

end Excision
