import Excision.Text.Basic

/-!
# Spans

A span marks a run of lines for removal. It names its first and its last line, and the line
of the boundary marker that it was found against. Lines are counted from zero.
-/

namespace Excision

/-- The lines `first` to `last`, both included. A span that was found in a document has
`first < last < boundary`. -/
structure Span where
  /-- The first line. -/
  first : Nat
  /-- The last line. -/
  last : Nat
  /-- The line of the boundary marker. -/
  boundary : Nat
deriving DecidableEq, Repr

namespace Span

/-- The number of lines of the span. Numbers are words of 64 bits, so that of a span whose
last line lies more than one line before its first wraps round, and so does that of a span
from zero to the largest word. -/
def lineCount (span : Span) : Nat :=
  (UInt64.size + (span.last + 1) - span.first) % UInt64.size

/-- The number of a line when lines are counted from one. The largest word wraps round. -/
def displayNumber (line : Nat) : Nat := (line + 1) % UInt64.size

/-- The number of the first line when lines are counted from one. -/
def displayFirst (span : Span) : Nat := displayNumber span.first

/-- The number of the last line when lines are counted from one. -/
def displayLast (span : Span) : Nat := displayNumber span.last

/-- The span as a range of lines counted from zero. -/
def display (span : Span) : Text :=
  Text.ofNat span.first ++ "..=".toList ++ Text.ofNat span.last

end Span

end Excision
