import Excision.Error
import Excision.Line.Basic

/-!
# Indents

The exact white space that the closing line of a block begins with: one or more spaces and
tabs.
-/

namespace Excision

/-- A text of spaces and tabs that is not empty. -/
structure Indent where
  /-- The spaces and tabs. -/
  text : Text
  /-- There is at least one. -/
  ne_nil : text ≠ []
  /-- There is nothing else. -/
  blank : text.all Line.isIndentChar = true
deriving DecidableEq

namespace Indent

/-- The indent of this text. The error says whether the text is empty or holds something
else than spaces and tabs. -/
def ofText (text : Text) : Except BlockError Indent :=
  if ne_nil : text = [] then .error (.invalidIndent text .empty)
  else if blank : text.all Line.isIndentChar = true then .ok ⟨text, ne_nil, blank⟩
  else .error (.invalidIndent text .notBlank)

/-- The indent of `width` spaces. -/
def ofWidth (width : Nat) : Except BlockError Indent := ofText (List.replicate width ' ')

end Indent

end Excision
