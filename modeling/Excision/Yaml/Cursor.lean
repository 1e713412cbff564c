import Excision.Text.Basic

/-!
# A cursor in a YAML text

Indentation carries meaning in YAML, so a reader has to know in which column it stands. A
cursor is what is left of a text together with the position in it. The end of the text counts
as a line end wherever one is asked for.
-/

namespace Excision

namespace Yaml

/-- Whether `c` may stand in a YAML text at all. -/
def isAllowed (c : Char) : Bool :=
  let n := c.toNat
  n == 0x09 || n == 0x0A || n == 0x0D || (0x20 ≤ n && n ≤ 0x7E) || n == 0x85
    || (0xA0 ≤ n && n ≤ 0xD7FF) || (0xE000 ≤ n && n ≤ 0xFFFD) || 0x10000 ≤ n

/-- Whether `c` is a blank within a line. -/
def isSpace (c : Char) : Bool := c == ' ' || c == '\t'

/-- Whether `c` ends a line. -/
def isBreak (c : Char) : Bool :=
  c == '\r' || c == '\n' || c == '\x85' || c == '\u2028' || c == '\u2029'

/-- Whether a line ends here. -/
def endsLine (next : Option Char) : Bool := next.all isBreak

/-- Whether a word ends here: at a blank or where a line ends. -/
def endsWord (next : Option Char) : Bool := next.all fun c => isSpace c || isBreak c

/-- Whether `c` may stand in a name, as anchors have. -/
def isNameChar (c : Char) : Bool := c.isAlphanum || c == '_' || c == '-'

/-- A place in a text. -/
structure Cursor where
  /-- The text from here on. -/
  rest : Text
  /-- The number of characters before. -/
  index : Nat := 0
  /-- The number of lines before. -/
  line : Nat := 0
  /-- The number of characters before on the line. -/
  column : Nat := 0

namespace Cursor

/-- The character here. -/
def next? (cursor : Cursor) : Option Char := cursor.rest.head?

/-- The character after `count` others. -/
def ahead? (cursor : Cursor) (count : Nat) : Option Char := (cursor.rest.drop count).head?

/-- The cursor after `count` characters of the line. -/
def advance (cursor : Cursor) (count : Nat) : Cursor :=
  { cursor with
    rest := cursor.rest.drop count
    index := cursor.index + count
    column := cursor.column + count }

/-- The cursor with the same line read up to `rest`. -/
def advanceTo (cursor : Cursor) (rest : Text) : Cursor :=
  cursor.advance (cursor.rest.length - rest.length)

/-- The cursor after the characters of the line that fulfil `p`. -/
def skipWhile (cursor : Cursor) (p : Char → Bool) : Cursor :=
  cursor.advance (cursor.rest.takeWhile p).length

/-- The line terminator here, in the form in which a text keeps it, and the cursor after it.
All line terminators but the two separators of Unicode are kept as a line feed. -/
def lineBreak? (cursor : Cursor) : Option (Char × Cursor) :=
  let after (count : Nat) : Cursor :=
    ⟨cursor.rest.drop count, cursor.index + count, cursor.line + 1, 0⟩
  match cursor.rest with
  | '\r' :: '\n' :: _ => some ('\n', after 2)
  | c :: _ =>
    if c == '\u2028' || c == '\u2029' then some (c, after 1)
    else if isBreak c then some ('\n', after 1)
    else none
  | [] => none

/-- The cursor after the line terminator here, if there is one. -/
def skipBreak (cursor : Cursor) : Cursor :=
  match cursor.lineBreak? with
  | some (_, cursor) => cursor
  | none => cursor

/-- The cursor after a comment, which goes to the end of the line. -/
def skipComment (cursor : Cursor) : Cursor :=
  if cursor.next? = some '#' then cursor.skipWhile fun c => !isBreak c else cursor

/-- Whether a line begins here with three characters `mark` and then a blank or nothing. -/
def startsWithMark (cursor : Cursor) (mark : Char) : Bool :=
  cursor.column == 0 && cursor.rest.take 3 == [mark, mark, mark] && endsWord (cursor.ahead? 3)

/-- Whether a line that separates documents begins here. -/
def atDocumentMark (cursor : Cursor) : Bool :=
  cursor.startsWithMark '-' || cursor.startsWithMark '.'

end Cursor

end Yaml

end Excision
