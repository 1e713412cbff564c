import Excision.Text.Blank

/-!
# Lines

A line carries its own terminator: a line feed, perhaps with a carriage return before it.
The last line of a text may have none. `Line.content` is the line without its terminator,
`Line.indentation` is the run of spaces and tabs that it begins with, and `Line.ofText`
cuts a text into its lines; putting the lines together again gives the text.
-/

namespace Excision

/-- A line, with its terminator if it has one. -/
abbrev Line := Text

namespace Line

/-- The line without the line feed at its end and the carriage return before that. A
carriage return alone is no terminator. -/
def content (line : Line) : Text :=
  match line.reverse with
  | '\n' :: '\r' :: rest => rest.reverse
  | '\n' :: rest => rest.reverse
  | _ => line

/-- Whether `c` may stand in an indentation. -/
def isIndentChar (c : Char) : Bool := c == ' ' || c == '\t'

/-- The spaces and tabs that the line begins with. -/
def indentation (line : Line) : Text := line.takeWhile isIndentChar

/-- The lines of a text. A line ends after each line feed; what follows the last line feed
is a line of its own unless it is empty. -/
def ofText : Text → List Line
  | [] => []
  | c :: rest =>
    if c = '\n' then [c] :: ofText rest
    else
      match ofText rest with
      | [] => [[c]]
      | line :: lines => (c :: line) :: lines

/-- Joining the lines of a text gives the text. -/
@[simp] theorem flatten_ofText (text : Text) :
  (ofText text).flatten = text
  := by
  induction text with
  | nil => rfl
  | cons c rest ih =>
    unfold ofText
    split
    · simp [ih]
    · split
      · next h => simp_all
      · next line lines h => simp_all

end Line

end Excision
