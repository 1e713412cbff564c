import Excision.Text.Digits
import Excision.Yaml.Cursor

/-!
# YAML scalars

Reading the four ways in which YAML writes a text: plain, between single or double quotes,
and as a block of lines that is kept or folded. Where a text goes over several lines, a
`Gap` holds the blanks and line terminators between two words, and says what becomes of
them: one line end is a space, and of more than one the first is left out.
-/

namespace Excision

namespace Yaml

/-- How a scalar is written. -/
inductive Style where
  | plain
  | singleQuoted
  | doubleQuoted
  | literal
  | folded
deriving DecidableEq, Repr

/-! ### Gaps between words -/

/-- Blanks and line terminators between two words. -/
structure Gap where
  /-- The blanks before the first line end. -/
  blanks : Text := []
  /-- The first line terminator. -/
  first : Text := []
  /-- The other line terminators. -/
  more : Text := []
  /-- Whether there is a line end. -/
  broken : Bool := false

/-- What a gap contributes to the text. -/
def Gap.text (gap : Gap) : Text :=
  if gap.broken then
    if gap.first = ['\n'] then if gap.more = [] then [' '] else gap.more
    else gap.first ++ gap.more
  else gap.blanks

/-- Reads a gap of at most `length` characters. A tab that stands before column `indent` on
a line of its own is refused. -/
def gap? (indent : Nat) : (length : Nat) → Gap → Cursor → Option (Gap × Cursor)
  | 0, _, _ => none
  | length + 1, gap, cursor =>
    match cursor.next? with
    | none => some (gap, cursor)
    | some c =>
      if isSpace c then
        if gap.broken then
          if c == '\t' && cursor.column < indent then none
          else gap? indent length gap (cursor.advance 1)
        else gap? indent length { gap with blanks := gap.blanks ++ [c] } (cursor.advance 1)
      else
        match cursor.lineBreak? with
        | none => some (gap, cursor)
        | some (terminator, cursor) =>
          if gap.broken then gap? indent length { gap with more := gap.more ++ [terminator] } cursor
          else gap? indent length { gap with first := [terminator], broken := true } cursor

/-! ### Quoted texts -/

/-- The characters that an escape of one letter stands for. -/
def escaped? : Char → Option Char
  | '0' => some '\x00'
  | 'a' => some '\x07'
  | 'b' => some '\x08'
  | 't' | '\t' => some '\t'
  | 'n' => some '\n'
  | 'v' => some '\x0b'
  | 'f' => some '\x0c'
  | 'r' => some '\r'
  | 'e' => some '\x1b'
  | ' ' => some ' '
  | '"' => some '"'
  | '/' => some '/'
  | '\\' => some '\\'
  | 'N' => some '\x85'
  | '_' => some '\xa0'
  | 'L' => some '\u2028'
  | 'P' => some '\u2029'
  | _ => none

/-- How many digits follow the letter of an escape of a code point. -/
def escapeDigits? : Char → Option Nat
  | 'x' => some 2
  | 'u' => some 4
  | 'U' => some 8
  | _ => none

/-- The character that an escape stands for, and what follows it. The backslash has been
read. -/
def escape? : Text → Option (Char × Text)
  | [] => none
  | c :: rest =>
    match escapeDigits? c with
    | some count =>
      if rest.length < count then none
      else (hexCharacter? (rest.take count)).map fun c => (c, rest.drop count)
    | none => (escaped? c).map fun c => (c, rest)

/-- The characters between double quotes up to a blank, a line end, the closing quote or a
backslash at the end of a line. -/
def doubleQuotedRun? : (length : Nat) → Text → Option (Text × Text)
  | 0, _ => none
  | length + 1, text =>
    match text with
    | [] => some ([], [])
    | '\\' :: rest =>
      if rest.head?.any isBreak then some ([], text)
      else do
        let (c, rest) ← escape? rest
        let (run, rest) ← doubleQuotedRun? length rest
        return (c :: run, rest)
    | c :: rest =>
      if c == '"' || isSpace c || isBreak c then some ([], text)
      else do
        let (run, rest) ← doubleQuotedRun? length rest
        return (c :: run, rest)

/-- The characters between single quotes up to a blank, a line end or the closing quote. Two
quotes stand for one. -/
def singleQuotedRun : Text → Text × Text
  | [] => ([], [])
  | '\'' :: '\'' :: rest =>
    let (run, rest) := singleQuotedRun rest
    ('\'' :: run, rest)
  | c :: rest =>
    if c == '\'' || isSpace c || isBreak c then ([], c :: rest)
    else
      let (run, rest) := singleQuotedRun rest
      (c :: run, rest)

/-- The text up to the closing quote, and the cursor after that. -/
def quoted? (double : Bool) : (length : Nat) → Cursor → Option (Text × Cursor)
  | 0, _ => none
  | length + 1, cursor =>
    if cursor.atDocumentMark || cursor.rest.isEmpty then none
    else do
      let (run, rest) ←
        if double then doubleQuotedRun? (cursor.rest.length + 1) cursor.rest
        else some (singleQuotedRun cursor.rest)
      let cursor := cursor.advanceTo rest
      if cursor.next? = some (if double then '"' else '\'') then return (run, cursor.advance 1)
      let (opened, cursor) :=
        if cursor.next? = some '\\' then (({ broken := true } : Gap), (cursor.advance 1).skipBreak)
        else ({}, cursor)
      let (gap, cursor) ← gap? 0 (cursor.rest.length + 1) opened cursor
      let (text, cursor) ← quoted? double length cursor
      return (run ++ gap.text ++ text, cursor)

/-! ### Plain texts -/

/-- Whether `c` has a meaning of its own between braces. -/
def isFlowMark (c : Char) : Bool :=
  c == ',' || c == '[' || c == ']' || c == '\x7b' || c == '\x7d'

/-- The characters of a plain text up to a blank, a line end, a colon that ends a word, or,
between braces, a mark. Between braces a colon must not stand before a mark. -/
def plainRun? (flow : Bool) : Text → Option (Text × Text)
  | [] => some ([], [])
  | c :: rest =>
    if isSpace c || isBreak c then some ([], c :: rest)
    else if flow && c == ':' && rest.head?.any (fun d => isFlowMark d || d == '?') then none
    else if c == ':' && endsWord rest.head? || flow && isFlowMark c then some ([], c :: rest)
    else (plainRun? flow rest).map fun (run, rest) => (c :: run, rest)

/-- A plain text, whether the cursor has gone over a line end after it, and the cursor where
it is then. Lines that go on with it are indented to column `indent` at least, except
between braces. -/
def plain? (flow : Bool) (indent : Nat) :
    (length : Nat) → (gap : Gap) → Cursor → Option (Text × Bool × Cursor)
  | 0, _, _ => none
  | length + 1, gap, cursor =>
    if cursor.atDocumentMark || cursor.next? = some '#' then some ([], gap.broken, cursor)
    else do
      let (run, rest) ← plainRun? flow cursor.rest
      if run = [] then return ([], gap.broken, cursor)
      let cursor := cursor.advanceTo rest
      let text := gap.text ++ run
      if !(cursor.next?.any fun c => isSpace c || isBreak c) then return (text, false, cursor)
      let (next, cursor) ← gap? indent (cursor.rest.length + 1) {} cursor
      if !flow && cursor.column < indent then return (text, next.broken, cursor)
      let (more, broken, cursor) ← plain? flow indent length next cursor
      return (text ++ more, broken, cursor)

/-! ### Blocks of lines -/

/-- What becomes of the line ends after the last line of a block. -/
inductive Chomping where
  /-- The first one is kept. -/
  | clip
  /-- None is kept. -/
  | strip
  /-- All are kept. -/
  | keep
deriving DecidableEq, Repr

/-- The line ends before the next line of a block that is not empty, the column at which that
begins, and the cursor there. Spaces before column `indent` are passed over; where the
indent is not known yet, all spaces are. A tab there is refused. -/
def blockBreaks? (indent : Option Nat) :
    (count widest : Nat) → Cursor → Option (Text × Nat × Cursor)
  | 0, _, _ => none
  | count + 1, widest, cursor =>
    let spaces := (cursor.rest.takeWhile (· == ' ')).length
    let cursor := cursor.advance ((indent.map (min spaces <| · - cursor.column)).getD spaces)
    let widest := max widest cursor.column
    if cursor.next? = some '\t' && indent.all (cursor.column < ·) then none
    else
      match cursor.lineBreak? with
      | none => some ([], widest, cursor)
      | some (terminator, cursor) => do
        let (terminators, widest, cursor) ← blockBreaks? indent count widest cursor
        return (terminator :: terminators, widest, cursor)

/-- The lines of a block whose lines are indented to column `indent`. `before` is the
terminator of the line before, `empty` are those of the empty lines after that, and
`blankBefore` says whether the line before begins with a blank. -/
def blockLines? (folded : Bool) (chomping : Chomping) (indent : Nat) :
    (count : Nat) → (before empty : Text) → (blankBefore : Bool) → Cursor →
      Option (Text × Cursor)
  | 0, _, _, _, _ => none
  | count + 1, before, empty, blankBefore, cursor =>
    if cursor.column = indent && !cursor.rest.isEmpty then do
      let blank := cursor.next?.any isSpace
      let joint :=
        if folded && before = ['\n'] && !blankBefore && !blank then
          if empty = [] then [' '] else []
        else before
      let line := cursor.rest.takeWhile fun c => !isBreak c
      let ended := cursor.advance line.length
      let (terminator, ended) := match ended.lineBreak? with
        | some (terminator, ended) => ([terminator], ended)
        | none => ([], ended)
      let (nextEmpty, _, ended) ← blockBreaks? (some indent) (ended.rest.length + 1) 0 ended
      let (text, last) ←
        blockLines? folded chomping indent count terminator nextEmpty blank ended
      return (joint ++ empty ++ line ++ text, last)
    else
      match chomping with
      | .strip => some ([], cursor)
      | .clip => some (before, cursor)
      | .keep => some (before ++ empty, cursor)

/-- The chomping and the depth that the first line of a block may ask for, in either order.
The depth is a digit above zero. -/
def blockHeader? (cursor : Cursor) : Option (Chomping × Option Nat × Cursor) := do
  let (before, cursor) := chomping? cursor
  let (depth, cursor) ← depth? cursor
  let (after, cursor) := if before.isNone && depth.isSome then chomping? cursor else (none, cursor)
  return ((before <|> after).getD .clip, depth, cursor)
where
  /-- The sign for the chomping, if there is one. -/
  chomping? (cursor : Cursor) : Option Chomping × Cursor :=
    match cursor.next? with
    | some '+' => (some .keep, cursor.advance 1)
    | some '-' => (some .strip, cursor.advance 1)
    | _ => (none, cursor)
  /-- The digit for the depth, if there is one. -/
  depth? (cursor : Cursor) : Option (Option Nat × Cursor) :=
    match cursor.next? with
    | some c =>
      if c.isDigit then
        if c = '0' then none else some (digit? 10 c, cursor.advance 1)
      else some (none, cursor)
    | none => some (none, cursor)

/-- The text of a block in a construct that is indented by `outer` columns, and the cursor
after it. The sign of the block has been read. -/
def block? (folded : Bool) (outer : Option Nat) (cursor : Cursor) : Option (Text × Cursor) := do
  let (chomping, depth, cursor) ← blockHeader? cursor
  let cursor := (cursor.skipWhile isSpace).skipComment
  if !endsLine cursor.next? then none
  else
    let cursor := cursor.skipBreak
    let given := depth.map (outer.getD 0 + ·)
    let (empty, widest, cursor) ← blockBreaks? given (cursor.rest.length + 1) 0 cursor
    let least := match outer with
      | some column => column + 1
      | none => 1
    let indent := given.getD (max widest least)
    blockLines? folded chomping indent (cursor.rest.length + 1) [] empty false cursor

end Yaml

end Excision
