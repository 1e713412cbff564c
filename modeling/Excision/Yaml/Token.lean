import Excision.Yaml.Scalar

/-!
# YAML tokens

Cutting a YAML text into tokens. The reader follows mappings of scalars, in both ways of
writing them; a job holds no sequence, so a text with the mark of one is not read any
further, and neither is one with braces inside braces.

That a scalar is a key shows only at the colon after it, when its tokens are there already.
So the scanner remembers where a key may have begun, as a `KeyMark`, and puts the token for
a key, and that for the beginning of a mapping, in front of those tokens. Such a key ends on
the line on which it begins, within `maxKeyLength` characters.
-/

namespace Excision

namespace Yaml

/-- A token. -/
inductive Token where
  /-- The version of YAML in which a document is written. -/
  | version (major minor : Nat)
  /-- The beginning that tags with this handle stand for. -/
  | tagHandle (handle meaning : Text)
  /-- The line of three hyphens before a document. -/
  | documentStart
  /-- The line of three points after a document. -/
  | documentEnd
  /-- The beginning of a mapping that is marked by its indentation. -/
  | blockStart
  /-- The end of such a mapping. -/
  | blockEnd
  /-- The opening brace. -/
  | flowStart
  /-- The closing brace. -/
  | flowEnd
  /-- The comma. -/
  | flowEntry
  /-- What follows is a key. -/
  | key
  /-- What follows is a value. -/
  | value
  | alias (name : Text)
  | anchor (name : Text)
  | tag (handle suffix : Text)
  | scalar (style : Style) (text : Text)
deriving DecidableEq, Repr

/-- How far a colon may be from the beginning of the key before it. -/
def maxKeyLength : Nat := 1024

/-- A place where a key may begin. -/
structure KeyMark where
  /-- How many tokens come before. -/
  tokens : Nat
  /-- Where it is. -/
  index : Nat
  line : Nat
  column : Nat
  /-- Whether nothing but a key can stand there. -/
  required : Bool

/-- The state of the scanner. -/
structure Scanner where
  /-- What is left of the text. -/
  cursor : Cursor
  /-- The tokens so far. -/
  tokens : Array Token := #[]
  /-- The column of the mapping that is marked by its indentation. -/
  indent : Option Nat := none
  /-- Whether the scanner is between braces. -/
  flow : Bool := false
  /-- Whether a key may begin here. -/
  keyAllowed : Bool := true
  /-- Where a key may have begun outside the braces. -/
  blockKey : Option KeyMark := none
  /-- Where a key may have begun between the braces. -/
  flowKey : Option KeyMark := none

namespace Scanner

/-- Where a key may have begun on the present level. -/
def keyMark (scanner : Scanner) : Option KeyMark :=
  if scanner.flow then scanner.flowKey else scanner.blockKey

/-- The scanner with this place for a key on the present level. -/
def setKeyMark (scanner : Scanner) (mark : Option KeyMark) : Scanner :=
  if scanner.flow then { scanner with flowKey := mark } else { scanner with blockKey := mark }

/-- Gives the place for a key up, unless there must be one. -/
def dropKey? (scanner : Scanner) : Option Scanner :=
  if scanner.keyMark.any KeyMark.required then none else some (scanner.setKeyMark none)

/-- Remembers that a key may begin here. -/
def markKey? (scanner : Scanner) : Option Scanner :=
  if !scanner.keyAllowed then some scanner
  else do
    let dropped ← scanner.dropKey?
    let cursor := scanner.cursor
    return dropped.setKeyMark (some {
      tokens := scanner.tokens.size
      index := cursor.index
      line := cursor.line
      column := cursor.column
      required := !scanner.flow && scanner.indent == some cursor.column })

/-- Adds a token. -/
def emit (scanner : Scanner) (token : Token) : Scanner :=
  { scanner with tokens := scanner.tokens.push token }

/-- Puts a token in front of those from `position` on. -/
def emitAt (scanner : Scanner) (position : Nat) (token : Token) : Scanner :=
  { scanner with
    tokens := (scanner.tokens.extract 0 position).push token
      ++ scanner.tokens.extract position scanner.tokens.size }

/-- Passes over `count` characters. -/
def skip (scanner : Scanner) (count : Nat) : Scanner :=
  { scanner with cursor := scanner.cursor.advance count }

/-- Says whether a key may begin at the next token. -/
def allowKey (scanner : Scanner) (allowed : Bool) : Scanner :=
  { scanner with keyAllowed := allowed }

/-- Ends the mapping whose column is not reached by `column`, or ends it in any case where
no column is given. -/
def unroll (scanner : Scanner) (column : Option Nat) : Scanner :=
  match scanner.indent with
  | none => scanner
  | some indent =>
    if scanner.flow || column.any (indent ≤ ·) then scanner
    else { scanner.emit .blockEnd with indent := none }

/-- Begins a mapping at `column`, its token in front of those from `position` on, unless one
with this column is there. A mapping within another one is refused. -/
def roll? (scanner : Scanner) (column position : Nat) : Option Scanner :=
  if scanner.flow then some scanner
  else
    match scanner.indent with
    | none => some { scanner.emitAt position .blockStart with indent := some column }
    | some indent => if indent < column then none else some scanner

/-- Passes over blanks, comments and line ends. A tab is no blank where a key may begin. -/
def skipGap : (count : Nat) → Scanner → Scanner
  | 0, scanner => scanner
  | count + 1, scanner =>
    let tabs := scanner.flow || !scanner.keyAllowed
    let cursor := (scanner.cursor.skipWhile fun c => c == ' ' || tabs && c == '\t').skipComment
    match cursor.lineBreak? with
    | none => { scanner with cursor }
    | some (_, cursor) =>
      skipGap count { scanner with cursor, keyAllowed := scanner.keyAllowed || !scanner.flow }

/-! ### Directives -/

/-- A number of at most nine digits, and the cursor after it. -/
def versionNumber? (cursor : Cursor) : Option (Nat × Cursor) :=
  let digits := cursor.rest.takeWhile Char.isDigit
  if digits.length > 9 then none
  else (digitsNumber? 10 digits).map fun n => (n, cursor.advance digits.length)

/-- Whether `c` may stand in a tag. Between angle brackets more may. -/
def isTagChar (bracketed : Bool) (c : Char) : Bool :=
  isNameChar c || ";/?:@&=+$.%!~*'()".toList.contains c
    || bracketed && (c == ',' || c == '[' || c == ']')

/-- How many bytes a character has whose first byte in UTF-8 is `n`. -/
def utf8Width? (n : Nat) : Option Nat :=
  if n < 0x80 then some 1
  else if 0xC0 ≤ n && n < 0xE0 then some 2
  else if 0xE0 ≤ n && n < 0xF0 then some 3
  else if 0xF0 ≤ n && n < 0xF8 then some 4
  else none

/-- The bytes that `count` escapes of a percent sign and two digits stand for, and what
follows them. -/
def percentBytes? : (count : Nat) → Text → Option (List UInt8 × Text)
  | 0, text => some ([], text)
  | count + 1, '%' :: a :: b :: rest => do
    let n ← digitsNumber? 16 [a, b]
    let (bytes, rest) ← percentBytes? count rest
    return (UInt8.ofNat n :: bytes, rest)
  | _ + 1, _ => none

/-- The character that escapes of percent signs stand for, and what follows them. -/
def percent? (text : Text) : Option (Text × Text) := do
  let (first, _) ← percentBytes? 1 text
  let width ← utf8Width? (first.headD 0).toNat
  let (bytes, rest) ← percentBytes? width text
  return (← Text.ofBytes? ⟨bytes.toArray⟩, rest)

/-- The characters of a tag, and what follows them. -/
def tagChars? (bracketed : Bool) : (length : Nat) → Text → Option (Text × Text)
  | 0, _ => none
  | length + 1, text =>
    match text with
    | [] => some ([], [])
    | c :: rest =>
      if !isTagChar bracketed c then some ([], text)
      else do
        let (head, rest) ← if c == '%' then percent? text else some ([c], rest)
        let (tail, rest) ← tagChars? bracketed length rest
        return (head ++ tail, rest)

/-- The handle of a tag: an exclamation mark, or a name between two of them. Of an
exclamation mark and a name alone, `closed` says that they are no handle. -/
def handle? (text : Text) : Option (Text × Bool × Text) :=
  match text with
  | '!' :: rest =>
    let name := rest.takeWhile isNameChar
    match rest.drop name.length with
    | '!' :: rest => some ('!' :: name ++ ['!'], true, rest)
    | rest => some ('!' :: name, false, rest)
  | _ => none

/-- The token of a directive, the cursor standing after its name. -/
def directiveToken? (name : Text) (cursor : Cursor) : Option (Token × Cursor) :=
  if name = ['Y', 'A', 'M', 'L'] then do
    let (major, cursor) ← versionNumber? (cursor.skipWhile isSpace)
    if cursor.next? ≠ some '.' then none
    let (minor, cursor) ← versionNumber? (cursor.advance 1)
    return (.version major minor, cursor)
  else if name = ['T', 'A', 'G'] then do
    let cursor := cursor.skipWhile isSpace
    let (handle, closed, rest) ← handle? cursor.rest
    if !closed && handle ≠ ['!'] then none
    let cursor := cursor.advanceTo rest
    if !cursor.next?.any isSpace then none
    let cursor := cursor.skipWhile isSpace
    let (meaning, rest) ← tagChars? true (cursor.rest.length + 1) cursor.rest
    if meaning = [] || !endsWord rest.head? then none
    return (.tagHandle handle meaning, cursor.advanceTo rest)
  else none

/-- Reads a directive. -/
def directive? (scanner : Scanner) : Option Scanner := do
  let scanner ← (scanner.unroll none).dropKey?
  let cursor := scanner.cursor.advance 1
  let name := cursor.rest.takeWhile isNameChar
  let cursor := cursor.advance name.length
  if !endsWord cursor.next? then none
  let (token, cursor) ← directiveToken? name cursor
  let cursor := (cursor.skipWhile isSpace).skipComment
  if !endsLine cursor.next? then none
  return { (scanner.allowKey false).emit token with cursor := cursor.skipBreak }

/-! ### Single tokens -/

/-- Reads the mark of the beginning or the end of a document. -/
def documentMark? (scanner : Scanner) (token : Token) : Option Scanner := do
  return (((← (scanner.unroll none).dropKey?).allowKey false).skip 3).emit token

/-- Reads an opening brace. -/
def openBrace? (scanner : Scanner) : Option Scanner := do
  if scanner.flow then none
  let scanner ← scanner.markKey?
  return { ((scanner.allowKey true).skip 1).emit .flowStart with flow := true, flowKey := none }

/-- Reads a closing brace. -/
def closeBrace? (scanner : Scanner) : Option Scanner := do
  if !scanner.flow then none
  let scanner ← scanner.dropKey?
  return { ((scanner.allowKey false).skip 1).emit .flowEnd with flow := false }

/-- Reads a comma between braces. -/
def comma? (scanner : Scanner) : Option Scanner := do
  return (((← scanner.dropKey?).allowKey true).skip 1).emit .flowEntry

/-- Begins a mapping here if there is none yet, where a key may begin. -/
def rollHere? (scanner : Scanner) : Option Scanner :=
  if scanner.flow then some scanner
  else if !scanner.keyAllowed then none
  else scanner.roll? scanner.cursor.column scanner.tokens.size

/-- Reads the question mark before a key. -/
def question? (scanner : Scanner) : Option Scanner := do
  let scanner ← (← scanner.rollHere?).dropKey?
  return ((scanner.allowKey !scanner.flow).skip 1).emit .key

/-- Whether the key that may have begun at a place can still end here. -/
def reaches (scanner : Scanner) (mark : KeyMark) : Bool :=
  mark.line == scanner.cursor.line && scanner.cursor.index ≤ mark.index + maxKeyLength

/-- Makes what began at a place a key, with the beginning of a mapping before it if there is
none yet. -/
def key? (scanner : Scanner) (mark : KeyMark) : Option Scanner := do
  let rolled ← (scanner.emitAt mark.tokens .key).roll? mark.column mark.tokens
  return (rolled.setKeyMark none).allowKey false

/-- Goes on to a value whose key has a mark of its own or is left out. -/
def valueHere? (scanner : Scanner) : Option Scanner := do
  return (← scanner.rollHere?).allowKey !scanner.flow

/-- Reads the colon before a value. What is before it is a key if one may have begun. -/
def colon? (scanner : Scanner) : Option Scanner := do
  let keyed ← match scanner.keyMark with
    | some mark =>
      if scanner.reaches mark then scanner.key? mark
      else if mark.required then none
      else scanner.valueHere?
    | none => scanner.valueHere?
  return (keyed.skip 1).emit .value

/-- Reads the name of an anchor or an alias after its sign. -/
def named? (scanner : Scanner) (token : Text → Token) : Option Scanner := do
  let scanner ← scanner.markKey?
  let cursor := scanner.cursor.advance 1
  let name := cursor.rest.takeWhile isNameChar
  let cursor := cursor.advance name.length
  if name = [] then none
  else if endsWord cursor.next? || cursor.next?.any "?:,]\x7d%@`".toList.contains then
    return { (scanner.allowKey false).emit (token name) with cursor }
  else none

/-- Reads a tag. -/
def tag? (scanner : Scanner) : Option Scanner := do
  let scanner ← scanner.markKey?
  let (handle, suffix, rest) ←
    match scanner.cursor.rest with
    | '!' :: '<' :: rest => do
      let (suffix, rest) ← tagChars? true (rest.length + 1) rest
      match rest with
      | '>' :: rest => if suffix = [] then none else some ([], suffix, rest)
      | _ => none
    | text => do
      let (handle, closed, rest) ← handle? text
      let (suffix, rest) ← tagChars? false (rest.length + 1) rest
      if closed then
        if suffix = [] then none else some (handle, suffix, rest)
      else if handle.length = 1 && suffix = [] then some ([], ['!'], rest)
      else some (['!'], handle.drop 1 ++ suffix, rest)
  let cursor := scanner.cursor.advanceTo rest
  if scanner.flow && cursor.next? = some ',' || endsWord cursor.next? then
    return { (scanner.allowKey false).emit (.tag handle suffix) with cursor }
  else none

/-- Reads a block of lines. -/
def block? (scanner : Scanner) (folded : Bool) : Option Scanner := do
  let scanner ← scanner.dropKey?
  let (text, cursor) ← Yaml.block? folded scanner.indent (scanner.cursor.advance 1)
  let token := Token.scalar (if folded then .folded else .literal) text
  return { (scanner.allowKey true).emit token with cursor }

/-- Reads a quoted text. -/
def quoted? (scanner : Scanner) (double : Bool) : Option Scanner := do
  let scanner ← scanner.markKey?
  let (text, cursor) ←
    Yaml.quoted? double (scanner.cursor.rest.length + 1) (scanner.cursor.advance 1)
  let token := Token.scalar (if double then .doubleQuoted else .singleQuoted) text
  return { (scanner.allowKey false).emit token with cursor }

/-- Reads a plain text. A key may begin after it if it ends before a line end. -/
def plain? (scanner : Scanner) : Option Scanner := do
  let scanner ← scanner.markKey?
  let least := match scanner.indent with
    | some column => column + 1
    | none => 0
  let (text, broken, cursor) ←
    Yaml.plain? scanner.flow least (scanner.cursor.rest.length + 1) {} scanner.cursor
  return { (scanner.allowKey broken).emit (.scalar .plain text) with cursor }

/-- Whether a plain text may begin with `c` before `next`. -/
def startsPlain (flow : Bool) (c : Char) (next : Option Char) : Bool :=
  if c == '-' then !next.any isSpace
  else if c == '?' || c == ':' then !flow && !endsWord next
  else !"[]\x7b\x7d,#&*!|>'\"%@`".toList.contains c

/-- Reads the token that begins with `c`. -/
def token? (scanner : Scanner) (c : Char) : Option Scanner :=
  let cursor := scanner.cursor
  let next := cursor.ahead? 1
  if cursor.column == 0 && c == '%' then scanner.directive?
  else if cursor.startsWithMark '-' then scanner.documentMark? .documentStart
  else if cursor.startsWithMark '.' then scanner.documentMark? .documentEnd
  else if c == '[' || c == ']' then none
  else if c == '\x7b' then scanner.openBrace?
  else if c == '\x7d' then scanner.closeBrace?
  else if c == ',' then scanner.comma?
  else if c == '-' && endsWord next then none
  else if c == '?' && (scanner.flow || endsWord next) then scanner.question?
  else if c == ':' && (scanner.flow || endsWord next) then scanner.colon?
  else if c == '*' then scanner.named? .alias
  else if c == '&' then scanner.named? .anchor
  else if c == '!' then scanner.tag?
  else if c == '|' && !scanner.flow then scanner.block? false
  else if c == '>' && !scanner.flow then scanner.block? true
  else if c == '\'' then scanner.quoted? false
  else if c == '"' then scanner.quoted? true
  else if startsPlain scanner.flow c next then scanner.plain?
  else none

/-- Reads at most `count` tokens, to the end of the text. -/
def tokens? : (count : Nat) → Scanner → Option (List Token)
  | 0, _ => none
  | count + 1, scanner => do
    let scanner := scanner.skipGap (scanner.cursor.rest.length + 1)
    let scanner := scanner.unroll (some scanner.cursor.column)
    match scanner.cursor.next? with
    | none => return (← (scanner.unroll none).dropKey?).tokens.toList
    | some c => tokens? count (← scanner.token? c)

end Scanner

/-- The beginning of a text. A byte order mark there is passed over, but it takes up the first
column. -/
def startOf (text : Text) : Cursor :=
  let cursor : Cursor := { rest := text }
  if cursor.next? = some '\uFEFF' then cursor.advance 1 else cursor

/-- The tokens of a text. -/
def tokensOf? (text : Text) : Option (List Token) :=
  if text.all isAllowed then Scanner.tokens? (text.length + 1) { cursor := startOf text }
  else none

end Yaml

end Excision
