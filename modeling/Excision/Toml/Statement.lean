import Excision.Text.Digits

/-!
# TOML statements

Reading a text as a list of TOML statements: headers that open a table, and assignments of a
value to a key. The values are texts, whole numbers, arrays and inline tables. No job has a
setting that is a truth value, a number with a point or a date, and none is a list of
tables, so a text with one of these is not read any further.
-/

namespace Excision

namespace Toml

/-- A value. -/
inductive Value where
  | text (value : Text)
  | integer (value : Int)
  | array (elements : List Value)
  /-- An inline table, with the key that each value is assigned to. -/
  | table (entries : List (List Text × Value))

/-- A statement. A key is a list of names, each within the table of the one before it. -/
inductive Statement where
  /-- What follows belongs to the table of this key. -/
  | header (key : List Text)
  /-- The key has this value. -/
  | assign (key : List Text) (value : Value)

/-! ### Blanks, comments and line ends -/

/-- Whether `c` is a blank within a line. -/
def isSpace (c : Char) : Bool := c == ' ' || c == '\t'

/-- Whether `c` may stand in a comment or in a text without being escaped. -/
def isPlain (c : Char) : Bool := c == '\t' || (0x20 ≤ c.toNat && c.toNat != 0x7F)

/-- The text without the blanks at its front. -/
def skipSpace (text : Text) : Text := text.dropWhile isSpace

/-- What follows a line terminator. -/
def lineFeed? : Text → Option Text
  | '\n' :: rest => some rest
  | '\r' :: '\n' :: rest => some rest
  | _ => none

/-- The text without a comment at its front. -/
def skipComment : Text → Text
  | '#' :: rest => rest.dropWhile isPlain
  | text => text

/-- What follows the end of a line, before which there may be blanks and a comment. -/
def endLine? (text : Text) : Option Text :=
  match skipComment (skipSpace text) with
  | [] => some []
  | text => lineFeed? text

/-- The text without the blanks, comments and line ends at its front. There are at most
`count` line ends. -/
def skipLines : (count : Nat) → Text → Text
  | 0, text => text
  | count + 1, text =>
    let text := skipComment (skipSpace text)
    match lineFeed? text with
    | some rest => skipLines count rest
    | none => text

/-! ### Texts -/

/-- The character that an escape of one letter stands for. -/
def escaped? : Char → Option Char
  | 'b' => some '\x08'
  | 't' => some '\t'
  | 'n' => some '\n'
  | 'f' => some '\x0c'
  | 'r' => some '\r'
  | '"' => some '"'
  | '\\' => some '\\'
  | _ => none

/-- The character that an escape stands for, and what follows it. The backslash has been
read. -/
def escape? : Text → Option (Char × Text)
  | 'u' :: rest =>
    if rest.length < 4 then none
    else (hexCharacter? (rest.take 4)).map fun c => (c, rest.drop 4)
  | 'U' :: rest =>
    if rest.length < 8 then none
    else (hexCharacter? (rest.take 8)).map fun c => (c, rest.drop 8)
  | c :: rest => (escaped? c).map fun c => (c, rest)
  | [] => none

/-- Puts a character in front of a text that has been read. -/
def consTo (c : Char) (read : Option (Text × Text)) : Option (Text × Text) :=
  read.map fun (text, rest) => (c :: text, rest)

/-- A text with escapes up to its closing quote, and what follows that. It has at most
`length` characters. -/
def basic? : (length : Nat) → Text → Option (Text × Text)
  | 0, _ => none
  | length + 1, text =>
    match text with
    | [] => none
    | '"' :: rest => some ([], rest)
    | '\\' :: rest => do
      let (c, rest) ← escape? rest
      consTo c (basic? length rest)
    | c :: rest => if isPlain c then consTo c (basic? length rest) else none

/-- A text without escapes up to its closing quote, and what follows that. -/
def literal? : Text → Option (Text × Text)
  | [] => none
  | '\'' :: rest => some ([], rest)
  | c :: rest => if isPlain c then consTo c (literal? rest) else none

/-- What three quotes end, one or two more quotes before them being part of the text. -/
def closeLines (quote : Char) : Text → Text × Text
  | c :: d :: rest =>
    if c = quote && d = quote then ([quote, quote], rest)
    else if c = quote then ([quote], d :: rest)
    else ([], c :: d :: rest)
  | [c] => if c = quote then ([quote], []) else ([], [c])
  | [] => ([], [])

/-- A text of several lines with escapes up to its three closing quotes, and what follows
them. A backslash at the end of a line takes the line end and the blanks and line ends after
it away. -/
def basicLines? : (length : Nat) → Text → Option (Text × Text)
  | 0, _ => none
  | length + 1, text =>
    match text with
    | [] => none
    | '"' :: '"' :: '"' :: rest => some (closeLines '"' rest)
    | '\\' :: rest =>
      match lineFeed? (skipSpace rest) with
      | some rest => basicLines? length (skipBlankLines length rest)
      | none => do
        let (c, rest) ← escape? rest
        consTo c (basicLines? length rest)
    | c :: rest =>
      match lineFeed? text with
      | some rest => consTo '\n' (basicLines? length rest)
      | none => if isPlain c then consTo c (basicLines? length rest) else none
where
  /-- The text without the blanks and line ends at its front. -/
  skipBlankLines : (count : Nat) → Text → Text
    | 0, text => text
    | count + 1, text =>
      match lineFeed? (skipSpace text) with
      | some rest => skipBlankLines count rest
      | none => skipSpace text

/-- A text of several lines without escapes up to its three closing quotes, and what follows
them. -/
def literalLines? : (length : Nat) → Text → Option (Text × Text)
  | 0, _ => none
  | length + 1, text =>
    match text with
    | [] => none
    | '\'' :: '\'' :: '\'' :: rest => some (closeLines '\'' rest)
    | c :: rest =>
      match lineFeed? text with
      | some rest => consTo '\n' (literalLines? length rest)
      | none => if isPlain c then consTo c (literalLines? length rest) else none

/-- The text without a line end at its front, if there is one. -/
def skipFirstLineFeed (text : Text) : Text := (lineFeed? text).getD text

/-! ### Keys -/

/-- Whether `c` may stand in a name without quotes. -/
def isBare (c : Char) : Bool := c.isAlphanum || c == '_' || c == '-'

/-- A name, and what follows it. -/
def name? : Text → Option (Text × Text)
  | '"' :: rest => basic? (rest.length + 1) rest
  | '\'' :: rest => literal? rest
  | text =>
    match text.span isBare with
    | ([], _) => none
    | run => some run

/-- A key of at most `count` names with points between them, and what follows it. -/
def key? : (count : Nat) → Text → Option (List Text × Text)
  | 0, _ => none
  | count + 1, text => do
    let (name, rest) ← name? (skipSpace text)
    match skipSpace rest with
    | '.' :: rest =>
      let (names, rest) ← key? count rest
      return (name :: names, rest)
    | rest => return ([name], rest)

/-! ### Values -/

/-- The digits of a number, with the underscores between them taken out. -/
def joinGroups? (digits : Text) : Option Text :=
  let groups := Text.splitAt '_' digits
  if groups.any List.isEmpty then none else some groups.flatten

/-- The size of a number without a sign. Only a zero by itself begins with a zero. -/
def magnitude? (digits : Text) : Option Nat := do
  let joined ← joinGroups? digits
  if joined.head? = some '0' && joined.length ≠ 1 then none else digitsNumber? 10 joined

/-- The whole number of this written form, if it is a word of 64 bits with a sign. -/
def integer? (written : Text) : Option Int := do
  let n : Int ← match written with
    | '0' :: 'x' :: digits => (do digitsNumber? 16 (← joinGroups? digits)).map Int.ofNat
    | '0' :: 'o' :: digits => (do digitsNumber? 8 (← joinGroups? digits)).map Int.ofNat
    | '0' :: 'b' :: digits => (do digitsNumber? 2 (← joinGroups? digits)).map Int.ofNat
    | '+' :: digits => (magnitude? digits).map Int.ofNat
    | '-' :: digits => (magnitude? digits).map fun n => -Int.ofNat n
    | digits => (magnitude? digits).map Int.ofNat
  if -9223372036854775808 ≤ n && n < 9223372036854775808 then some n else none

/-- Whether `c` may stand in a number or in another value without quotes. -/
def isWordChar (c : Char) : Bool := isBare c || c == '+' || c == '.' || c == ':'

mutual

/-- A value, and what follows it. Values may be nested `depth` deep. -/
def value? : (depth : Nat) → Text → Option (Value × Text)
  | 0, _ => none
  | depth + 1, text =>
    match text with
    | '"' :: '"' :: '"' :: rest =>
      (basicLines? (rest.length + 1) (skipFirstLineFeed rest)).map fun (text, rest) =>
        (.text text, rest)
    | '"' :: rest => (basic? (rest.length + 1) rest).map fun (text, rest) => (.text text, rest)
    | '\'' :: '\'' :: '\'' :: rest =>
      (literalLines? (rest.length + 1) (skipFirstLineFeed rest)).map fun (text, rest) =>
        (.text text, rest)
    | '\'' :: rest => (literal? rest).map fun (text, rest) => (.text text, rest)
    | '[' :: rest => (elements? depth rest).map fun (values, rest) => (.array values, rest)
    | '\x7b' :: rest =>
      match skipSpace rest with
      | '\x7d' :: rest => some (.table [], rest)
      | rest => (entries? depth rest).map fun (entries, rest) => (.table entries, rest)
    | text =>
      let (word, rest) := text.span isWordChar
      (integer? word).map fun n => (.integer n, rest)

/-- The values up to the end of an array. A comma may follow the last one. -/
def elements? : (depth : Nat) → Text → Option (List Value × Text)
  | 0, _ => none
  | depth + 1, text =>
    match skipLines (text.length + 1) text with
    | ']' :: rest => some ([], rest)
    | text => do
      let (value, rest) ← value? depth text
      match skipLines (rest.length + 1) rest with
      | ',' :: rest =>
        let (values, rest) ← elements? depth rest
        return (value :: values, rest)
      | ']' :: rest => return ([value], rest)
      | _ => none

/-- The assignments up to the end of an inline table. -/
def entries? : (depth : Nat) → Text → Option (List (List Text × Value) × Text)
  | 0, _ => none
  | depth + 1, text => do
    let (key, rest) ← key? (text.length + 1) text
    match rest with
    | '=' :: rest =>
      let (value, rest) ← value? depth (skipSpace rest)
      match skipSpace rest with
      | ',' :: rest =>
        let (entries, rest) ← entries? depth rest
        return ((key, value) :: entries, rest)
      | '\x7d' :: rest => return ([(key, value)], rest)
      | _ => none
    | _ => none

end

/-! ### Statements -/

/-- The statement at the front of a text, and what follows its line. -/
def statement? (text : Text) : Option (Statement × Text) :=
  match text with
  | '[' :: '[' :: _ => none
  | '[' :: rest => do
    let (key, rest) ← key? (rest.length + 1) rest
    match rest with
    | ']' :: rest => return (.header key, ← endLine? rest)
    | _ => none
  | text => do
    let (key, rest) ← key? (text.length + 1) text
    match rest with
    | '=' :: rest =>
      let (value, rest) ← value? (rest.length + 1) (skipSpace rest)
      return (.assign key value, ← endLine? rest)
    | _ => none

/-- The statements of a text of at most `count` lines. -/
def statements? : (count : Nat) → Text → Option (List Statement)
  | 0, _ => none
  | count + 1, text =>
    match skipSpace text with
    | [] => some []
    | text =>
      match endLine? text with
      | some rest => statements? count rest
      | none => do
        let (statement, rest) ← statement? text
        return statement :: (← statements? count rest)

/-- The text without a byte order mark at its front. -/
def skipMark : Text → Text
  | '\uFEFF' :: rest => rest
  | text => text

/-- The statements of a text. -/
def statementsOf? (text : Text) : Option (List Statement) :=
  statements? (text.length + 1) (skipMark text)

end Toml

end Excision
