import Excision.Text.Digits

/-!
# JSON values

Reading a text as a JSON value. The reader takes the whole grammar and nothing beyond it: a
value may stand between blanks, texts may not hold control characters, escapes of code
points must make up whole characters, and numbers have no leading zeros. A number keeps its
written form.
-/

namespace Excision

namespace Json

/-- A JSON value. -/
inductive Value where
  | null
  | bool (value : Bool)
  /-- A number as it is written. -/
  | number (literal : Text)
  | text (value : Text)
  | array (elements : List Value)
  | object (members : List (Text × Value))

/-- Whether `c` may stand between the tokens. -/
def isSpace (c : Char) : Bool := c == ' ' || c == '\n' || c == '\t' || c == '\r'

/-- The text without the blanks at its front. -/
def skipSpace (text : Text) : Text := text.dropWhile isSpace

/-- The character that an escape of one letter stands for. -/
def escaped? : Char → Option Char
  | '"' => some '"'
  | '\\' => some '\\'
  | '/' => some '/'
  | 'b' => some '\x08'
  | 'f' => some '\x0c'
  | 'n' => some '\n'
  | 'r' => some '\r'
  | 't' => some '\t'
  | _ => none

/-- Whether `n` is the first half of a pair that makes up one character. -/
def isHighHalf (n : Nat) : Bool := 0xD800 ≤ n && n < 0xDC00

/-- Whether `n` is the second half of such a pair. -/
def isLowHalf (n : Nat) : Bool := 0xDC00 ≤ n && n < 0xE000

/-- Puts a character in front of a text that has been read. -/
def consTo (c : Char) (read : Option (Text × Text)) : Option (Text × Text) :=
  read.map fun (text, rest) => (c :: text, rest)

/-- The text up to its closing quote, and what follows the quote. -/
def quoted? : Text → Option (Text × Text)
  | [] => none
  | '"' :: rest => some ([], rest)
  | '\\' :: 'u' :: a :: b :: c :: d :: '\\' :: 'u' :: e :: f :: g :: h :: rest =>
    match digitsNumber? 16 [a, b, c, d], digitsNumber? 16 [e, f, g, h] with
    | some high, some low =>
      if isHighHalf high && isLowHalf low then
        consTo (Char.ofNat (0x10000 + (high - 0xD800) * 0x400 + (low - 0xDC00))) (quoted? rest)
      else if isHighHalf high || isLowHalf high then none
      else consTo (Char.ofNat high) (quoted? ('\\' :: 'u' :: e :: f :: g :: h :: rest))
    | some n, none =>
      if isHighHalf n || isLowHalf n then none
      else consTo (Char.ofNat n) (quoted? ('\\' :: 'u' :: e :: f :: g :: h :: rest))
    | none, _ => none
  | '\\' :: 'u' :: a :: b :: c :: d :: rest =>
    match digitsNumber? 16 [a, b, c, d] with
    | none => none
    | some n =>
      if isHighHalf n || isLowHalf n then none else consTo (Char.ofNat n) (quoted? rest)
  | '\\' :: c :: rest =>
    match escaped? c with
    | none => none
    | some c => consTo c (quoted? rest)
  | c :: rest => if c.toNat < 0x20 || c = '\\' then none else consTo c (quoted? rest)
termination_by text => text.length

/-- A run of at least one digit, and what follows it. -/
def digits? (text : Text) : Option (Text × Text) :=
  match text.span Char.isDigit with
  | ([], _) => none
  | run => some run

/-- The whole part of a number: a zero, or digits that do not begin with one. -/
def wholePart? : Text → Option (Text × Text)
  | '0' :: rest => some (['0'], rest)
  | text => digits? text

/-- The part of a number after its point, which need not be there. -/
def fractionPart? : Text → Option (Text × Text)
  | '.' :: rest => consTo '.' (digits? rest)
  | text => some ([], text)

/-- The exponent of a number, which need not be there. -/
def exponentPart? : Text → Option (Text × Text)
  | 'e' :: '+' :: rest | 'E' :: '+' :: rest => consTo 'e' (consTo '+' (digits? rest))
  | 'e' :: '-' :: rest | 'E' :: '-' :: rest => consTo 'e' (consTo '-' (digits? rest))
  | 'e' :: rest | 'E' :: rest => consTo 'e' (digits? rest)
  | text => some ([], text)

/-- A number without a sign in its written form, and what follows it. -/
def unsigned? (text : Text) : Option (Text × Text) := do
  let (whole, text) ← wholePart? text
  let (fraction, text) ← fractionPart? text
  let (exponent, text) ← exponentPart? text
  return (whole ++ fraction ++ exponent, text)

/-- A number in its written form, and what follows it. -/
def number? : Text → Option (Text × Text)
  | '-' :: rest => consTo '-' (unsigned? rest)
  | text => unsigned? text

mutual

/-- A value, and what follows it. Values may be nested `depth` deep. -/
def value? : (depth : Nat) → Text → Option (Value × Text)
  | 0, _ => none
  | depth + 1, text =>
    match skipSpace text with
    | 'n' :: 'u' :: 'l' :: 'l' :: rest => some (.null, rest)
    | 't' :: 'r' :: 'u' :: 'e' :: rest => some (.bool true, rest)
    | 'f' :: 'a' :: 'l' :: 's' :: 'e' :: rest => some (.bool false, rest)
    | '"' :: rest => (quoted? rest).map fun (text, rest) => (.text text, rest)
    | '[' :: rest =>
      match skipSpace rest with
      | ']' :: rest => some (.array [], rest)
      | rest => (elements? depth rest).map fun (values, rest) => (.array values, rest)
    | '\x7b' :: rest =>
      match skipSpace rest with
      | '\x7d' :: rest => some (.object [], rest)
      | rest => (members? depth rest).map fun (members, rest) => (.object members, rest)
    | text => (number? text).map fun (literal, rest) => (.number literal, rest)

/-- The values up to the end of an array. -/
def elements? : (depth : Nat) → Text → Option (List Value × Text)
  | 0, _ => none
  | depth + 1, text => do
    let (value, rest) ← value? depth text
    match skipSpace rest with
    | ']' :: rest => return ([value], rest)
    | ',' :: rest =>
      let (values, rest) ← elements? depth rest
      return (value :: values, rest)
    | _ => none

/-- The names and values up to the end of an object. -/
def members? : (depth : Nat) → Text → Option (List (Text × Value) × Text)
  | 0, _ => none
  | depth + 1, text => do
    match skipSpace text with
    | '"' :: rest =>
      let (name, rest) ← quoted? rest
      match skipSpace rest with
      | ':' :: rest =>
        let (value, rest) ← value? depth rest
        match skipSpace rest with
        | '\x7d' :: rest => return ([(name, value)], rest)
        | ',' :: rest =>
          let (members, rest) ← members? depth rest
          return ((name, value) :: members, rest)
        | _ => none
      | _ => none
    | _ => none

end

/-- The value that a text writes, with nothing but blanks around it. Each level of nesting
takes a character at least, so the length of the text bounds them. -/
def ofText? (text : Text) : Option Value := do
  let (value, rest) ← value? (text.length + 1) text
  if (skipSpace rest).isEmpty then some value else none

end Json

end Excision
