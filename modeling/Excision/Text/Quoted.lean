import Excision.Text.Printable

/-!
# Quoted text

The form in which messages show a text: between double quotes, with the tab, the two line
terminators, NUL, the backslash and the double quote written as escapes, and with every
other character that does not show by itself written as its code point in hexadecimal.
-/

namespace Excision

namespace Text

/-- The code point of `c` as `\u`, a brace, lower-case hexadecimal digits and a brace. -/
def codePointEscape (c : Char) : Text :=
  "\\u\x7b".toList ++ Nat.toDigits 16 c.toNat ++ ['\x7d']

/-- The quoted form of one character. -/
def quoteChar (c : Char) : Text :=
  if c = '\t' then ['\\', 't']
  else if c = '\r' then ['\\', 'r']
  else if c = '\n' then ['\\', 'n']
  else if c = '\x00' then ['\\', '0']
  else if c = '\\' then ['\\', '\\']
  else if c = '"' then ['\\', '"']
  else if isVisible c then [c]
  else codePointEscape c

/-- The quoted form of a text. -/
def quote (text : Text) : Text := '"' :: text.flatMap quoteChar ++ ['"']

/-- The quoted form of a path, which escapes the single quote as well. -/
def quotePath (text : Text) : Text :=
  '"' :: text.flatMap (fun c => if c = '\'' then ['\\', '\''] else quoteChar c) ++ ['"']

end Text

end Excision
