import Excision.Text.Basic

/-!
# Blank characters

The characters with the Unicode property White_Space, and cutting runs of them off the
two ends of a text.
-/

namespace Excision

/-- Whether `c` has the Unicode property White_Space. -/
def isBlank (c : Char) : Bool :=
  let n := c.toNat
  (9 ≤ n && n ≤ 13) || n == 0x20 || n == 0x85 || n == 0xA0 || n == 0x1680
    || (0x2000 ≤ n && n ≤ 0x200A) || n == 0x2028 || n == 0x2029 || n == 0x202F
    || n == 0x205F || n == 0x3000

namespace Text

/-- `text` without the blank characters at its front. -/
def trimStart (text : Text) : Text := text.dropWhile isBlank

/-- `text` without the blank characters at its end. -/
def trimEnd (text : Text) : Text := (text.reverse.dropWhile isBlank).reverse

/-- `text` without the blank characters at its two ends. -/
def trim (text : Text) : Text := text.trimStart.trimEnd

/-- Whether nothing is left of `text` when its ends are trimmed. -/
def isBlankText (text : Text) : Bool := text.trim.isEmpty

end Text

/-- Every character that the ASCII rule counts as white space is blank. -/
theorem isBlank_of_isWhitespace {c : Char} (h : c.isWhitespace = true) :
  isBlank c = true
  := by
  simp only [Char.isWhitespace, Bool.or_eq_true, decide_eq_true_eq] at h
  rcases h with ((h | h) | h) | h <;> subst h <;> rfl

end Excision
