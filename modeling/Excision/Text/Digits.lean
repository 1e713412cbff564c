import Excision.Text.Basic

/-!
# Digits

The numbers that digits write, in the bases that settings may be written in, and the
character of a code point.
-/

namespace Excision

/-- The value of a digit, in any base up to sixteen. -/
def digitValue? (c : Char) : Option Nat :=
  if '0' ≤ c && c ≤ '9' then some (c.toNat - '0'.toNat)
  else if 'a' ≤ c && c ≤ 'f' then some (c.toNat - 'a'.toNat + 10)
  else if 'A' ≤ c && c ≤ 'F' then some (c.toNat - 'A'.toNat + 10)
  else none

/-- The value of a digit of `base`. -/
def digit? (base : Nat) (c : Char) : Option Nat := do
  let n ← digitValue? c
  if n < base then some n else none

/-- The number that the digits write in `base`. There must be a digit at least. -/
def digitsNumber? (base : Nat) (digits : Text) : Option Nat :=
  if digits = [] then none
  else digits.foldlM (fun n c => (digit? base c).map (base * n + ·)) 0

/-- The character of a code point. The halves of pairs are none. -/
def character? (n : Nat) : Option Char := if n.isValidChar then some (Char.ofNat n) else none

/-- The character whose code point hexadecimal digits write. -/
def hexCharacter? (digits : Text) : Option Char := do character? (← digitsNumber? 16 digits)

end Excision
