import Excision.Job.Fields
import Excision.Json.Value

/-!
# Jobs in JSON

A job is an object whose members are settings, or an array with a value for every setting.
A setting that is `null` is left open. The strategy is a text, or an object with its name as
the only member and `null` as the value of that.
-/

namespace Excision

namespace Json

/-- The natural number of a literal that is nothing but digits and not too large. -/
def naturalOf? (literal : Text) : Option Nat :=
  match digitsNumber? 10 literal with
  | some n => if n ≤ maxNumber then some n else none
  | none => none

/-- How JSON values are understood as settings. -/
def reader : ValueReader Value where
  isOpen
    | .null => true
    | _ => false
  text?
    | .text text => some text
    | _ => none
  number?
    | .number literal => naturalOf? literal
    | _ => none
  strategy?
    | .text text => StrategyName.ofText? text
    | .object [(name, .null)] => StrategyName.ofText? name
    | _ => none

/-- The job that a JSON text writes. -/
def jobOfText? (text : Text) : Option Job := do
  match ← ofText? text with
  | .object members => Job.ofFields? reader members
  | .array elements => Job.ofElements? reader elements
  | _ => none

end Json

end Excision
