import Excision.Job.Fields
import Excision.Yaml.Mapping

/-!
# Jobs in YAML

A job is a mapping of settings, or nothing at all. A plain scalar that is empty or one of
the words for null leaves its setting open. Every other scalar is a text, whatever its tag
and its style; a number is written plainly. The strategy is a text, or a tag of its own
before nothing.
-/

namespace Excision

namespace Yaml

namespace Scalar

/-- Whether the text is one of the words for null. -/
def saysNull (scalar : Scalar) : Bool :=
  ["null".toList, "Null".toList, "NULL".toList, ['~']].contains scalar.text

/-- Whether the scalar is plain and stands for nothing, its tag not being looked at. -/
def isNothing (scalar : Scalar) : Bool :=
  scalar.style == .plain && (scalar.text == [] || scalar.saysNull)

/-- Whether the scalar is plain and has the tag for null. -/
def isTaggedNull (scalar : Scalar) : Bool :=
  scalar.style == .plain && scalar.tag == some (coreTag ++ ['n', 'u', 'l', 'l'])

/-- Whether the scalar leaves a setting open. With the tag for null it must say so in a
word. -/
def isOpen (scalar : Scalar) : Bool :=
  if scalar.isTaggedNull then scalar.saysNull else scalar.tag.isNone && scalar.isNothing

/-- The digits of a number in `base`, which must not be too large. -/
def number? (base : Nat) (digits : Text) : Option Nat :=
  match digitsNumber? base digits with
  | some n => if n ≤ maxNumber then some n else none
  | none => none

/-- The number that a text writes: after at most one plus sign, in the base that `0x`, `0o`
or `0b` announces, or in decimal without leading zeros. -/
def numberOf? (text : Text) : Option Nat :=
  let digits := (Text.dropHead? ['+'] text).getD text
  match digits with
  | '0' :: 'x' :: digits => number? 16 digits
  | '0' :: 'o' :: digits => number? 8 digits
  | '0' :: 'b' :: digits => number? 2 digits
  | '0' :: _ :: _ => none
  | digits => number? 10 digits

/-- The strategy that a scalar names. -/
def strategy? (scalar : Scalar) : Option StrategyName :=
  match scalar.tag with
  | some ('!' :: name) => if scalar.isNothing then StrategyName.ofText? name else none
  | _ => StrategyName.ofText? scalar.text

end Scalar

/-- How scalars are understood as settings. One with the tag for null that says something
else has no use. -/
def reader : ValueReader Scalar where
  isOpen := Scalar.isOpen
  text? scalar := if scalar.isTaggedNull then none else some scalar.text
  number? scalar :=
    if scalar.isTaggedNull then none
    else if scalar.style == .plain
        || scalar.style == .literal && scalar.tag == some (coreTag ++ ['i', 'n', 't']) then
      Scalar.numberOf? scalar.text
    else none
  strategy? scalar := if scalar.isTaggedNull then none else scalar.strategy?

/-- The job that a YAML text writes. -/
def jobOfText? (text : Text) : Option Job := do
  match ← onlyContent? (← tokensOf? text) with
  | .scalar scalar => if scalar.style == .plain && scalar.text == [] then some {} else none
  | .mapping anchor pairs =>
    Job.ofFields? reader ((← scalarPairs? anchor pairs).map fun (key, value) => (key.text, value))

end Yaml

end Excision
