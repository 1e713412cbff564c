import Excision.Job.Fields
import Excision.Toml.Table

/-!
# Jobs in TOML

A job is a table of settings. The strategy is a text, or a table with its name as the only
item and something empty under that name.
-/

namespace Excision

namespace Toml

/-- The items of a table, whichever way it is written. An inline table with a key of several
names has none of a use here. -/
def itemsOf? : Item → Option (List (Text × Item))
  | .table _ _ items => some items
  | .value (.table entries) =>
    entries.mapM fun
      | ([name], value) => some (name, .value value)
      | _ => none
  | _ => none

/-- Whether an item is a table or an array with nothing in it. -/
def isEmptyItem : Item → Bool
  | .table _ _ items => items.isEmpty
  | .value (.table entries) => entries.isEmpty
  | .value (.array elements) => elements.isEmpty
  | _ => false

/-- How items are understood as settings. None of them leaves a setting open. -/
def reader : ValueReader Item where
  isOpen _ := false
  text?
    | .value (.text text) => some text
    | _ => none
  number?
    | .value (.integer n) => if 0 ≤ n then some n.toNat else none
    | _ => none
  strategy?
    | .value (.text text) => StrategyName.ofText? text
    | item =>
      match itemsOf? item with
      | some [(name, inner)] => if isEmptyItem inner then StrategyName.ofText? name else none
      | _ => none

/-- The job that a TOML text writes. -/
def jobOfText? (text : Text) : Option Job := do
  match ← Item.ofText? text with
  | .table _ _ items => Job.ofFields? reader items
  | .value _ => none

end Toml

end Excision
