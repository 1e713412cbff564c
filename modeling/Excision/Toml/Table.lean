import Excision.Toml.Statement

/-!
# TOML tables

The table that a list of statements builds up. No name of a table is assigned to twice, and
no table is opened twice: a header opens a table that is not there, or one that is there
only because a header opened a table below it; a key of several names goes through tables
that such keys or such headers have made, and never through one that a header has opened.
-/

namespace Excision

namespace Toml

/-- What stands under a name of a table. -/
inductive Item where
  /-- A value. -/
  | value (value : Value)
  /-- A table with its items. It is `implied` until a header opens it, and `dotted` if a key
  of several names has made it. -/
  | table (implied dotted : Bool) (items : List (Text × Item))

namespace Item

/-- The empty table that is open from the beginning. -/
def root : Item := table false false []

/-- Changes the table to which `path` leads, making the tables on the way that are missing.
The path of a key does not lead through tables that a header has opened. -/
def alter (ofKey : Bool) (change : Item → Option Item) : (path : List Text) → Item → Option Item
  | [], item => change item
  | _ :: _, value _ => none
  | name :: path, table implied dotted items =>
    match items.lookup name with
    | none => do
      let inner ← alter ofKey change path (table true ofKey [])
      return table implied dotted (items ++ [(name, inner)])
    | some (value _) => none
    | some (table impliedBelow dottedBelow below) =>
      if ofKey && !impliedBelow then none
      else do
        let inner ← alter ofKey change path (table impliedBelow dottedBelow below)
        return table implied dotted
          (items.map fun item => if item.1 = name then (name, inner) else item)

/-- Assigns a value to a free name of a table. A table made by keys of several names takes
no other assignments, and no other table takes theirs. -/
def assign? (ofKey : Bool) (name : Text) (assigned : Value) : Item → Option Item
  | value _ => none
  | table implied dotted items =>
    if dotted != ofKey then none
    else if (items.lookup name).isSome then none
    else some (table implied dotted (items ++ [(name, value assigned)]))

/-- Opens the table under a name of a table. -/
def open? (name : Text) : Item → Option Item
  | value _ => none
  | table implied dotted items =>
    match items.lookup name with
    | none => some (table implied dotted (items ++ [(name, table false false [])]))
    | some (table true false below) =>
      some (table implied dotted (items.map fun item =>
        if item.1 = name then (name, table false false below) else item))
    | some _ => none

/-- The table after the statements that follow, where `here` leads to the table that is open
now. -/
def build? : (here : List Text) → Item → List Statement → Option Item
  | _, item, [] => some item
  | here, item, .assign key assigned :: statements => do
    let name ← key.getLast?
    let way := key.dropLast
    let item ← item.alter false (alter true (assign? (!way.isEmpty) name assigned) way) here
    build? here item statements
  | _, item, .header key :: statements => do
    let name ← key.getLast?
    build? key (← item.alter false (open? name) key.dropLast) statements

/-- The table that a text writes. -/
def ofText? (text : Text) : Option Item := do build? [] root (← statementsOf? text)

end Item

end Toml

end Excision
