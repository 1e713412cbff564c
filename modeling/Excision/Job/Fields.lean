import Excision.Job.Basic

/-!
# Jobs from named values

A job file in any format comes down to a list of named values. How a value of the format is
understood is told by a `ValueReader`; which names there are, that none may stand twice and
what kind of value each of them takes is the same for all formats.
-/

namespace Excision

/-- The largest number that a setting can have. -/
def maxNumber : Nat := UInt64.size - 1

/-- How the values of a format are understood. -/
structure ValueReader (V : Type) where
  /-- Whether the value stands for a setting that is left open. -/
  isOpen : V → Bool
  /-- The value as a text. -/
  text? : V → Option Text
  /-- The value as a number. -/
  number? : V → Option Nat
  /-- The value as the name of a strategy. -/
  strategy? : V → Option StrategyName

namespace Job

/-- The job with one more setting, read from a value. -/
def set? {V : Type} (reader : ValueReader V) (job : Job) (setting : Setting) (value : V) :
    Option Job :=
  if reader.isOpen value then some job
  else
    match setting with
    | .file => (reader.text? value).map fun text => { job with file := some text }
    | .startMarker => (reader.text? value).map fun text => { job with startMarker := some text }
    | .boundaryMarker =>
      (reader.text? value).map fun text => { job with boundaryMarker := some text }
    | .indent => (reader.text? value).map fun text => { job with indent := some text }
    | .indentWidth =>
      (reader.number? value).map fun width => { job with indentWidth := some width }
    | .closingToken =>
      (reader.text? value).map fun text => { job with closingToken := some text }
    | .strategy =>
      (reader.strategy? value).map fun name => { job with strategy := some name }
    | .openToken => (reader.text? value).map fun text => { job with openToken := some text }
    | .expectOpening =>
      (reader.text? value).map fun text => { job with expectOpening := some text }

/-- The job with the settings of a list of values. -/
def setAll? {V : Type} (reader : ValueReader V) : Job → List (Setting × V) → Option Job
  | job, [] => some job
  | job, (setting, value) :: fields => do
    setAll? reader (← job.set? reader setting value) fields

/-- The job of a list of named values. Every name must be that of a setting, and none may
stand twice. -/
def ofFields? {V : Type} (reader : ValueReader V) (fields : List (Text × V)) : Option Job := do
  let named ← fields.mapM fun (name, value) => do
    return (← Setting.ofName? name, value)
  if (named.map Prod.fst).Nodup then setAll? reader {} named else none

/-- The job of a list of values without names: one for each setting, in their order. -/
def ofElements? {V : Type} (reader : ValueReader V) (values : List V) : Option Job :=
  if values.length = Setting.all.length then setAll? reader {} (Setting.all.zip values) else none

end Job

end Excision
