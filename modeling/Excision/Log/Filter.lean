import Excision.Log.Entry
import Excision.Text.Blank
import Excision.Text.Digits

/-!
# Log filters

Which entries of the log are shown. A filter is a list of directives between commas, such as
`info` or `blockcut_fs=debug`: each has a threshold and may be bound to the entries of one
part of the program, named by the beginning of its name, or to those with a certain field.
Of the directives that concern an entry the most specific one decides; an entry that none
concerns is not shown.
-/

namespace Excision

/-- The least important level that is shown. With `none`, nothing is. -/
abbrev Threshold := Option LogLevel

namespace Threshold

/-- Whether entries of a level are shown. -/
def admits (threshold : Threshold) (level : LogLevel) : Bool :=
  threshold.any (level.rank ≤ ·.rank)

/-- The threshold of a number: nothing for zero, and one level more for each one up. -/
def ofNumber? : Nat → Option Threshold
  | 0 => some none
  | 1 => some (some .error)
  | 2 => some (some .warn)
  | 3 => some (some .info)
  | 4 => some (some .debug)
  | 5 => some (some .trace)
  | _ => none

/-- The threshold of a name in small letters. -/
def ofName? (name : Text) : Option Threshold :=
  if name = ['o', 'f', 'f'] then some none
  else ([.error, .warn, .info, .debug, .trace].find? fun level : LogLevel =>
    level.name.lowerAscii == name).map some

/-- The threshold that a text writes: a number, or a name in capital or small letters. -/
def ofText? (text : Text) : Option Threshold :=
  match digitsNumber? 10 ((Text.dropHead? ['+'] text).getD text) with
  | some n => ofNumber? n
  | none => ofName? text.lowerAscii

end Threshold

/-- A directive of a filter. -/
structure LogDirective where
  threshold : Threshold
  /-- The beginning of the part of the program that the directive concerns. -/
  target : Option Text := none
  /-- The fields that an entry must have. -/
  fields : List Text := []
  /-- Whether the directive asks for more than an entry shows by itself, so that it concerns
  none. -/
  outOfReach : Bool := false
deriving DecidableEq, Repr

namespace LogDirective

/-- Whether a directive can begin with `c`. -/
def isFirstChar (c : Char) : Bool :=
  c.isAlphanum || c == '-' || c == ':' || c == '_' || 128 ≤ c.toNat

/-- The directive with the threshold that stands after it. There may be none, and then
everything is shown. -/
def withThreshold? (directive : LogDirective) : Text → Option LogDirective
  | [] | ['='] => some { directive with threshold := some .trace }
  | '=' :: text =>
    (Threshold.ofText? text).map fun threshold => { directive with threshold }
  | _ => none

/-- The directive with what follows an opening bracket: a context in which entries must
stand, or a field between braces that they must have, which may ask for a value. -/
def withBracket? (directive : LogDirective) (text : Text) : Option LogDirective :=
  let context := text.takeWhile fun c => c != ']' && c != '\x7b'
  match text.drop context.length with
  | ']' :: rest => { directive with outOfReach := true }.withThreshold? rest
  | '\x7b' :: rest =>
    let field := rest.takeWhile (· != '\x7d')
    let name := field.takeWhile (· != '=')
    match rest.drop field.length with
    | '\x7d' :: ']' :: rest =>
      if field = [] then none
      else
        { directive with
          fields := [name]
          outOfReach := context != [] || name != field }.withThreshold? rest
    | _ => none
  | _ => none

/-- The directive that a text writes. A word on its own is a threshold if it is one, and
otherwise a part of the program of which everything is shown. -/
def ofText? (text : Text) : Option LogDirective :=
  let text := Text.trim text
  let word := text.takeWhile fun c => c != '=' && c != '['
  if !text.head?.any (fun c => c == '[' || isFirstChar c) then none
  else
    match text.drop word.length with
    | [] =>
      match Threshold.ofText? word with
      | some threshold => some { threshold }
      | none => some { threshold := some .trace, target := some word }
    | '[' :: rest =>
      { threshold := some .trace
        target := if word = [] then none else some word : LogDirective }.withBracket? rest
    | rest => { threshold := some .trace, target := some word : LogDirective }.withThreshold? rest

/-- Whether a directive concerns an entry. -/
def concerns (directive : LogDirective) (entry : LogEntry) : Bool :=
  !directive.outOfReach && directive.target.all (Text.startsWith · entry.target)
    && directive.fields.all entry.fieldNames.contains

/-- How specific a directive is: by the length of its target, one without being the least,
and then by its fields. -/
def specificity (directive : LogDirective) : Nat × Nat :=
  ((directive.target.map fun target => Text.byteLength target + 1).getD 0,
    directive.fields.length)

/-- Whether a directive goes before another one that is written before it and concerns the
same entry. Of two that are equally specific, that goes before whose field comes later, or
the one that is written later. -/
def outranks (directive other : LogDirective) : Bool :=
  let (target, fields) := directive.specificity
  let (otherTarget, otherFields) := other.specificity
  otherTarget < target
    || otherTarget == target
      && (otherFields < fields
        || otherFields == fields && Text.precedes other.fields.flatten directive.fields.flatten)

end LogDirective

/-- Which entries are shown. -/
abbrev LogFilter := List LogDirective

namespace LogFilter

/-- The filter that shows everything up to a level. -/
def upTo (level : LogLevel) : LogFilter := [{ threshold := some level }]

/-- The filter that a text writes. Nothing between two commas is no directive. -/
def ofText? (text : Text) : Option LogFilter :=
  ((Text.splitAt ',' text).filter (· != [])).mapM LogDirective.ofText?

/-- The filter in force: that of the setting in the environment, and without one, or with
one that cannot be read, the filter for warnings. -/
def ofSetting (setting : Option Text) : LogFilter :=
  (setting.bind ofText?).getD (upTo .warn)

/-- The directive that decides about an entry. -/
def decisive? (filter : LogFilter) (entry : LogEntry) : Option LogDirective :=
  (filter.filter (·.concerns entry)).foldl
    (fun best directive =>
      if best.all directive.outranks then some directive else best)
    none

/-- Whether an entry is shown. -/
def shows (filter : LogFilter) (entry : LogEntry) : Bool :=
  (filter.decisive? entry).any (·.threshold.admits entry.level)

end LogFilter

end Excision
