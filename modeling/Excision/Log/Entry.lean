import Excision.Report

/-!
# Log entries

The form that a report takes in the log: a level, the part of the program from which it
comes, a message and named fields. A line of the log shows them in this order, and the part
of the program only where that is asked for.
-/

namespace Excision

/-- How important an entry is, the most important level first. -/
inductive LogLevel where
  | error
  | warn
  | info
  | debug
  | trace
deriving DecidableEq, Repr

namespace LogLevel

/-- The position of a level. -/
def rank : LogLevel → Nat
  | error => 1
  | warn => 2
  | info => 3
  | debug => 4
  | trace => 5

/-- The name of a level in log lines. -/
def name : LogLevel → Text
  | error => "ERROR".toList
  | warn => "WARN".toList
  | info => "INFO".toList
  | debug => "DEBUG".toList
  | trace => "TRACE".toList

end LogLevel

/-- An entry of the log. -/
structure LogEntry where
  level : LogLevel
  /-- The part of the program from which the entry comes. -/
  target : Text
  message : Text
  /-- The names of the fields with the values that they have, as they are shown. A field can
  be without a value, and is not shown then. -/
  fields : List (Text × Option Text)
deriving DecidableEq, Repr

namespace LogEntry

/-- The names of everything that the entry can show, the message among them. -/
def fieldNames (entry : LogEntry) : List Text :=
  "message".toList :: entry.fields.map Prod.fst

/-- The line that shows an entry. -/
def line (showTarget : Bool) (entry : LogEntry) : Text :=
  entry.level.name ++ ' ' :: (if showTarget then entry.target ++ [':', ' '] else [])
    ++ entry.message
    ++ entry.fields.flatMap fun
      | (name, some value) => ' ' :: name ++ '=' :: value
      | (_, none) => []

end LogEntry

/-! ### Jobs -/

/-- An optional value, as log lines show it. -/
def showOption {α : Type} (render : α → Text) : Option α → Text
  | none => "None".toList
  | some value => "Some(".toList ++ render value ++ [')']

/-- The name of a strategy, as log lines show it. -/
def StrategyName.display : StrategyName → Text
  | first => "First".toList
  | balanced => "Balanced".toList

/-- What is set under a setting, as log lines show it. -/
def Job.displaySetting (job : Job) : Setting → Text
  | .file => showOption Text.quotePath job.file
  | .startMarker => showOption Text.quote job.startMarker
  | .boundaryMarker => showOption Text.quote job.boundaryMarker
  | .indent => showOption Text.quote job.indent
  | .indentWidth => showOption Text.ofNat job.indentWidth
  | .closingToken => showOption Text.quote job.closingToken
  | .strategy => showOption StrategyName.display job.strategy
  | .openToken => showOption Text.quote job.openToken
  | .expectOpening => showOption Text.quote job.expectOpening

/-- A job, as log lines show it. -/
def Job.display (job : Job) : Text :=
  let settings := Setting.all.map fun setting =>
    setting.name ++ [':', ' '] ++ job.displaySetting setting
  "RemovalJob \x7b ".toList ++ [',', ' '].intercalate settings ++ " \x7d".toList

/-! ### Reports -/

/-- The log entry of an event of the search for a block. -/
def BlockEvent.entry : BlockEvent → LogEntry
  | markersLocated start boundary =>
    ⟨.debug, "blockcut_span::resolver".toList, "markers located".toList,
      [("start".toList, some (Text.ofNat start)),
        ("boundary".toList, some (Text.ofNat boundary))]⟩
  | openingMissing line expected found =>
    ⟨.warn, "blockcut_span::resolver".toList,
      "line after start marker does not contain the expected opening".toList,
      [("line".toList, some (Text.ofNat line)), ("expected".toList, some expected.quote),
        ("found".toList, found.map Text.quote)]⟩
  | spanResolved span strategy =>
    ⟨.debug, "blockcut_span::resolver".toList, "span resolved".toList,
      [("span".toList, some span.display), ("strategy".toList, some strategy.display)]⟩
  | openTokenUnused openToken =>
    ⟨.warn, "blockcut_span::job".toList,
      "opening token only applies to the balanced strategy".toList,
      [("open_token".toList, some openToken.quote)]⟩

/-- The log entry of a report. -/
def Report.entry : Report → LogEntry
  | verboseEnabled => ⟨.debug, "blockcut::logging".toList, "verbose mode enabled".toList, []⟩
  | jobFileRead path format =>
    ⟨.debug, "blockcut_fs::config".toList, "loading config".toList,
      [("path".toList, some path.text), ("format".toList, some format.label.quote)]⟩
  | effectiveJob job =>
    ⟨.debug, "blockcut::commands".toList, "effective removal job".toList,
      [("job".toList, some job.display)]⟩
  | documentLoaded path lines =>
    ⟨.debug, "blockcut_fs::document".toList, "loaded document".toList,
      [("path".toList, some path.text), ("lines".toList, some (Text.ofNat lines))]⟩
  | block event => event.entry
  | fileWritten path target bytes =>
    ⟨.debug, "blockcut_fs::io".toList, "wrote file atomically".toList,
      [("path".toList, some path.text), ("target".toList, some target),
        ("bytes".toList, some (Text.ofNat bytes))]⟩
  | blockRemoved path lines =>
    ⟨.info, "blockcut::commands::remove".toList, "block removed".toList,
      [("path".toList, some path.text), ("removed".toList, some (Text.ofNat lines))]⟩

end Excision
