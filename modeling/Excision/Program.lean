import Excision.Command.Words
import Excision.Log.Filter

/-!
# The program

A run of the program, as the words of the command line and the settings of the environment
decide it: either words that make no command, which are answered at once, or a script whose
result is the exit status, and the lines of the log that are shown of its reports.
-/

namespace Excision

/-- The settings of the environment that the program looks at. -/
structure Environment where
  /-- The path of the document, where the command line names none. -/
  document : Option Text := none
  /-- Which log entries are shown, unless the command line asks for everything. -/
  logFilter : Option Text := none
  /-- Whether colours are refused. -/
  noColour : Option Text := none
  /-- Whether colours are asked for wherever the output goes. -/
  forceColour : Option Text := none
deriving DecidableEq, Repr

namespace Environment

/-- The settings found by looking up the names of variables. -/
def ofLookup {m : Type → Type} [Monad m] (lookup : Text → m (Option Text)) : m Environment := do
  return {
    document := ← lookup "BLOCKCUT_FILE".toList
    logFilter := ← lookup "RUST_LOG".toList
    noColour := ← lookup "NO_COLOR".toList
    forceColour := ← lookup "CLICOLOR_FORCE".toList }

/-- Whether the output is coloured where it does not go to a terminal: only if that is asked
for with anything but a zero. -/
def coloursOutput (environment : Environment) : Bool :=
  environment.forceColour.any (· != ['0'])

/-- Whether the lines of the log are coloured: unless colours are refused with anything but
the empty text. -/
def coloursLog (environment : Environment) : Bool := environment.noColour.all (· == [])

end Environment

/-- A run of the program. -/
structure Program where
  /-- What it does. The result is the exit status. -/
  script : Script Nat
  /-- Which log entries it shows. -/
  filter : LogFilter
  /-- Whether its log lines name the part of the program. -/
  showsTargets : Bool

namespace Program

/-- The exit status for words that cannot be understood. -/
def misuseStatus : Nat := 2

/-- The line that tells the version. -/
def versionLine : Text := "blockcut 0.1.0".toList

/-- A short account of the command line. -/
def usage : List Text :=
  ["Usage: blockcut [-v] <remove|show> [FILE] [OPTIONS]".toList,
    "  -c, --config PATH           job file (.toml, .json, .yaml)".toList,
    "  -s, --start TEXT            text on the first line of the block".toList,
    "  -b, --boundary TEXT         text on a line after the block".toList,
    "      --indent TEXT           white space before the closing token".toList,
    "  -w, --indent-width N        the same as a number of spaces".toList,
    "      --closing TEXT          closing token".toList,
    "      --strategy NAME         first or balanced".toList,
    "      --open TEXT             opening token of the balanced strategy".toList,
    "      --expect-opening TEXT   text expected on the second line".toList,
    "      --dry-run               remove only: write nothing".toList,
    "  -v, --verbose               log everything".toList]

/-- The run of an invocation by a process with this number. -/
def ofInvocation (process : Nat) (environment : Environment) (invocation : Invocation) :
    Program where
  script := do
    if invocation.verbose then Script.request (.report .verboseEnabled)
    invocation.command.script process environment.coloursOutput
  filter :=
    if invocation.verbose then .upTo .debug else .ofSetting environment.logFilter
  showsTargets := invocation.verbose

/-- The run that the words of the command line ask for. -/
def ofWords (process : Nat) (environment : Environment) (words : List Text) :
    Except Refusal Program :=
  (Invocation.ofWords environment.document words).map (ofInvocation process environment)

/-- The line of the log for a report, if it is shown. -/
def logLine? (program : Program) (report : Report) : Option Text :=
  if program.filter.shows report.entry then some (report.entry.line program.showsTargets) else none

/-- The lines of the log for reports. -/
def logLines (program : Program) (reports : List Report) : List Text :=
  reports.filterMap program.logLine?

end Program

end Excision
