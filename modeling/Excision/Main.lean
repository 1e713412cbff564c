import Excision.Program

/-!
# The command line

Runs the program on the disk of the host. Every request of a script is handed on, and the
answer says whether it has been done; the log goes to the error output as it comes about. The
host sets permission bits but does not tell them. Rather than lose those of a file it answers
that they cannot be found, and the file is not replaced.
-/

namespace Excision

namespace Host

/-- The cause that a failure of the host stands for. -/
def causeOf : IO.Error → Cause
  | .noFileOrDirectory .. => .noSuchFile
  | .resourceBusy .. => .busy
  | .alreadyExists .. => .fileExists
  | .inappropriateType _ 20 _ => .notDirectory
  | .inappropriateType _ 21 _ => .isDirectory
  | .invalidArgument _ 36 _ => .nameTooLong
  | .invalidArgument _ 40 _ => .tooManyLinks
  | failure => .host (toString failure).toList

/-- The outcome of an action of the host. -/
def attempt {α : Type} (action : IO α) : IO (Except Cause α) := do
  match ← action.toBaseIO with
  | .ok value => return .ok value
  | .error failure => return .error (causeOf failure)

/-- The open files and their paths, each at the position of its serial number. -/
abbrev OpenFiles := Array (String × IO.FS.Handle)

/-- Does something with an open file and its path. -/
def withFile (files : OpenFiles) (serial : Nat) (action : String → IO.FS.Handle → IO Unit) :
    IO (Except Cause Unit) :=
  match files[serial]? with
  | some (path, file) => attempt (action path file)
  | none => return .error (.host "the file is not open".toList)

/-- What a digit of permission bits allows. -/
def accessRight (digit : Nat) : IO.AccessRight where
  read := digit &&& 4 != 0
  write := digit &&& 2 != 0
  execution := digit &&& 1 != 0

/-- What permission bits allow the owner of a file, its group and others. -/
def fileRight (mode : Nat) : IO.FileRight where
  user := accessRight (mode / 64)
  group := accessRight (mode / 8)
  other := accessRight mode

/-- Answers a request. -/
def answer (program : Program) (files : OpenFiles) :
    (request : Request) → IO (request.Answer × OpenFiles)
  | .canonicalize path => do
    let resolved ← attempt (IO.FS.realPath (String.ofList path))
    return (resolved.map fun path => path.toString.toList, files)
  | .mode _ => return (.error (.host "the permission bits cannot be found".toList), files)
  | .readBytes path => return (← attempt (IO.FS.readBinFile (String.ofList path)), files)
  | .makeDirectoryTree path =>
    return (← attempt (IO.FS.createDirAll (String.ofList path)), files)
  | .openTruncated path => do
    let path := String.ofList path
    match ← attempt (IO.FS.Handle.mk path .write) with
    | .ok file => return (.ok files.size, files.push (path, file))
    | .error cause => return (.error cause, files)
  | .lock serial => return (← withFile files serial fun _ file => file.lock, files)
  | .write serial bytes => return (← withFile files serial fun _ file => file.write bytes, files)
  | .setMode serial mode =>
    return (← withFile files serial fun path _ => IO.setAccessRights path (fileRight mode), files)
  | .sync serial => return (← withFile files serial fun _ file => file.flush, files)
  | .unlock serial => return (← withFile files serial fun _ file => file.unlock, files)
  | .rename source target =>
    return (← attempt (IO.FS.rename (String.ofList source) (String.ofList target)), files)
  | .remove path => do
    let _ ← attempt (IO.FS.removeFile (String.ofList path))
    return ((), files)
  | .print text => do
    IO.print (String.ofList text)
    return ((), files)
  | .report report => do
    if let some line := program.logLine? report then IO.eprintln (String.ofList line)
    return ((), files)

/-- Runs a script. -/
def run {α : Type} (program : Program) : Script α → OpenFiles → IO α
  | .done value, _ => return value
  | .ask request next, files => do
    let (answer, files) ← answer program files request
    run program (next answer) files

/-- The number of the process, which is the name of its own directory among those of all
processes. -/
def process : IO Nat := do
  match ← attempt (IO.FS.realPath "/proc/self") with
  | .ok path =>
    return (digitsNumber? 10 ((HostPath.fileName? path.toString.toList).getD [])).getD 0
  | .error _ => return 0

/-- Runs the command that the words of the command line ask for. The result is the exit
status. -/
def runWords (words : List Text) : IO UInt32 := do
  let environment ← Environment.ofLookup fun name => do
    return (← IO.getEnv (String.ofList name)).map String.toList
  match Program.ofWords (← process) environment words with
  | .ok program => return UInt32.ofNat (← run program program.script #[])
  | .error .version =>
    IO.println (String.ofList Program.versionLine)
    return 0
  | .error .help =>
    Program.usage.forM fun line => IO.println (String.ofList line)
    return 0
  | .error .misuse =>
    Program.usage.forM fun line => IO.eprintln (String.ofList line)
    return UInt32.ofNat Program.misuseStatus

end Host

end Excision

/-- Runs the program. -/
def main (words : List String) : IO UInt32 := Excision.Host.runWords (words.map String.toList)
