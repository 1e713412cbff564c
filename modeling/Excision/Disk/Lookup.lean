import Excision.Disk.Basic
import Excision.Path.Host

/-!
# Looking paths up

Following a path on a disk, name by name. A symbolic link on the way is replaced by the path
that it holds, at most `maxLinks` times for one path; two dots lead to the directory above.
A path leads to a `Place`: an entry that exists, or the free place of a last name in a
directory that exists. `Disk.slot` stops before the last name, whatever stands there.
-/

namespace Excision

/-- How many links one path may lead through. -/
def maxLinks : Nat := 40

/-- The most bytes a name may have. -/
def maxNameBytes : Nat := 255

/-- The most bytes a path may have. -/
def maxPathBytes : Nat := 4095

/-- Where a path leads. -/
inductive Place where
  /-- To an entry at this location. -/
  | existing (location : Location)
  /-- To a free place in a directory. The path may end in a slash. -/
  | vacant (location : Location) (slash : Bool)
deriving DecidableEq, Repr

/-- The place of the last name of a path. -/
inductive Slot where
  /-- A name in a directory. The path may end in a slash. -/
  | named (location : Location) (slash : Bool)
  /-- The path ends in a dot or two dots, or has no name. -/
  | special
deriving DecidableEq, Repr

/-- Fails for a path that no operation takes. -/
def checkPath (path : Text) : Except Cause Unit :=
  if '\x00' ∈ path then .error .nulInName
  else if path = [] then .error .noSuchFile
  else if Text.byteLength path > maxPathBytes then .error .nameTooLong
  else .ok ()

namespace Disk

/-- Follows `names` from the directory `here`. A link is handed to `onLink`, with the
directory in which its path begins and the names that are then to follow; a link that comes
last is followed only if `follow` says so. -/
def steps (disk : Disk) (follow : Bool)
    (onLink : Location → List Text → Except Cause Place) :
    (here : Location) → (names : List Text) → Except Cause Place
  | here, [] => .ok (.existing here)
  | here, name :: names =>
    if !disk.isDirectory here then .error .notDirectory
    else if HostPath.isVoidPart name then disk.steps follow onLink here names
    else if name = ['.', '.'] then disk.steps follow onLink here.dropLast names
    else if Text.byteLength name > maxNameBytes then .error .nameTooLong
    else
      let next := here ++ [name]
      match disk.entry? next with
      | none =>
        if names.all List.isEmpty then .ok (.vacant next (!names.isEmpty))
        else .error .noSuchFile
      | some (.link target) =>
        if names.isEmpty && !follow then .ok (.existing next)
        else
          onLink (if HostPath.isAbsolute target then [] else here)
            (Text.splitAt '/' target ++ names)
      | some _ => disk.steps follow onLink next names

/-- Follows `names` from the directory `here` through at most `links` links. -/
def walk (disk : Disk) (follow : Bool) :
    (links : Nat) → (here : Location) → (names : List Text) → Except Cause Place
  | 0 => disk.steps follow fun _ _ => .error .tooManyLinks
  | links + 1 => disk.steps follow (disk.walk follow links)

/-- The directory in which a path begins. -/
def origin (disk : Disk) (path : Text) : Location :=
  if HostPath.isAbsolute path then [] else disk.workingDirectory

/-- Where a path leads. -/
def place (disk : Disk) (path : Text) : Except Cause Place := do
  checkPath path
  disk.walk true maxLinks (disk.origin path) (Text.splitAt '/' path)

/-- The location of the entry to which a path leads. -/
def locate (disk : Disk) (path : Text) : Except Cause Location := do
  match ← disk.place path with
  | .existing location => .ok location
  | .vacant _ _ => .error .noSuchFile

/-- The place of the last name of a path, in the directory to which the rest of it leads. -/
def slot (disk : Disk) (path : Text) : Except Cause Slot := do
  checkPath path
  let names := (Text.splitAt '/' path).reverse
  match names.dropWhile List.isEmpty with
  | [] => .ok .special
  | last :: front =>
    match ← disk.walk true maxLinks (disk.origin path) front.reverse with
    | .vacant _ _ => .error .noSuchFile
    | .existing directory =>
      if !disk.isDirectory directory then .error .notDirectory
      else if last = ['.'] || last = ['.', '.'] then .ok .special
      else if Text.byteLength last > maxNameBytes then .error .nameTooLong
      else .ok (.named (directory ++ [last]) ((names.head?.map List.isEmpty).getD false))

/-- Whether a path leads to a directory. -/
def leadsToDirectory (disk : Disk) (path : Text) : Bool :=
  match disk.locate path with
  | .ok location => disk.isDirectory location
  | .error _ => false

end Disk

/-- The absolute path of a location. -/
def Location.path (location : Location) : Text := '/' :: Text.joinWith '/' location

end Excision
