import Excision.Text.Basic

/-!
# Disks

A disk is a tree of directories, files and symbolic links. It is kept as a list of nodes,
each under its location: the names that lead to it from the root. A node has a serial
number, which it keeps when it is moved, so that an open file can be told apart from another
one that takes its place. `Disk.entry?` is the view by which operations are described.
Permission bits are kept with the files and directories, and no operation is refused for
them.
-/

namespace Excision

/-- Why an operation on the disk fails. -/
inductive Cause where
  | noSuchFile
  | busy
  | fileExists
  | notDirectory
  | isDirectory
  | nameTooLong
  | tooManyLinks
  | notText
  | nulInName
  /-- A failure that the disk of this library does not know, with the text of the host. -/
  | host (text : Text)
deriving DecidableEq, Repr

/-- The message for a cause. -/
def Cause.message : Cause → Text
  | noSuchFile => "No such file or directory (os error 2)".toList
  | busy => "Device or resource busy (os error 16)".toList
  | fileExists => "File exists (os error 17)".toList
  | notDirectory => "Not a directory (os error 20)".toList
  | isDirectory => "Is a directory (os error 21)".toList
  | nameTooLong => "File name too long (os error 36)".toList
  | tooManyLinks => "Too many levels of symbolic links (os error 40)".toList
  | notText => "stream did not contain valid UTF-8".toList
  | nulInName => "file name contained an unexpected NUL byte".toList
  | host text => text

/-- The names that lead from the root to a place. -/
abbrev Location := List Text

/-- What stands at a location. -/
inductive Entry where
  /-- A file with its bytes and its permission bits. -/
  | file (content : ByteArray) (mode : Nat)
  /-- A directory with its permission bits. -/
  | directory (mode : Nat)
  /-- A symbolic link to a path. -/
  | link (target : Text)

/-- The permission bits of the root. -/
def rootMode : Nat := 0o755

/-- An entry with the serial number of its node. -/
structure Node where
  /-- The number that the node keeps wherever it is moved. -/
  serial : Nat
  /-- What the node is. -/
  entry : Entry

/-- A tree of entries. -/
structure Disk where
  /-- The nodes under their locations. -/
  nodes : List (Location × Node) := []
  /-- A number above those of all nodes that have been made. -/
  nextSerial : Nat := 0
  /-- The directory in which relative paths begin. -/
  workingDirectory : Location := []
  /-- The permission bits that are kept from new files and directories. -/
  umask : Nat := 0o022

namespace Disk

/-- The permission bits of a new file. -/
def newFileMode (disk : Disk) : Nat := 0o666 - (0o666 &&& disk.umask)

/-- The permission bits of a new directory. -/
def newDirectoryMode (disk : Disk) : Nat := 0o777 - (0o777 &&& disk.umask)

/-- The node at a location. -/
def node? (disk : Disk) (location : Location) : Option Node := disk.nodes.lookup location

/-- The entry at a location. The root is a directory. -/
def entry? (disk : Disk) (location : Location) : Option Entry :=
  if location = [] then some (.directory rootMode)
  else (disk.node? location).map Node.entry

/-- Whether a directory stands at the location. -/
def isDirectory (disk : Disk) (location : Location) : Bool :=
  match disk.entry? location with
  | some (.directory _) => true
  | _ => false

/-- A serial number that no node has or had. -/
def freshSerial (disk : Disk) : Nat :=
  disk.nodes.foldr (fun item bound => max (item.2.serial + 1) bound) disk.nextSerial

/-- The disk with a node put at a location. -/
def setNode (disk : Disk) (location : Location) (node : Node) : Disk :=
  { disk with nodes := (location, node) :: disk.nodes.filter fun item => item.1 != location }

/-- The disk without the node at a location. -/
def erase (disk : Disk) (location : Location) : Disk :=
  { disk with nodes := disk.nodes.filter fun item => item.1 != location }

/-- The disk with a new entry at a location, under a fresh serial number. -/
def create (disk : Disk) (location : Location) (entry : Entry) : Disk :=
  let serial := disk.freshSerial
  { disk.setNode location ⟨serial, entry⟩ with nextSerial := serial + 1 }

/-- The disk with the entries of the nodes of this serial number changed. -/
def modify (disk : Disk) (serial : Nat) (change : Entry → Entry) : Disk :=
  { disk with nodes := disk.nodes.map fun item =>
      if item.2.serial = serial then (item.1, { item.2 with entry := change item.2.entry })
      else item }

end Disk

end Excision
