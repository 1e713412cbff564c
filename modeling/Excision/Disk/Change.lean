import Excision.Disk.Lookup

/-!
# Operations on a disk

Reading files, making directories, opening a file for writing, writing to an open file,
setting its permission bits, moving and removing entries. Each operation is one step: it
either fails and leaves the disk alone or succeeds and gives the disk after it. Making a
directory together with those above it is the one that consists of several steps, and it can
fail after some of them.
-/

namespace Excision

/-- The bytes of a file after `new` has been written over its first bytes. -/
def overwrite (old new : ByteArray) : ByteArray :=
  if old.size ≤ new.size then new else new ++ old.extract new.size old.size

namespace Disk

/-- The disk with no entries but those whose absolute paths can be looked up. -/
def addressable (disk : Disk) : Disk :=
  { disk with nodes := disk.nodes.filter fun item =>
      Text.byteLength (Location.path item.1) ≤ maxPathBytes }

/-- The canonical absolute path of the entry to which a path leads. All that the path leads
through is looked up under its own absolute path, which may be too long where the path
itself is not. -/
def canonicalize (disk : Disk) (path : Text) : Except Cause Text := do
  let location ← disk.locate path
  match disk.addressable.locate path with
  | .ok _ => .ok location.path
  | .error _ => .error .nameTooLong

/-- The permission bits of the entry to which a path leads. -/
def mode (disk : Disk) (path : Text) : Except Cause Nat := do
  match disk.entry? (← disk.locate path) with
  | some (.file _ mode) => .ok mode
  | some (.directory mode) => .ok mode
  | _ => .error .noSuchFile

/-- The bytes of the file to which a path leads. -/
def readBytes (disk : Disk) (path : Text) : Except Cause ByteArray := do
  match disk.entry? (← disk.locate path) with
  | some (.file content _) => .ok content
  | some (.directory _) => .error .isDirectory
  | _ => .error .noSuchFile

/-- Makes the directory of a path. -/
def makeDirectory (disk : Disk) (path : Text) : Except Cause Disk := do
  match ← disk.slot path with
  | .special => .error .fileExists
  | .named location _ =>
    match disk.entry? location with
    | some _ => .error .fileExists
    | none => .ok (disk.create location (.directory disk.newDirectoryMode))

/-- Makes the directory at the head of a list of paths, each the parent of the one before
it. A parent that does not exist is made first. A directory that exists already is no
failure. -/
def makeDirectories (disk : Disk) : List Text → Except Cause Unit × Disk
  | [] => (.error .noSuchFile, disk)
  | path :: parents =>
    if path = [] then (.ok (), disk)
    else
      match disk.makeDirectory path with
      | .ok disk => (.ok (), disk)
      | .error .noSuchFile =>
        match disk.makeDirectories parents with
        | (.error cause, disk) => (.error cause, disk)
        | (.ok (), disk) =>
          match disk.makeDirectory path with
          | .ok disk => (.ok (), disk)
          | .error cause => (if disk.leadsToDirectory path then .ok () else .error cause, disk)
      | .error cause => (if disk.leadsToDirectory path then .ok () else .error cause, disk)

/-- Makes the directory of a path and those above it. -/
def makeDirectoryTree (disk : Disk) (path : Text) : Except Cause Unit × Disk :=
  disk.makeDirectories (HostPath.ancestors (path.length + 1) path)

/-- Opens the file to which a path leads for writing and empties it, or makes it. The answer
is the serial number of the file. A link to a free place makes the file there. -/
def openTruncated (disk : Disk) (path : Text) : Except Cause (Nat × Disk) := do
  match ← disk.place path with
  | .vacant location slash =>
    if slash then .error .isDirectory
    else .ok (disk.freshSerial, disk.create location (.file .empty disk.newFileMode))
  | .existing location =>
    match disk.node? location with
    | some ⟨serial, .file _ mode⟩ =>
      .ok (serial, disk.modify serial fun _ => .file .empty mode)
    | _ => .error .isDirectory

/-- Writes bytes over the beginning of an open file. A file that has been removed keeps
nothing. -/
def write (disk : Disk) (serial : Nat) (bytes : ByteArray) : Disk :=
  disk.modify serial fun
    | .file content mode => .file (overwrite content bytes) mode
    | entry => entry

/-- Sets the permission bits of an open file. -/
def setMode (disk : Disk) (serial mode : Nat) : Disk :=
  disk.modify serial fun
    | .file content _ => .file content mode
    | entry => entry

/-- Moves a file or a link to another name, over the file or link that stands there.
Neither name is followed if it is a link. Nothing is moved if both names are names of the
same node already. -/
def rename (disk : Disk) (source target : Text) : Except Cause Disk := do
  let sourceSlot ← disk.slot source
  let targetSlot ← disk.slot target
  match sourceSlot, targetSlot with
  | .named sourceLocation sourceSlash, .named targetLocation targetSlash =>
    match disk.node? sourceLocation with
    | none => .error .noSuchFile
    | some ⟨_, .directory _⟩ => .error .isDirectory
    | some node =>
      if sourceSlash || targetSlash then .error .notDirectory
      else if disk.isDirectory targetLocation then .error .isDirectory
      else if (disk.node? targetLocation).map Node.serial = some node.serial then .ok disk
      else .ok ((disk.erase sourceLocation).setNode targetLocation node)
  | _, _ => .error .busy

/-- Removes the file or link of a path. Anything else is left alone. -/
def remove (disk : Disk) (path : Text) : Disk :=
  match disk.slot path with
  | .ok (.named location false) =>
    if disk.isDirectory location then disk else disk.erase location
  | _ => disk

/-- Makes a link to `target` under a free name. -/
def makeLink (disk : Disk) (path target : Text) : Except Cause Disk := do
  match ← disk.slot path with
  | .named location false =>
    match disk.entry? location with
    | some _ => .error .fileExists
    | none => .ok (disk.create location (.link target))
  | _ => .error .fileExists

/-- Sets the permission bits of the entry to which a path leads. -/
def changeMode (disk : Disk) (path : Text) (mode : Nat) : Except Cause Disk := do
  let location ← disk.locate path
  match disk.node? location with
  | none => .ok disk
  | some node =>
    .ok (disk.modify node.serial fun
      | .file content _ => .file content mode
      | .directory _ => .directory mode
      | .link target => .link target)

/-- Puts an entry at a path, together with the directories above it. A file is written over
the one to which the path leads. -/
def install (disk : Disk) (path : Text) (entry : Entry) : Except Cause Disk := do
  match entry with
  | .directory _ => discharge (disk.makeDirectoryTree path)
  | .link target => (← withParent).makeLink path target
  | .file content mode =>
    let (serial, opened) ← (← withParent).openTruncated path
    .ok ((opened.write serial content).setMode serial mode)
where
  /-- The disk after a step that must not have failed. -/
  discharge : Except Cause Unit × Disk → Except Cause Disk
    | (.ok (), disk) => .ok disk
    | (.error cause, _) => .error cause
  /-- The disk with the directory above the path. -/
  withParent : Except Cause Disk :=
    match HostPath.parent? path with
    | some parent => discharge (disk.makeDirectoryTree parent)
    | none => .ok disk

/-- The entries below a directory under their paths from it, in the order of the paths. -/
def listing (disk : Disk) (directory : Location) : List (Text × Entry) :=
  let inside := disk.nodes.filterMap fun (location, node) =>
    if directory.isPrefixOf location && location != directory then
      some (Text.joinWith '/' (location.drop directory.length), node.entry)
    else none
  inside.mergeSort fun a b => Text.precedes a.1 b.1

end Disk

end Excision
