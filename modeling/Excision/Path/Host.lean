import Excision.Text.Basic

/-!
# Host paths

Paths as the host reads them: parts between slashes, where empty parts and parts that are a
single dot do not count, except that a path may begin with a dot. The functions here take a
path apart without asking the disk: its parent, its last part, and the paths that result
from putting a part in the place of the last one or after it.
-/

namespace Excision

namespace HostPath

/-- Whether the path begins at the root. -/
def isAbsolute (path : Text) : Bool := Text.startsWith ['/'] path

/-- The beginning of the path that is not part of its body: the root, or a dot on its own or
before a slash. -/
def anchor : Text → Text
  | '/' :: _ => ['/']
  | ['.'] => ['.']
  | '.' :: '/' :: _ => ['.']
  | _ => []

/-- Whether a part names nothing: it is empty or a single dot. -/
def isVoidPart (part : Text) : Bool := part == [] || part == ['.']

/-- The parts of the body, the last one first, from the last part on that names something. -/
def backParts (path : Text) : List Text :=
  (Text.splitAt '/' (path.drop (anchor path).length)).reverse.dropWhile isVoidPart

/-- The path without its last part. The root and the empty path have no parent. -/
def parent? (path : Text) : Option Text :=
  match backParts path with
  | [] => if anchor path = ['.'] then some [] else none
  | _ :: front =>
    some (anchor path ++ Text.joinWith '/' (front.dropWhile isVoidPart).reverse)

/-- The last part, unless it is the root or leads upwards. -/
def fileName? (path : Text) : Option Text :=
  match backParts path with
  | [] => none
  | part :: _ => if part = ['.', '.'] then none else some part

/-- The path `part` taken inside the directory `directory`. An absolute `part` stands for
itself. -/
def join (directory part : Text) : Text :=
  if isAbsolute part then part
  else if directory = [] || Text.endsWith ['/'] directory then directory ++ part
  else directory ++ '/' :: part

/-- The path with `name` in the place of its last part, or after it if the last part leads
upwards. -/
def withFileName (path name : Text) : Text :=
  match fileName? path, parent? path with
  | some _, some parent => join parent name
  | _, _ => join path name

/-- The path, its parent, the parent of that and so on, for at most `count` paths. -/
def ancestors : (count : Nat) → (path : Text) → List Text
  | 0, _ => []
  | count + 1, path =>
    path ::
      match parent? path with
      | none => []
      | some parent => ancestors count parent

end HostPath

end Excision
