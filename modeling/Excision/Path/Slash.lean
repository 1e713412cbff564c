import Excision.Text.Basic

/-!
# Slash paths

A path in the form in which documents and job files are named: every backslash is turned
into a slash. The file name is the last part that is not empty, and the extension is what
follows the last dot of it, unless that dot comes first.
-/

namespace Excision

/-- A path with slashes between its parts. -/
structure SlashPath where
  /-- The path as text. -/
  text : Text
deriving DecidableEq, Repr

namespace SlashPath

/-- The path of a text, with every backslash turned into a slash. -/
def ofText (text : Text) : SlashPath := ⟨text.map fun c => if c = '\\' then '/' else c⟩

/-- The last part of the path, without the slashes that may follow it. -/
def fileName? (path : SlashPath) : Option Text :=
  let name := ((path.text.reverse.dropWhile (· == '/')).takeWhile (· != '/')).reverse
  if name = [] then none else some name

/-- The part of the file name after its last dot. A file name without a dot, or with none
but the first character, has no extension. -/
def extension? (path : SlashPath) : Option Text := do
  let name ← path.fileName?
  match name.reverse.dropWhile (· != '.') with
  | [] => none
  | [_] => none
  | _ => some (name.reverse.takeWhile (· != '.')).reverse

end SlashPath

end Excision
