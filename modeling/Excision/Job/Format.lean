import Excision.Path.Slash

/-!
# Job file formats

The formats in which a job may be written, and the file extensions that announce them.
-/

namespace Excision

/-- A format of job files. -/
inductive JobFormat where
  | toml
  | json
  | yaml
deriving DecidableEq, Repr

namespace JobFormat

/-- The name of a format in messages. -/
def label : JobFormat → Text
  | toml => "TOML".toList
  | json => "JSON".toList
  | yaml => "YAML".toList

/-- The format of an extension written in small letters. -/
def ofLowerExtension? (extension : Text) : Option JobFormat :=
  if extension = ['t', 'o', 'm', 'l'] then some toml
  else if extension = ['j', 's', 'o', 'n'] then some json
  else if extension = ['y', 'a', 'm', 'l'] || extension = ['y', 'm', 'l'] then some yaml
  else none

/-- The format of an extension, in capital or small letters. Of the letters outside ASCII
none has one of the letters of the extensions as its small form. -/
def ofExtension? (extension : Text) : Option JobFormat :=
  ofLowerExtension? extension.lowerAscii

/-- The extension of a path that decides its format, which is empty where there is none. -/
def extensionOf (path : SlashPath) : Text := path.extension?.getD []

end JobFormat

end Excision
