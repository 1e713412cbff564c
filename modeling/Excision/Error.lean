import Excision.Span
import Excision.Strategy

/-!
# Errors

Why a block cannot be found or removed, and the message for each cause.
-/

namespace Excision

/-- The two markers. -/
inductive Marker where
  | start
  | boundary
deriving DecidableEq, Repr

/-- The word for a marker in messages. -/
def Marker.toText : Marker → Text
  | start => "start".toList
  | boundary => "boundary".toList

/-- The settings of a job. -/
inductive Setting where
  | file
  | startMarker
  | boundaryMarker
  | indent
  | indentWidth
  | closingToken
  | strategy
  | openToken
  | expectOpening
deriving DecidableEq, Repr

namespace Setting

/-- The name under which job files and messages know a setting. -/
def name : Setting → Text
  | file => "file".toList
  | startMarker => "start_marker".toList
  | boundaryMarker => "boundary_marker".toList
  | indent => "indent".toList
  | indentWidth => "indent_width".toList
  | closingToken => "closing_token".toList
  | strategy => "strategy".toList
  | openToken => "open_token".toList
  | expectOpening => "expect_opening".toList

/-- All settings, in the order in which a job without names lists them. -/
def all : List Setting :=
  [file, startMarker, boundaryMarker, indent, indentWidth, closingToken, strategy, openToken,
    expectOpening]

/-- The setting of this name. -/
def ofName? (text : Text) : Option Setting := all.find? fun setting => setting.name == text

end Setting

/-- What is wrong with an indent. -/
inductive IndentFault where
  /-- It is empty. -/
  | empty
  /-- It holds something other than spaces and tabs. -/
  | notBlank
  /-- It is given both as a text and as a width. -/
  | twoForms
deriving DecidableEq, Repr

/-- The reason that messages give for a fault of an indent. -/
def IndentFault.reason : IndentFault → Text
  | empty => "indent prefix must not be empty".toList
  | notBlank => "indent prefix may only contain spaces and tabs".toList
  | twoForms => "`indent` and `indent_width` are mutually exclusive".toList

/-- Why a block cannot be found or removed. -/
inductive BlockError where
  /-- No line holds the marker. -/
  | markerNotFound (which : Marker) (marker : Text)
  /-- The marker is the empty text, which every line holds. -/
  | emptyMarker (which : Marker)
  /-- None of the lines `first` to `limit` ends the block. -/
  | noClosingLine (expected : Text) (first limit : Nat)
  /-- The indent cannot be used. -/
  | invalidIndent (indent : Text) (fault : IndentFault)
  /-- The start line is not indented by a part of the indent. -/
  | indentMismatch (line : Nat) (found indent : Text)
  /-- The closing token is empty. -/
  | emptyClosingToken
  /-- The opening token is blank. -/
  | blankOpenToken
  /-- A setting that the job needs is not given. -/
  | missingSetting (setting : Setting)
  /-- No strategy has this name. -/
  | unknownStrategy (name : Text)
  /-- The span is not one of a document with `length` lines. -/
  | spanOutOfRange (span : Span) (length : Nat)
deriving DecidableEq, Repr

namespace BlockError

/-- The message for an error. -/
def message : BlockError → Text
  | markerNotFound which marker =>
    which.toText ++ " marker not found: ".toList ++ marker.quote
  | emptyMarker which => which.toText ++ " marker must not be empty".toList
  | noClosingLine expected first limit =>
    "no line equal to ".toList ++ expected.quote ++ " between lines ".toList
      ++ Text.ofNat first ++ " and ".toList ++ Text.ofNat limit
  | invalidIndent indent fault =>
    "invalid indent prefix ".toList ++ indent.quote ++ ": ".toList ++ fault.reason
  | indentMismatch line found indent =>
    "start line ".toList ++ Text.ofNat line ++ " is indented by ".toList ++ found.quote
      ++ ", which is not a prefix of the indent ".toList ++ indent.quote
  | emptyClosingToken => "closing token must not be empty".toList
  | blankOpenToken => "opening token must not be empty".toList
  | missingSetting setting =>
    "missing required setting `".toList ++ setting.name ++ "`".toList
  | unknownStrategy name =>
    "unknown match strategy ".toList ++ name.quote
      ++ " (expected `first` or `balanced`)".toList
  | spanOutOfRange span length =>
    "span ".toList ++ span.display ++ " is out of range for a document of ".toList
      ++ Text.ofNat length ++ " lines".toList

end BlockError

/-- The strategy of this name, in capital or small letters, or the error that names it. -/
def StrategyName.parse (text : Text) : Except BlockError StrategyName :=
  match ofAnyCase? text with
  | some name => .ok name
  | none => .error (.unknownStrategy text)

end Excision
