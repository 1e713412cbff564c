import Excision.Event
import Excision.Indent

/-!
# Resolvers

A resolver holds the settings by which a block is found: the marker of its first line, the
marker of the line that it must end before, and the indent and the token of its closing
line. It finds the block in four steps, each of which can fail. The settings must be usable
(`validate`); both markers must stand on some line (`locate`); the start line must be
indented by a part of the indent (`checkIndent`); and a line between the markers must end
the block by the rule of the strategy (`closing?`). `resolve` takes the steps in this order
and reports what it finds.
-/

namespace Excision

/-- The closing token of a resolver for which none is named: `</div>`. -/
def defaultClosingToken : Text := ['<', '/', 'd', 'i', 'v', '>']

/-- How a block is found. -/
structure Resolver where
  /-- The text that the first line of the block holds. -/
  startMarker : Text
  /-- The text that the line after the block, or a later one, holds. -/
  boundaryMarker : Text
  /-- The white space before the closing token. -/
  indent : Indent
  /-- The rest of the closing line. -/
  closingToken : Text := defaultClosingToken
  /-- How the closing line is chosen. -/
  strategy : Strategy := .firstExact
  /-- A text that the second line of the block should hold. -/
  expectOpening : Option Text := none
deriving DecidableEq

/-- What a line does to the depth of open constructs. -/
inductive LineRole where
  | opening
  | closing
  | neutral
deriving DecidableEq, Repr

/-- The depth after a line. A closing line at depth zero leaves it at zero. -/
def LineRole.step : LineRole → Nat → Nat
  | opening, depth => depth + 1
  | closing, depth => depth - 1
  | neutral, depth => depth

namespace Resolver

/-- The closing line without its terminator. -/
def closingLine (resolver : Resolver) : Text :=
  resolver.indent.text ++ resolver.closingToken

/-- The first setting that cannot be used, in the order start marker, boundary marker,
closing token, opening token. -/
def validate (resolver : Resolver) : Except BlockError Unit :=
  if resolver.startMarker = [] then .error (.emptyMarker .start)
  else if resolver.boundaryMarker = [] then .error (.emptyMarker .boundary)
  else if resolver.closingToken = [] then .error .emptyClosingToken
  else
    match resolver.strategy with
    | .firstExact => .ok ()
    | .balanced openToken =>
      if openToken.isBlankText then .error .blankOpenToken else .ok ()

/-- The first line from line `start` on that holds `marker`. -/
def findMarker? (lines : List Line) (start : Nat) (marker : Text) : Option Nat :=
  ((lines.drop start).findIdx? (Text.holds marker)).map (· + start)

/-- The lines of the start marker and of the boundary marker. The boundary marker is looked
for from the start line on, and may stand on it. -/
def locate (resolver : Resolver) (lines : List Line) : Except BlockError (Nat × Nat) :=
  match findMarker? lines 0 resolver.startMarker with
  | none => .error (.markerNotFound .start resolver.startMarker)
  | some start =>
    match findMarker? lines start resolver.boundaryMarker with
    | none => .error (.markerNotFound .boundary resolver.boundaryMarker)
    | some boundary => .ok (start, boundary)

/-- Fails if the indentation of line `start` is not a part of the indent. -/
def checkIndent (resolver : Resolver) (lines : List Line) (start : Nat) :
    Except BlockError Unit :=
  let found := Line.indentation (lines.getD start [])
  if Text.startsWith found resolver.indent.text then .ok ()
  else .error (.indentMismatch start found resolver.indent.text)

/-- The report that the line after line `start` does not hold the expected opening. -/
def openingEvents (resolver : Resolver) (lines : List Line) (start : Nat) : List BlockEvent :=
  match resolver.expectOpening with
  | none => []
  | some text =>
    let expected := text.trim
    let next := lines[start + 1]?
    if next.any (Text.holds expected) then []
    else [.openingMissing (start + 1) expected (next.map Line.content)]

/-- The first line with the content of the closing line, after line `start` and before line
`boundary`. -/
def firstExact? (resolver : Resolver) (lines : List Line) (start boundary : Nat) :
    Option Nat :=
  (((lines.take boundary).drop (start + 1)).findIdx?
    fun line => line.content == resolver.closingLine).map (· + (start + 1))

/-- What a line does to the depth. It closes a construct if it begins with the closing
token, and opens one if it begins with the opening token, unless it ends the construct
itself. Blank characters at both ends of the line do not count. -/
def role (resolver : Resolver) (openToken : Text) (line : Line) : LineRole :=
  let trimmed := line.content.trim
  if Text.startsWith resolver.closingToken trimmed then .closing
  else if Text.startsWith openToken trimmed && !Text.endsWith ['/', '>'] trimmed
      && !Text.holds resolver.closingToken trimmed then .opening
  else .neutral

/-- The first of `lines` that closes the one open construct with the content of the closing
line, when the first of `lines` is line `index` of the document and the depth before it is
`depth`. The start line itself does not count. -/
def scanBalanced (resolver : Resolver) (openToken : Text) (start : Nat) :
    (index depth : Nat) → List Line → Option Nat
  | _, _, [] => none
  | index, depth, line :: lines =>
    let role := resolver.role openToken line
    if role = .closing ∧ start < index ∧ depth = 1 ∧ line.content = resolver.closingLine then
      some index
    else scanBalanced resolver openToken start (index + 1) (role.step depth) lines

/-- The line that closes the first construct opened on line `start` or later and before
line `boundary`. -/
def balanced? (resolver : Resolver) (openToken : Text) (lines : List Line)
    (start boundary : Nat) : Option Nat :=
  resolver.scanBalanced openToken start start 0 ((lines.take boundary).drop start)

/-- The last line of the block that begins on line `start`, by the rule of the strategy. -/
def closing? (resolver : Resolver) (lines : List Line) (start boundary : Nat) : Option Nat :=
  match resolver.strategy with
  | .firstExact => resolver.firstExact? lines start boundary
  | .balanced openToken => resolver.balanced? openToken lines start boundary

/-- The span of the block in `lines`. -/
def resolve (resolver : Resolver) (lines : List Line) : Logged (Except BlockError Span) :=
  match resolver.validate with
  | .error e => .quiet (.error e)
  | .ok () =>
    match resolver.locate lines with
    | .error e => .quiet (.error e)
    | .ok (start, boundary) =>
      let located := [BlockEvent.markersLocated start boundary]
      match resolver.checkIndent lines start with
      | .error e => ⟨.error e, located⟩
      | .ok () =>
        let events := located ++ resolver.openingEvents lines start
        match resolver.closing? lines start boundary with
        | none => ⟨.error (.noClosingLine resolver.closingLine (start + 1) boundary), events⟩
        | some last =>
          let span := Span.mk start last boundary
          ⟨.ok span, events ++ [.spanResolved span resolver.strategy]⟩

end Resolver

end Excision
