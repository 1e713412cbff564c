import Excision.Resolver.Basic

/-!
# Jobs

A job holds the settings of one removal. Each of them may be left open, so that jobs can be
laid over one another: `Job.overlay` takes what the upper job sets and keeps the rest of the
lower one. `Job.indentation` and `Job.resolver` read the settings and say which one is
missing or wrong.
-/

namespace Excision

/-- The settings of a removal, each of which may be left open. -/
structure Job where
  /-- The path of the document. -/
  file : Option Text := none
  /-- The text that the first line of the block holds. -/
  startMarker : Option Text := none
  /-- The text that a line after the block holds. -/
  boundaryMarker : Option Text := none
  /-- The white space before the closing token. -/
  indent : Option Text := none
  /-- The white space before the closing token, as a number of spaces. -/
  indentWidth : Option Nat := none
  /-- The rest of the closing line. -/
  closingToken : Option Text := none
  /-- How the closing line is chosen. -/
  strategy : Option StrategyName := none
  /-- The token that opens a construct, for the balanced strategy. -/
  openToken : Option Text := none
  /-- A text that the second line of the block should hold. -/
  expectOpening : Option Text := none
deriving DecidableEq, Repr

/-- The opening token of the element that a closing token `</name>` closes: `<name`. -/
def deriveOpenToken? (closingToken : Text) : Option Text := do
  let tail ← Text.dropHead? ['<', '/'] closingToken
  let name ← Text.dropTail? ['>'] tail
  let trimmed := Text.trim name
  if trimmed = [] then none else some ('<' :: trimmed)

namespace Job

/-- Whether one of the two forms of the indent is set. -/
def setsIndent (job : Job) : Bool := job.indent.isSome || job.indentWidth.isSome

/-- The settings of `upper`, and those of `lower` where `upper` leaves them open. The two
forms of the indent are one setting, which is taken whole from one of the jobs. -/
def overlay (lower upper : Job) : Job where
  file := upper.file <|> lower.file
  startMarker := upper.startMarker <|> lower.startMarker
  boundaryMarker := upper.boundaryMarker <|> lower.boundaryMarker
  indent := if upper.setsIndent then upper.indent else lower.indent
  indentWidth := if upper.setsIndent then upper.indentWidth else lower.indentWidth
  closingToken := upper.closingToken <|> lower.closingToken
  strategy := upper.strategy <|> lower.strategy
  openToken := upper.openToken <|> lower.openToken
  expectOpening := upper.expectOpening <|> lower.expectOpening

/-- The indent of the job, which must be given in exactly one of its two forms. -/
def indentation (job : Job) : Except BlockError Indent :=
  match job.indent, job.indentWidth with
  | some text, none => Indent.ofText text
  | none, some width => Indent.ofWidth width
  | some text, some _ => .error (.invalidIndent text .twoForms)
  | none, none => .error (.missingSetting .indent)

/-- The closing token of the job, which need not be given. -/
def closing (job : Job) : Text := job.closingToken.getD defaultClosingToken

/-- The strategy of the job. The balanced strategy needs an opening token, given or derived
from the closing token; the other one reports a given opening token as unused. -/
def chosenStrategy (job : Job) : Logged (Except BlockError Strategy) :=
  match job.strategy.getD .first with
  | .first => ⟨.ok .firstExact, job.openToken.toList.map .openTokenUnused⟩
  | .balanced =>
    match job.openToken <|> deriveOpenToken? job.closing with
    | none => .quiet (.error (.missingSetting .openToken))
    | some openToken =>
      if openToken.isBlankText then .quiet (.error .blankOpenToken)
      else .quiet (.ok (.balanced openToken))

/-- The resolver of the job. Of several settings that are missing or wrong, the first in the
order start marker, boundary marker, opening token, indent makes the error. -/
def resolver (job : Job) : Logged (Except BlockError Resolver) :=
  match job.startMarker, job.boundaryMarker with
  | none, _ => .quiet (.error (.missingSetting .startMarker))
  | some _, none => .quiet (.error (.missingSetting .boundaryMarker))
  | some startMarker, some boundaryMarker =>
    job.chosenStrategy.andThen fun strategy =>
      .quiet (job.indentation.map fun indent => {
        startMarker, boundaryMarker, indent, strategy
        closingToken := job.closing
        expectOpening := job.expectOpening })

end Job

end Excision
