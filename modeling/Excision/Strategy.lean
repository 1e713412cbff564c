import Excision.Text.Quoted

/-!
# Strategies

How the closing line of a block is chosen among the lines that have its exact text. A
strategy has a name, by which settings choose it, and the balanced one needs the token that
opens a construct as well.
-/

namespace Excision

/-- The name of a strategy. -/
inductive StrategyName where
  | first
  | balanced
deriving DecidableEq, Repr

namespace StrategyName

/-- The written name. -/
def toText : StrategyName → Text
  | first => ['f', 'i', 'r', 's', 't']
  | balanced => ['b', 'a', 'l', 'a', 'n', 'c', 'e', 'd']

/-- The strategy with exactly this written name. -/
def ofText? (text : Text) : Option StrategyName :=
  if text = first.toText then some first
  else if text = balanced.toText then some balanced
  else none

/-- The strategy with this written name, in capital or small letters. -/
def ofAnyCase? (text : Text) : Option StrategyName := ofText? text.lowerAscii

/-- A strategy is found under its written name and under no other. -/
theorem ofText?_eq_some_iff {text : Text} {name : StrategyName} :
  ofText? text = some name ↔ text = name.toText
  := by
  unfold ofText?
  constructor
  · split
    · rintro ⟨⟩
      assumption
    · split
      · rintro ⟨⟩
        assumption
      · simp
  · rintro rfl
    cases name
    · simp
    · simp [toText]

end StrategyName

/-- How the closing line of a block is chosen. -/
inductive Strategy where
  /-- The first line with the text of the closing line. -/
  | firstExact
  /-- The first line with that text that closes the one construct still open, where lines
  that begin with `openToken` open a construct. -/
  | balanced (openToken : Text)
deriving DecidableEq, Repr

namespace Strategy

/-- The form in which log lines show a strategy. -/
def display : Strategy → Text
  | firstExact => "FirstExact".toList
  | balanced openToken =>
    "Balanced \x7b open_token: ".toList ++ openToken.quote ++ " \x7d".toList

end Strategy

end Excision
