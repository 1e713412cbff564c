import Excision.Span
import Excision.Strategy

/-!
# Events

What the search for a block reports while it runs. A computation that reports events is a
`Logged` value: its result and the events in the order in which they came about.
-/

namespace Excision

/-- A report of the search for a block. -/
inductive BlockEvent where
  /-- The two markers stand on these lines. -/
  | markersLocated (start boundary : Nat)
  /-- Line `line`, the one after the start marker, does not hold the expected opening. There
  may be no such line. -/
  | openingMissing (line : Nat) (expected : Text) (found : Option Text)
  /-- The block covers this span. -/
  | spanResolved (span : Span) (strategy : Strategy)
  /-- An opening token is given with a strategy that has no use for it. -/
  | openTokenUnused (openToken : Text)
deriving DecidableEq, Repr

/-- A result with the events of the computation that gave it. -/
structure Logged (α : Type) where
  /-- The result. -/
  value : α
  /-- The events, the earliest first. -/
  events : List BlockEvent
deriving DecidableEq, Repr

namespace Logged

/-- A result without any event. -/
def quiet {α : Type} (value : α) : Logged α := ⟨value, []⟩

/-- The same events with the result changed. -/
def map {α β : Type} (f : α → β) (logged : Logged α) : Logged β :=
  ⟨f logged.value, logged.events⟩

/-- What follows a result that may be an error: an error stays, and a success goes on with
`next`, whose events come after those so far. -/
def andThen {ε α β : Type} (logged : Logged (Except ε α)) (next : α → Logged (Except ε β)) :
    Logged (Except ε β) :=
  match logged.value with
  | .error e => ⟨.error e, logged.events⟩
  | .ok value => ⟨(next value).value, logged.events ++ (next value).events⟩

@[simp] theorem value_quiet {α : Type} (value : α) :
  (quiet value).value = value
  := rfl

@[simp] theorem value_andThen {ε α β : Type} (logged : Logged (Except ε α))
    (next : α → Logged (Except ε β)) :
  (logged.andThen next).value = logged.value.bind fun value => (next value).value
  := by
  unfold andThen
  cases logged.value with
  | error e => rfl
  | ok value => rfl

end Logged

end Excision
