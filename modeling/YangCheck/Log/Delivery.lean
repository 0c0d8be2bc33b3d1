import YangCheck.Log.Service

/-! What is done to a service, and what reaches a window by it. -/

namespace YangCheck.Log

variable [Limits]

inductive Operation where
  | log (event : Event)
  | logInto (index : Nat) (event : Event)
  | clear (index : Nat)
deriving DecidableEq, Repr

namespace Operation

def clears (index : Nat) : Operation → Bool
  | .clear i => i == index
  | _ => false

/-- The event that reaches a target: what is sent through the service where the target is attached
and the event is no less severe than both levels ask for, and what is written to the target itself
in any case. -/
def delivered? (level fanLevel : Level) (attached : Bool) (index : Nat) : Operation → Option Event
  | .log event =>
    if attached ∧ event.level.rank ≤ level.rank ∧ event.level.rank ≤ fanLevel.rank then some event
    else none
  | .logInto i event => if i = index then some event else none
  | .clear _ => none

/-- The operations behind the last one that clears the window of a target. -/
def sinceCleared (index : Nat) (operations : List Operation) : List Operation :=
  (operations.reverse.takeWhile fun operation => !operation.clears index).reverse

/-- The events that a target received since it was cleared. -/
def received (level fanLevel : Level) (attached : Bool) (index : Nat)
    (operations : List Operation) : List Event :=
  (sinceCleared index operations).filterMap (delivered? level fanLevel attached index)

end Operation

namespace Service

/-- A service before anything is logged. -/
def start (level fanLevel : Level) (attached : List Bool) : Service :=
  { level, fanLevel, targets := attached.map fun attached => { attached } }

def apply (service : Service) : Operation → Service
  | .log event => service.log event
  | .logInto index event => service.logInto index event
  | .clear index => service.clear index

def run (service : Service) (operations : List Operation) : Service :=
  operations.foldl apply service

end Service

end YangCheck.Log
