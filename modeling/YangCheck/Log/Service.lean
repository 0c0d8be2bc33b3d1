import YangCheck.Log.Event

namespace YangCheck.Log

variable [Limits]

/-- A log that keeps the latest events, oldest first. -/
structure Window where
  events : Array Event := #[]

namespace Window

/-- Makes room before the event is added, so that the window never holds more than its capacity. -/
def push (window : Window) (event : Event) : Window :=
  let events :=
    if Limits.logCapacity ≤ window.events.size then
      window.events.extract (window.events.size - Limits.logCapacity + 1) window.events.size
    else window.events
  ⟨events.push event⟩

def errors (window : Window) : Array Event :=
  window.events.filter Event.isError

def hasError (window : Window) (code : Code) : Bool :=
  window.events.any fun event => event.isError && event.code == code

def hasSuccess (window : Window) (code : Code) : Bool :=
  window.events.any fun event => event.isInfo && event.code == code

end Window

structure Target where
  window : Window := {}
  attached : Bool := true

/-- Passes events on to its targets when they pass the level of the service and that of the fan-out
behind it. -/
structure Service where
  level : Level
  fanLevel : Level
  targets : List Target

namespace Service

def admits (service : Service) (level : Level) : Bool :=
  level.passes service.level

def delivers (service : Service) (event : Event) : Bool :=
  service.admits event.level && event.level.passes service.fanLevel

def Target.receive (target : Target) (event : Event) : Target :=
  if target.attached then { target with window := target.window.push event } else target

def log (service : Service) (event : Event) : Service :=
  if service.delivers event then
    { service with targets := service.targets.map (Target.receive · event) }
  else service

/-- Writes to one target, past the filters. -/
def logInto (service : Service) (index : Nat) (event : Event) : Service :=
  { service with
    targets := service.targets.modify index fun target =>
      { target with window := target.window.push event } }

def clear (service : Service) (index : Nat) : Service :=
  { service with
    targets := service.targets.modify index fun target => { target with window := {} } }

def window (service : Service) (index : Nat) : Window :=
  (service.targets[index]?.map Target.window).getD {}

end Service

end YangCheck.Log
