import YangCheck.Json.Basic
import YangCheck.Limits
import YangCheck.Log.Code
import YangCheck.Log.Level
import YangCheck.Log.Timestamp
import YangCheck.Text.Utf8

namespace YangCheck.Log

/-- Texts under keys in increasing order. -/
abbrev Context := List (String × String)

/-- The last text given for a key wins. -/
def Context.insert (key value : String) : Context → Context
  | [] => [(key, value)]
  | (k, v) :: rest =>
    if key < k then (key, value) :: (k, v) :: rest
    else if key = k then (key, value) :: rest
    else (k, v) :: Context.insert key value rest

variable [Limits]

/-- A message of more than the greatest length is cut after a whole character. -/
def limitMessage (message : String) : String :=
  if message.utf8ByteSize ≤ Limits.maxMessageBytes then message
  else Text.frontWithin message Limits.maxMessageBytes ++ "..."

structure Event where
  level : Level
  code : Code
  message : String
  line : Option Nat := none
  context : Context := []
deriving DecidableEq, Repr

namespace Event

def make (level : Level) (code : Code) (message : String) : Event :=
  { level, code, message := limitMessage message }

def error (code : Code) (message : String) : Event :=
  make .error code message

def warning (message : String) : Event :=
  make .warning .uncodedWarning message

def codedWarning (code : Code) (message : String) : Event :=
  make .warning code message

def info (message : String) : Event :=
  make .info .uncodedInfo message

def success (code : Code) (message : String) : Event :=
  make .info code message

def debug (message : String) : Event :=
  make .debug .uncodedDebug message

def codedDebug (code : Code) (message : String) : Event :=
  make .debug code message

def atLine (event : Event) (line : Nat) : Event :=
  { event with line := some line }

def add (event : Event) (key value : String) : Event :=
  { event with context := event.context.insert key value }

def addAll (event : Event) (entries : List (String × String)) : Event :=
  entries.foldl (fun event entry => event.add entry.1 entry.2) event

def isError (event : Event) : Bool :=
  event.level == .error

def isInfo (event : Event) : Bool :=
  event.level == .info

def severity (event : Event) : Severity :=
  event.code.severity

def category (event : Event) : String :=
  event.code.category

def render (event : Event) : String :=
  let place := event.line.elim "" fun line => s!" at line {line}"
  let context :=
    if event.context.isEmpty then ""
    else " (" ++ ", ".intercalate (event.context.map fun entry => entry.1 ++ "=" ++ entry.2) ++ ")"
  s!"[{event.level.label}] {event.code.text} - {event.message}{place}{context}"

/-- The event and its time as one JSON object with its keys in order. -/
def toJson (event : Event) (time : Timestamp) : Json :=
  let action := if event.isError then [("action", Json.ofString event.code.action)] else []
  let context :=
    if event.context.isEmpty then []
    else [("context", Json.ofFields (event.context.map fun entry =>
      (entry.1, Json.ofString entry.2)))]
  let line := event.line.elim [] fun line => [("line", Json.ofNat line)]
  Json.ofFields (action ++
    [("category", Json.ofString event.category), ("code", Json.ofString event.code.text)] ++
    context ++ [("level", Json.ofString event.level.label)] ++ line ++
    [("message", Json.ofString event.message),
      ("severity", Json.ofString event.severity.name),
      ("timestamp", Json.ofString time.render)])

end Event

end YangCheck.Log
