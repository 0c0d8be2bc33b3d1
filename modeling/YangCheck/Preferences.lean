import YangCheck.File.Policy

namespace YangCheck

open Log

/-- What a user may set through the environment. -/
structure Preferences where
  requireYangExtension : Bool := false
  notePerformance : Bool := true
  structuredLog : Bool := false
  consoleLog : Bool := true
  minLevel : Level := .warning
deriving DecidableEq, Repr

namespace Preferences

/-- Only the two words themselves are truth values. -/
def truth? (text : String) : Option Bool :=
  if text = "true" then some true
  else if text = "false" then some false
  else none

def variableNames : List String :=
  ["YANG_REQUIRE_YANG_EXTENSION", "YANG_ENABLE_PERFORMANCE_LOGGING", "YANG_LOGGING_USE_STRUCTURED",
    "YANG_LOGGING_ENABLE_CONSOLE", "YANG_LOGGING_MIN_LEVEL"]

/-- A value that cannot be read counts as not set. -/
def ofVariables (valueOf : String → Option String) : Preferences :=
  let usual : Preferences := {}
  let truth (name : String) (default : Bool) : Bool :=
    ((valueOf name).bind truth?).getD default
  { requireYangExtension := truth "YANG_REQUIRE_YANG_EXTENSION" usual.requireYangExtension
    notePerformance := truth "YANG_ENABLE_PERFORMANCE_LOGGING" usual.notePerformance
    structuredLog := truth "YANG_LOGGING_USE_STRUCTURED" usual.structuredLog
    consoleLog := truth "YANG_LOGGING_ENABLE_CONSOLE" usual.consoleLog
    minLevel := ((valueOf "YANG_LOGGING_MIN_LEVEL").bind Level.ofText?).getD usual.minLevel }

def filePolicy (p : Preferences) : FilePolicy :=
  { requireYangExtension := p.requireYangExtension, noteReading := p.notePerformance }

def toJson (p : Preferences) : Json :=
  Json.ofFields
    [("file_processor", Json.ofFields
      [("require_yang_extension", .bool p.requireYangExtension),
        ("enable_performance_logging", .bool p.notePerformance)]),
      ("logging", Json.ofFields
        [("use_structured_logging", .bool p.structuredLog),
          ("enable_console_logging", .bool p.consoleLog),
          ("min_log_level", Json.ofString p.minLevel.name)])]

/-- The limits of the log and the preferences for it, one a line. -/
def logSummary [Limits] (p : Preferences) : List String :=
  ["Logging Configuration:",
    "=== Limits (Compile-time) ===",
    s!"- Log buffer size: {Limits.logCapacity}",
    s!"- Max message length: {Limits.maxMessageBytes}",
    "=== User Preferences (Runtime) ===",
    s!"- Min log level: {p.minLevel.name}",
    s!"- Structured logging: {p.structuredLog}",
    s!"- Console logging: {p.consoleLog}"]

end Preferences

end YangCheck
