import YangCheck.Lint.Checker
import YangCheck.Log.Event

namespace YangCheck.Lint

open Log

variable [Limits]

def Diagnostic.event (d : Diagnostic) : Event :=
  (Event.debug "Validation finding").addAll
    [("code", d.kind.code.text), ("level", d.severity.name), ("message", d.message)]

/-- What is noted of all lines in turn. -/
def Checker.eventsOver (lines : List String) : List Event :=
  (lines.foldl (fun (state : Checker × Array Event) raw =>
    let noted := state.2 ++ (state.1.findingsOn raw).map Diagnostic.event
    (state.1.feed raw, noted)) ({}, #[])).2.toList

def Checker.finalEvents (checker : Checker) : List Event :=
  checker.finalFindings.map Diagnostic.event

end YangCheck.Lint
