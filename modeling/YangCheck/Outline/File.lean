import YangCheck.File.Policy
import YangCheck.Outline.Events

namespace YangCheck

open Log Outline

variable [Limits]

/-- The module that lines declare, with what is noted on the way. -/
def Module.ofLinesNoting (lines : List String) (close : Traced Unit) : Traced (Option Module) := do
  Traced.events (Builder.eventsOver lines)
  close
  let b := Builder.feedAll {} lines
  Traced.events b.finalEvents
  return b.finish

/-- The module that a file declares, whatever its size and name. -/
def Module.ofFile (disk : Disk) (path : String) : Traced (Except FileError (Option Module)) := do
  match ← FilePolicy.unrestricted.read disk path with
  | .error error => return .error error
  | .ok source =>
    match source.error? with
    | some error =>
      Traced.events (Builder.eventsOver source.lines)
      source.close .unrestricted
      return .error error
    | none => return .ok (← Module.ofLinesNoting source.lines (source.close .unrestricted))

end YangCheck
