import YangCheck.File.Policy
import YangCheck.Lint.Events

namespace YangCheck.Lint

open Log

variable [Limits]

inductive LintError where
  | file (error : FileError)
  | failed (errors : Nat)
  | output (reason : String)
deriving DecidableEq, Repr

namespace LintError

def message : LintError → String
  | .file error => error.message
  | .failed errors => s!"Validation failed with {errors} error(s)"
  | .output reason => s!"Failed to write validation output: {reason}"

def code : LintError → Code
  | .file error => error.code
  | .failed _ => .sourceFailed
  | .output _ => .ioError

def isFileAccess : LintError → Bool
  | .file _ => true
  | _ => false

end LintError

/-- The report on lines, with what is noted on the way. -/
def checkLinesNoting (lines : List String) (close : Traced Unit) : Traced Report := do
  Traced.events (Checker.eventsOver lines)
  close
  let checker := Checker.feedAll {} lines
  Traced.events checker.finalEvents
  return checker.finish

/-- The report on a file, whatever its size and name. -/
def checkFile (disk : Disk) (path : String) : Traced (Except FileError Report) := do
  match ← FilePolicy.unrestricted.read disk path with
  | .error error => return .error error
  | .ok source =>
    match source.error? with
    | some error =>
      Traced.events (Checker.eventsOver source.lines)
      source.close .unrestricted
      return .error error
    | none => return .ok (← checkLinesNoting source.lines (source.close .unrestricted))

/-- Checks a file and writes the report. A file passes when no error is found; where it cannot be
read, one line says so. -/
def validateFile (disk : Disk) (path : String) (sink : Sink) :
    Traced (Except LintError Report × Sink) := do
  match ← checkFile disk path with
  | .error error =>
    match sink.writeLines ["✗ Validation failed: " ++ error.message] with
    | (sink, true) => return (.error (.file error), sink)
    | (sink, false) => return (.error (.output Sink.fullMessage), sink)
  | .ok report =>
    match report.writeTo sink with
    | (sink, false) => return (.error (.output Sink.fullMessage), sink)
    | (sink, true) =>
      if report.hasErrors then
        Traced.event ((Event.error .sourceFailed "Syntax validation failed").addAll
          [("file", path), ("errors", toString report.errors.size),
            ("warnings", toString report.warnings.size)])
        return (.error (.failed report.errors.size), sink)
      else
        Traced.event ((Event.success .sourcePassed "Syntax validation passed").addAll
          [("file", path), ("lines", toString report.linesChecked),
            ("warnings", toString report.warnings.size)])
        return (.ok report, sink)

end YangCheck.Lint
