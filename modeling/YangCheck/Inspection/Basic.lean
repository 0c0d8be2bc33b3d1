import YangCheck.Lint.File
import YangCheck.Outline.File

namespace YangCheck

open Log Lint

variable [Limits]

inductive Mode where
  | full
  | validateOnly
  | buildOnly
deriving DecidableEq, Repr

namespace Mode

def name : Mode → String
  | .full => "full"
  | .validateOnly => "validate-only"
  | .buildOnly => "build-only"

def validates : Mode → Bool
  | .buildOnly => false
  | _ => true

def builds : Mode → Bool
  | .validateOnly => false
  | _ => true

end Mode

inductive InspectionError where
  | file (error : FileError)
  | failed (errors : Nat)
  | output (reason : String)
  | noResult (reason : String)
deriving DecidableEq, Repr

namespace InspectionError

/-- An error of the file is the same error whichever half meets it. -/
def ofLint : LintError → InspectionError
  | .file error => .file error
  | .failed errors => .failed errors
  | .output reason => .output reason

def message : InspectionError → String
  | .file error => s!"File processing failed: {error.message}"
  | .failed errors => s!"Syntax validation failed: {LintError.message (.failed errors)}"
  | .output reason => s!"Syntax validation failed: {LintError.message (.output reason)}"
  | .noResult reason => s!"Pipeline error: {reason}"

def code : InspectionError → Code
  | .file error => error.code
  | .failed errors => LintError.code (.failed errors)
  | .output reason => LintError.code (.output reason)
  | .noResult _ => .noResult

def stage : InspectionError → String
  | .file _ => "File processing error"
  | .failed _ | .output _ => "Syntax validation error"
  | .noResult _ => "Pipeline error"

/-- Whether the report itself has told the user of the error. -/
def isToldByReport : InspectionError → Bool
  | .failed _ | .output _ => true
  | _ => false

end InspectionError

/-- What came of a file. A half that was not done has left nothing. -/
structure Inspection where
  path : String
  mode : Mode
  report : Option Report := none
  module? : Option Module := none

namespace Inspection

def warningCount (i : Inspection) : Nat :=
  i.report.elim 0 (·.warnings.size)

def nodeCount (i : Inspection) : Nat :=
  i.module?.elim 0 Module.nodeCount

def event (i : Inspection) : Event :=
  (Event.success .fileDone "YANG file processing pipeline succeeded").addAll
    [("file", i.path), ("mode", i.mode.name), ("warnings", toString i.warningCount),
      ("nodes", toString i.nodeCount)]

def validateHalf (disk : Disk) (mode : Mode) (path : String) (sink : Sink) :
    Traced (Except InspectionError (Option Report) × Sink) := do
  if mode.validates then
    let (outcome, sink) ← validateFile disk path sink
    return ((outcome.map some).mapError .ofLint, sink)
  else return (.ok none, sink)

def buildHalf (disk : Disk) (mode : Mode) (path : String) :
    Traced (Except InspectionError (Option Module)) := do
  if mode.builds then
    match ← Module.ofFile disk path with
    | .error error => return .error (.file error)
    | .ok none => return .error (.noResult s!"No module declaration found in {path}")
    | .ok (some m) => return .ok (some m)
  else return .ok none

/-- Judges a file, then checks it, then builds its module. The first step that fails is the last. -/
def steps (disk : Disk) (policy : FilePolicy) (mode : Mode) (path : String) (sink : Sink) :
    Traced (Except InspectionError Inspection × Sink) := do
  Traced.event ((Event.info "Starting YANG file processing pipeline").addAll
    [("file", path), ("mode", mode.name)])
  match ← policy.check disk path with
  | .error error => return (.error (.file error), sink)
  | .ok _ =>
    match ← validateHalf disk mode path sink with
    | (.error error, sink) => return (.error error, sink)
    | (.ok report, sink) =>
      match ← buildHalf disk mode path with
      | .error error => return (.error error, sink)
      | .ok module? =>
        let inspection : Inspection := { path, mode, report, module? }
        Traced.timed inspection.event
        return (.ok inspection, sink)

/-- Does the work on a file; `id` is its number in a batch. -/
def run (disk : Disk) (policy : FilePolicy) (mode : Mode) (path : String) (id : Nat)
    (sink : Sink) : Traced (Except InspectionError Inspection × Sink) :=
  (steps disk policy mode path sink).inFile { path, id }

end Inspection

end YangCheck
