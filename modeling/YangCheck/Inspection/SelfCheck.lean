import YangCheck.Inspection.Basic

namespace YangCheck.SelfCheck

open Log Lint

variable [Limits]

/-- A module that uses the common statements. -/
def source : String :=
  "module self-check \x7b\n  prefix sc;\n  leaf sample \x7b\n    type string;\n  \x7d\n\x7d\n"

/-- What the sample shows to be out of order. -/
inductive Failure where
  | unregisteredCode (code : Code)
  | noModule
  | unexpectedTree
  | flagged (errors warnings : Nat)
deriving DecidableEq, Repr

def Failure.message : Failure → String
  | .unregisteredCode code =>
    s!"File processor error code {code.text} not found in metadata registry"
  | .noModule => "Tree builder did not recognize the self-check module"
  | .unexpectedTree => "Tree builder produced an unexpected self-check tree"
  | .flagged errors warnings =>
    let counts := s!"{errors} error(s), {warnings} warning(s)"
    s!"Syntax validator flagged the self-check module: {counts}"

def fileCodes : List Code :=
  [.fileNotFound, .invalidExtension, .fileTooLarge, .permissionDenied, .invalidEncoding, .ioError,
    .invalidPath]

/-- Runs both halves on the sample before any file is looked at. -/
def run : Traced (Except Failure Unit) := do
  Traced.event (Event.debug "Validating pipeline configuration")
  match fileCodes.find? (·.info?.isNone) with
  | some code => return .error (.unregisteredCode code)
  | none =>
    Traced.event ((Event.debug "File processor compile-time configuration loaded").addAll
      [("max_file_size", toString Limits.maxFileSize),
        ("large_file_threshold", toString Limits.largeFileSize)])
    let lines := Text.lines source
    match ← Module.ofLinesNoting lines (pure ()) with
    | none => return .error .noModule
    | some m =>
      if (m.node? "sample").bind Node.dataType != some "string" then return .error .unexpectedTree
      else
        let report ← checkLinesNoting lines (pure ())
        if report.hasErrors || !report.warnings.isEmpty then
          return .error (.flagged report.errors.size report.warnings.size)
        else
          Traced.event ((Event.success .started "Pipeline validation succeeded").addAll
            [("file_processing", "true"), ("tree_builder", "true"), ("syntax_validation", "true")])
          return .ok ()

end YangCheck.SelfCheck
