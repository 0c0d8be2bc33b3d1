import YangCheck.Lint.Diagnostic
import YangCheck.Sink

namespace YangCheck.Lint

/-- What the checks found, each list in the order of finding. -/
structure Report where
  warnings : Array Diagnostic := #[]
  errors : Array Diagnostic := #[]
  linesChecked : Nat := 0
deriving DecidableEq, Repr

namespace Report

def push (report : Report) (d : Diagnostic) : Report :=
  match d.severity with
  | .warning => { report with warnings := report.warnings.push d }
  | .error => { report with errors := report.errors.push d }

def pushAll (report : Report) (ds : List Diagnostic) : Report :=
  ds.foldl push report

def hasErrors (report : Report) : Bool :=
  !report.errors.isEmpty

/-- Warnings do not count against a file. -/
def isValid (report : Report) : Bool :=
  report.errors.isEmpty

/-- The findings of one kind, warnings first. -/
def ofKind (report : Report) (kind : Kind) : List Diagnostic :=
  (report.warnings.toList ++ report.errors.toList).filter (·.kind == kind)

/-- The lines that are shown: the warnings, and then the errors or the good news. -/
def lines (report : Report) : List String :=
  let warnings :=
    if report.warnings.isEmpty then []
    else "Warnings:" :: report.warnings.toList.map fun d => "  ⚠ " ++ d.message
  let verdict :=
    if report.hasErrors then
      "Errors found:" :: report.errors.toList.map fun d => "  ✗ " ++ d.message
    else ["✓ Basic syntax validation passed", "✓ YANG file syntax is valid"]
  warnings ++ verdict

def render (report : Report) : String :=
  String.join (report.lines.map (· ++ "\n"))

/-- Writes line by line until the sink takes no more; says whether all was taken. -/
def writeTo (report : Report) (sink : Sink) : Sink × Bool :=
  sink.writeLines report.lines

end Report

end YangCheck.Lint
