import YangCheck.Lint.Report
import YangCheck.Lint.Rules
import YangCheck.Statement.Reading
import YangCheck.Text.Lines

namespace YangCheck.Lint

def braceBalance (line : List Char) : Int :=
  line.foldl
    (fun n c => if c = '{' then n + 1 else if c = '}' then n - 1 else n) 0

/-- Whether a quote is open behind a line. A quote right behind a backslash does not count. -/
def quotesAfter (open? : Bool) (line : List Char) : Bool :=
  (line.foldl
    (fun (state : Bool × Option Char) c =>
      (if c = '"' && state.2 != some '\\' then !state.1 else state.1, some c))
    (open?, none)).1

structure Checker where
  linesSeen : Nat := 0
  balance : Int := 0
  inQuotes : Bool := false
  moduleSeen : Bool := false
  report : Report := {}

namespace Checker

def findingsOn (checker : Checker) (raw : String) : List Diagnostic :=
  match Statement.significant? raw with
  | some line => (findings line).map (Diagnostic.atLine · (checker.linesSeen + 1))
  | none => []

/-- Takes one raw line. Quotes are counted on the raw line, all else on the trimmed one; blank lines
and comments are only counted. -/
def feed (checker : Checker) (raw : String) : Checker :=
  let counted := { checker with linesSeen := checker.linesSeen + 1 }
  match Statement.significant? raw with
  | some line =>
    { counted with
      balance := checker.balance + braceBalance line
      inQuotes := quotesAfter checker.inQuotes raw.toList
      moduleSeen := checker.moduleSeen || Statement.opensModule line
      report := checker.report.pushAll (checker.findingsOn raw) }
  | none => counted

def feedAll (checker : Checker) (lines : List String) : Checker :=
  lines.foldl feed checker

def balanceMessage (balance : Int) : String :=
  let side := if 0 < balance then "opening" else "closing"
  s!"{Kind.unbalancedBraces.message} - {balance.natAbs} more {side} brace(s)"

def finalFindings (checker : Checker) : List Diagnostic :=
  (if checker.moduleSeen then [] else [.ofFile .missingModule Kind.missingModule.message]) ++
  (if checker.balance = 0 then []
    else [.ofFile .unbalancedBraces (balanceMessage checker.balance)]) ++
  (if checker.inQuotes then [.ofFile .unclosedQuotes Kind.unclosedQuotes.message] else [])

def finish (checker : Checker) : Report :=
  { checker.report.pushAll checker.finalFindings with linesChecked := checker.linesSeen }

end Checker

def checkLines (lines : List String) : Report :=
  (Checker.feedAll {} lines).finish

def checkSource (source : String) : Report :=
  checkLines (Text.lines source)

end YangCheck.Lint
