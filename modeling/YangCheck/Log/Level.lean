import YangCheck.Text.Lowercase

namespace YangCheck.Log

inductive Level where
  | error
  | warning
  | info
  | debug
deriving DecidableEq, Repr

namespace Level

def rank : Level → Nat
  | .error => 0
  | .warning => 1
  | .info => 2
  | .debug => 3

def label : Level → String
  | .error => "ERROR"
  | .warning => "WARN"
  | .info => "INFO"
  | .debug => "DEBUG"

def name : Level → String
  | .error => "Error"
  | .warning => "Warning"
  | .info => "Info"
  | .debug => "Debug"

/-- Whether an event of level `level` passes a filter set to `threshold`. -/
def passes (level threshold : Level) : Bool :=
  level.rank ≤ threshold.rank

/-- A level by its word, in any case, or by its rank. -/
def ofText? (text : String) : Option Level :=
  match Text.lowercase text with
  | "error" | "0" => some .error
  | "warning" | "warn" | "1" => some .warning
  | "info" | "2" => some .info
  | "debug" | "3" => some .debug
  | _ => none

end Level

end YangCheck.Log
