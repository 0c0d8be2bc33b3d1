import YangCheck.Log.Code

namespace YangCheck.Lint

inductive Severity where
  | warning
  | error
deriving DecidableEq, Repr

def Severity.name : Severity → String
  | .warning => "warning"
  | .error => "error"

/-- What a check can find. The last three are found at the end of the file. -/
inductive Kind where
  | missingSemicolonNamespace
  | missingSemicolonPrefix
  | missingSemicolonDescription
  | missingSemicolonType
  | descriptionMissingQuotes
  | doubleSemicolon
  | misplacedSemicolon
  | missingModule
  | unbalancedBraces
  | unclosedQuotes
deriving DecidableEq, Repr

namespace Kind

def all : List Kind :=
  [.missingSemicolonNamespace, .missingSemicolonPrefix, .missingSemicolonDescription,
    .missingSemicolonType, .descriptionMissingQuotes, .doubleSemicolon, .misplacedSemicolon,
    .missingModule, .unbalancedBraces, .unclosedQuotes]

def tag : Kind → String
  | .missingSemicolonNamespace => "missing_semicolon_namespace"
  | .missingSemicolonPrefix => "missing_semicolon_prefix"
  | .missingSemicolonDescription => "missing_semicolon_description"
  | .missingSemicolonType => "missing_semicolon_type"
  | .descriptionMissingQuotes => "description_missing_quotes"
  | .doubleSemicolon => "double_semicolon"
  | .misplacedSemicolon => "misplaced_semicolon"
  | .missingModule => "missing_module"
  | .unbalancedBraces => "unbalanced_braces"
  | .unclosedQuotes => "unclosed_quotes"

def severity : Kind → Severity
  | .descriptionMissingQuotes | .doubleSemicolon | .misplacedSemicolon => .warning
  | _ => .error

def code : Kind → Log.Code
  | .missingSemicolonNamespace => .missingSemicolonNamespace
  | .missingSemicolonPrefix => .missingSemicolonPrefix
  | .missingSemicolonDescription => .missingSemicolonDescription
  | .missingSemicolonType => .missingSemicolonType
  | .descriptionMissingQuotes => .descriptionMissingQuotes
  | .doubleSemicolon => .doubleSemicolon
  | .misplacedSemicolon => .misplacedSemicolon
  | .missingModule => .missingModule
  | .unbalancedBraces => .unbalancedBraces
  | .unclosedQuotes => .unclosedQuotes

def message : Kind → String
  | .missingSemicolonNamespace => "Missing semicolon after namespace declaration"
  | .missingSemicolonPrefix => "Missing semicolon after prefix declaration"
  | .missingSemicolonDescription => "Missing semicolon after description"
  | .missingSemicolonType => "Missing semicolon after type declaration"
  | .descriptionMissingQuotes => "Description might be missing quotes"
  | .doubleSemicolon => "Double semicolon detected"
  | .misplacedSemicolon => "Semicolon might be misplaced"
  | .missingModule => "No module declaration found in the file"
  | .unbalancedBraces => "Unbalanced braces in YANG file"
  | .unclosedQuotes => "Unclosed quotes in the file"

end Kind

/-- A finding, on a line counted from one or about the whole file. -/
structure Diagnostic where
  severity : Severity
  line : Option Nat
  kind : Kind
  message : String
deriving DecidableEq, Repr

namespace Diagnostic

def atLine (kind : Kind) (line : Nat) : Diagnostic :=
  { severity := kind.severity, line := some line, kind,
    message := s!"Line {line}: {kind.message}" }

def ofFile (kind : Kind) (message : String) : Diagnostic :=
  { severity := kind.severity, line := none, kind, message }

def isError (d : Diagnostic) : Bool :=
  d.severity == .error

end Diagnostic

end YangCheck.Lint
