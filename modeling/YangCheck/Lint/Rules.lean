import YangCheck.Lint.Diagnostic
import YangCheck.Text.Blank

namespace YangCheck.Lint

open Text

def mentions (word : String) (line : List Char) : Bool :=
  occurs word.toList line

def endsIn (c : Char) (line : List Char) : Bool :=
  line.getLast? == some c

/-- Neither a semicolon at the end nor an opening brace anywhere. -/
def isUnterminated (line : List Char) : Bool :=
  !endsIn ';' line && !line.contains '{'

/-- Whether a finding is made on a line, which comes without the blanks around it. -/
def Kind.appliesTo (line : List Char) : Kind → Bool
  | .missingSemicolonNamespace => mentions "namespace" line && isUnterminated line
  | .missingSemicolonPrefix => mentions "prefix" line && isUnterminated line
  | .missingSemicolonDescription =>
    mentions "description" line && line.contains '"' && isUnterminated line
  | .missingSemicolonType => mentions "type" line && isUnterminated line
  | .descriptionMissingQuotes => mentions "description" line && !line.contains '"'
  | .doubleSemicolon => mentions ";;" line
  | .misplacedSemicolon => line.contains ';' && isUnterminated line
  | .missingModule | .unbalancedBraces | .unclosedQuotes => false

def findings (line : List Char) : List Kind :=
  Kind.all.filter (·.appliesTo line)

end YangCheck.Lint
