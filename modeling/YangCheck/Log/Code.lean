namespace YangCheck.Log

/-- The short text that names a kind of event. -/
structure Code where
  text : String
deriving DecidableEq, Repr

namespace Code

def internalError : Code := ⟨"ERR001"⟩
def initializationFailure : Code := ⟨"ERR002"⟩
def fileNotFound : Code := ⟨"E005"⟩
def invalidExtension : Code := ⟨"E006"⟩
def fileTooLarge : Code := ⟨"E007"⟩
def permissionDenied : Code := ⟨"E009"⟩
def invalidEncoding : Code := ⟨"E010"⟩
def ioError : Code := ⟨"E011"⟩
def invalidPath : Code := ⟨"E012"⟩
def statementBeforeModule : Code := ⟨"N101"⟩
def noOpenNode : Code := ⟨"N102"⟩
def surplusBrace : Code := ⟨"N103"⟩
def repeatedModule : Code := ⟨"N104"⟩
def missingSemicolonNamespace : Code := ⟨"E301"⟩
def missingSemicolonPrefix : Code := ⟨"E302"⟩
def missingSemicolonDescription : Code := ⟨"E303"⟩
def missingSemicolonType : Code := ⟨"E304"⟩
def missingModule : Code := ⟨"E310"⟩
def unbalancedBraces : Code := ⟨"E311"⟩
def unclosedQuotes : Code := ⟨"E312"⟩
def sourceFailed : Code := ⟨"E320"⟩
def descriptionMissingQuotes : Code := ⟨"W301"⟩
def doubleSemicolon : Code := ⟨"W302"⟩
def misplacedSemicolon : Code := ⟨"W303"⟩
def directoryNotFound : Code := ⟨"E401"⟩
def noFilesFound : Code := ⟨"E402"⟩
def directoryUnreadable : Code := ⟨"E403"⟩
def workerFailure : Code := ⟨"E404"⟩
def fileFailed : Code := ⟨"E405"⟩
def noResult : Code := ⟨"E406"⟩
def fileLimitReached : Code := ⟨"W401"⟩
def started : Code := ⟨"I004"⟩
def fileRead : Code := ⟨"I006"⟩
def treeBuilt : Code := ⟨"I040"⟩
def sourcePassed : Code := ⟨"I041"⟩
def fileDone : Code := ⟨"I050"⟩
def filesFound : Code := ⟨"I060"⟩
def batchDone : Code := ⟨"I061"⟩
def uncodedWarning : Code := ⟨"W000"⟩
def uncodedInfo : Code := ⟨"I000"⟩
def uncodedDebug : Code := ⟨"D000"⟩

end Code

inductive Severity where
  | critical
  | high
  | medium
  | low
deriving DecidableEq, Repr

namespace Severity

def name : Severity → String
  | .critical => "Critical"
  | .high => "High"
  | .medium => "Medium"
  | .low => "Low"

/-- The most severe has rank zero. -/
def rank : Severity → Nat
  | .critical => 0
  | .high => 1
  | .medium => 2
  | .low => 3

end Severity

structure CodeInfo where
  code : Code
  category : String
  severity : Severity
  description : String
  action : String

/-- The codes that stand for a fault or a notice. Codes of success have no entry. -/
def registry : List CodeInfo :=
  [
    ⟨.internalError, "System", .critical,
      "Critical internal system error",
      "File a bug report with the input that triggered it"⟩,
    ⟨.initializationFailure, "System", .critical,
      "System initialization failure",
      "Check logging configuration and environment variables"⟩,
    ⟨.fileNotFound, "FileProcessing", .medium,
      "File not found at specified path",
      "Check file path and ensure file exists"⟩,
    ⟨.invalidExtension, "FileProcessing", .low,
      "File does not have .yang extension",
      "Rename file with .yang extension or relax the extension preference"⟩,
    ⟨.fileTooLarge, "FileProcessing", .medium,
      "File exceeds maximum size limit",
      "Split the module or rebuild with a larger max_file_size"⟩,
    ⟨.permissionDenied, "FileProcessing", .medium,
      "Permission denied accessing file",
      "Check file permissions"⟩,
    ⟨.invalidEncoding, "FileProcessing", .medium,
      "File is not valid UTF-8",
      "Re-encode the file as UTF-8"⟩,
    ⟨.ioError, "FileProcessing", .high,
      "I/O error while reading file",
      "Check disk and file system health"⟩,
    ⟨.invalidPath, "FileProcessing", .medium,
      "Path is empty or not a regular file",
      "Pass the path of a regular file"⟩,
    ⟨.statementBeforeModule, "Builder", .low,
      "Statement appears before the module header and was skipped",
      "Move the statement inside the module block"⟩,
    ⟨.noOpenNode, "Builder", .low,
      "Sub-statement outside any node was skipped",
      "Place type, mandatory and description inside a node block"⟩,
    ⟨.surplusBrace, "Builder", .low,
      "Closing brace with no open construct was skipped",
      "Remove the extra closing brace"⟩,
    ⟨.repeatedModule, "Builder", .low,
      "Second module header was skipped",
      "Keep a single module per file"⟩,
    ⟨.missingSemicolonNamespace, "Validation", .medium,
      "Namespace statement is not terminated by a semicolon",
      "Add ';' at the end of the namespace statement"⟩,
    ⟨.missingSemicolonPrefix, "Validation", .medium,
      "Prefix statement is not terminated by a semicolon",
      "Add ';' at the end of the prefix statement"⟩,
    ⟨.missingSemicolonDescription, "Validation", .medium,
      "Description statement is not terminated by a semicolon",
      "Add ';' after the closing quote"⟩,
    ⟨.missingSemicolonType, "Validation", .medium,
      "Type statement is not terminated by a semicolon",
      "Add ';' at the end of the type statement"⟩,
    ⟨.missingModule, "Validation", .high,
      "No module header found",
      "Start the file with 'module <name> \x7b'"⟩,
    ⟨.unbalancedBraces, "Validation", .high,
      "Opening and closing braces do not balance",
      "Check that every '\x7b' has a matching '\x7d'"⟩,
    ⟨.unclosedQuotes, "Validation", .high,
      "A double-quoted string is never closed",
      "Add the missing '\"'"⟩,
    ⟨.sourceFailed, "Validation", .high,
      "Validation finished with one or more errors",
      "Fix the reported errors and validate again"⟩,
    ⟨.descriptionMissingQuotes, "Validation", .low,
      "Description text might be missing quotes",
      "Wrap the description text in double quotes"⟩,
    ⟨.doubleSemicolon, "Validation", .low,
      "Two consecutive semicolons",
      "Remove the extra ';'"⟩,
    ⟨.misplacedSemicolon, "Validation", .low,
      "Semicolon appears before the end of the line",
      "Keep one statement per line"⟩,
    ⟨.directoryNotFound, "Batch", .medium,
      "Directory not found",
      "Check the directory path"⟩,
    ⟨.noFilesFound, "Batch", .low,
      "No .yang files found in directory",
      "Check the directory contents or the recursion setting"⟩,
    ⟨.directoryUnreadable, "Batch", .medium,
      "I/O error during directory traversal",
      "Check directory permissions"⟩,
    ⟨.workerFailure, "Batch", .high,
      "A worker thread panicked",
      "Re-run with --sequential to isolate the file"⟩,
    ⟨.fileFailed, "Batch", .medium,
      "A file in the batch failed validation or could not be read",
      "Run the file on its own for the full report"⟩,
    ⟨.noResult, "Batch", .medium,
      "The pipeline could not produce a result for the file",
      "Check that the file declares a module"⟩,
    ⟨.fileLimitReached, "Batch", .low,
      "Discovery stopped at the file limit",
      "Raise --max-files or narrow the directory"⟩
  ]

namespace Code

def info? (code : Code) : Option CodeInfo :=
  registry.find? (·.code == code)

/-- An unknown code counts as severe. -/
def severity (code : Code) : Severity :=
  code.info?.elim .high CodeInfo.severity

def description (code : Code) : String :=
  code.info?.elim "Unknown error" CodeInfo.description

def action (code : Code) : String :=
  code.info?.elim "No specific action available" CodeInfo.action

def category (code : Code) : String :=
  code.info?.elim "Unknown" CodeInfo.category

end Code

end YangCheck.Log
