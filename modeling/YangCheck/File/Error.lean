import YangCheck.Log.Code
import YangCheck.Text.Quoted

namespace YangCheck

inductive FileError where
  | notFound (path : String)
  | invalidExtension (extension : Option String)
  | tooLarge (size maxSize : Nat)
  | permissionDenied (path : String)
  | invalidEncoding (path : String)
  | unreadable (reason : String)
  | invalidPath (path : String)
deriving DecidableEq, Repr

namespace FileError

/-- A missing extension and a given one are told apart. -/
def showExtension : Option String → String
  | none => "None"
  | some extension => s!"Some({Text.quoted extension})"

def message : FileError → String
  | .notFound path => s!"File not found: {path}"
  | .invalidExtension extension =>
    s!"Invalid file extension: expected .yang, found {showExtension extension}"
  | .tooLarge size maxSize => s!"File too large: {size} bytes (max: {maxSize})"
  | .permissionDenied path => s!"Permission denied: {path}"
  | .invalidEncoding path => s!"Invalid UTF-8 encoding in file: {path}"
  | .unreadable reason => s!"I/O error reading file: {reason}"
  | .invalidPath path => s!"Invalid file path: {path}"

def code : FileError → Log.Code
  | .notFound _ => .fileNotFound
  | .invalidExtension _ => .invalidExtension
  | .tooLarge _ _ => .fileTooLarge
  | .permissionDenied _ => .permissionDenied
  | .invalidEncoding _ => .invalidEncoding
  | .unreadable _ => .ioError
  | .invalidPath _ => .invalidPath

end FileError

end YangCheck
