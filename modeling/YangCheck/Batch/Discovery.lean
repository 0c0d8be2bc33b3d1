import YangCheck.Batch.Basic

namespace YangCheck.Batch

open Log

variable [Limits]

/-- Whether a name ends in the extension of YANG files, in any ASCII case. -/
def hasYangExtension (path : String) : Bool :=
  (Path.extension? path).any fun extension => extension.map Char.toLower == "yang"

/-- Whether a path leads to a regular file and is itself named as a YANG file. -/
def isYangFile (disk : Disk) (path : String) : Bool :=
  (disk.file? path).isSome && hasYangExtension path

/-- Adds the YANG files of a directory to those found, in the order of names, until `limit` are
found. Directories are entered at most `depth` deep. -/
def visit (disk : Disk) (recursive : Bool) (limit : Nat) :
    (depth : Nat) → (directory : String) → Array String → Array String
  | 0, _, found => found
  | depth + 1, directory, found =>
    (disk.names directory).foldl
      (fun found name =>
        let path := Path.join directory name
        if limit ≤ found.size then found
        else if disk.isDirectory path then
          if recursive then visit disk recursive limit depth path found else found
        else if isYangFile disk path then found.push path
        else found)
      found

/-- The YANG files of a directory, sorted by path. Each step down makes a path longer, and a path
has fewer bytes than `Disk.maxPathBytes`. -/
def collect (disk : Disk) (config : Config) (directory : String) : List String :=
  Path.sortBy id
    (visit disk config.recursive config.fileLimit Disk.maxPathBytes directory #[]).toList

def discover (disk : Disk) (config : Config) (directory : String) :
    Traced (Except BatchError (List String)) := do
  Traced.event ((Event.info "Starting file discovery").addAll
    [("directory", directory), ("recursive", toString config.recursive)])
  if !disk.isDirectory directory then
    let error := BatchError.directoryNotFound directory
    Traced.event ((Event.error error.code "File discovery failed").add "directory" directory)
    return .error error
  else
    let files := collect disk config directory
    if config.fileLimit ≤ files.length then
      Traced.event ((Event.codedWarning .fileLimitReached "Reached maximum file limit").addAll
        [("files_found", toString files.length), ("limit", toString config.fileLimit)])
    if files.isEmpty then return .error (.noFilesFound directory)
    else
      Traced.event ((Event.success .filesFound "File discovery completed").addAll
        [("files_found", toString files.length), ("directory", directory)])
      return .ok files

end YangCheck.Batch
