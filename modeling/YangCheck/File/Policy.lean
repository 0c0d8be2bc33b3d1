import YangCheck.File.Disk
import YangCheck.File.Error
import YangCheck.File.LineReader
import YangCheck.File.Size
import YangCheck.Log.Trace

namespace YangCheck

open Log

variable [Limits]

/-- What is known of a file before it is read. The extension is in lower case. -/
structure FileInfo where
  path : String
  size : Nat
  extension : Option String
deriving DecidableEq, Repr

def FileInfo.isYang (info : FileInfo) : Bool :=
  info.extension == some "yang"

/-- Which files are taken, and whether a finished reading is noted. -/
structure FilePolicy where
  requireYangExtension : Bool := false
  enforceSizeLimit : Bool := true
  noteReading : Bool := true
deriving DecidableEq, Repr

namespace FilePolicy

/-- Takes any file that can be read. -/
def unrestricted : FilePolicy :=
  { enforceSizeLimit := false }

def fail {α : Type} (error : FileError) (message : String) (context : List (String × String)) :
    Traced (Except FileError α) := do
  Traced.event ((Event.error error.code message).addAll context)
  return .error error

def locate (disk : Disk) (path : String) : Traced (Except FileError (String × ByteArray)) :=
  if path.isEmpty then fail (.invalidPath "") "Empty file path provided" []
  else if !disk.exists? path then fail (.notFound path) "File not found" [("path", path)]
  else
    match disk.file? path with
    | some (place, content) => return .ok (Path.ofNames place, content)
    | none => fail (.invalidPath path) "Path is not a file" [("path", path)]

def describe (path : String) (content : ByteArray) : FileInfo :=
  { path
    size := content.size
    extension := (Path.extension? path).map Text.lowercase }

/-- The size is looked at before the extension. -/
def judge (policy : FilePolicy) (info : FileInfo) : Traced (Except FileError Unit) :=
  if policy.enforceSizeLimit && Limits.maxFileSize < info.size then
    fail (.tooLarge info.size Limits.maxFileSize) "File exceeds compile-time maximum size limit"
      [("file", info.path), ("size_bytes", toString info.size),
        ("limit_bytes", toString Limits.maxFileSize)]
  else if policy.requireYangExtension && !info.isYang then
    fail (.invalidExtension info.extension) "File does not have required .yang extension"
      [("file", info.path), ("extension", info.extension.getD "none")]
  else return .ok ()

/-- Finds a file and judges it; gives what is known of it and its content. -/
def inspect (policy : FilePolicy) (disk : Disk) (path : String) :
    Traced (Except FileError (FileInfo × ByteArray)) := do
  match ← locate disk path with
  | .error error => return .error error
  | .ok (place, content) =>
    let info := describe place content
    Traced.event ((Event.debug "File metadata collected").addAll
      [("size_bytes", toString info.size), ("size_human", FileSize.human info.size),
        ("extension", info.extension.getD "none"),
        ("is_large_file", toString (FileSize.isLarge info.size))])
    match ← policy.judge info with
    | .error error => return .error error
    | .ok () => return .ok (info, content)

def check (policy : FilePolicy) (disk : Disk) (path : String) :
    Traced (Except FileError FileInfo) := do
  return (← policy.inspect disk path).map Prod.fst

end FilePolicy

/-- A file that has been read: its lines up to the first that is not UTF-8, and the fault there. -/
structure Source where
  info : FileInfo
  lines : List String
  fault : Option Text.Utf8Fault

namespace Source

def error? (source : Source) : Option FileError :=
  source.fault.map fun _ => .invalidEncoding source.info.path

def close (policy : FilePolicy) (source : Source) : Traced Unit :=
  match source.fault with
  | some fault =>
    Traced.event ((Event.error .invalidEncoding "Failed to read line").addAll
      [("file", source.info.path), ("after_line", toString source.lines.length),
        ("io_error", fault.message)])
  | none =>
    if policy.noteReading then
      Traced.timed ((Event.success .fileRead "File read successfully").addAll
        [("file", source.info.path), ("size_bytes", toString source.info.size),
          ("size_human", FileSize.human source.info.size),
          ("lines", toString source.lines.length)])
    else return ()

end Source

def FilePolicy.read (policy : FilePolicy) (disk : Disk) (path : String) :
    Traced (Except FileError Source) := do
  Traced.event ((Event.debug "Opening source file").add "file" path)
  match ← policy.inspect disk path with
  | .error error => return .error error
  | .ok (info, content) =>
    let (lines, fault) := LineReader.decode (LineReader.chunksOf content)
    return .ok { info, lines, fault }

end YangCheck
