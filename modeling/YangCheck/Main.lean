import Std.Time.DateTime.Timestamp
import YangCheck.CommandLine.Run

/-!
The program. It takes from the system all that a run may look at, runs on that alone, and then
shows what the run leaves behind.
-/

namespace YangCheck.Host

def placeOf (path : String) : List String :=
  (Path.segments path).filter (· != "")

/-- The real path that a path leads to, where it leads anywhere. -/
def realPath? (path : String) : IO (Option String) := do
  try return some (← IO.FS.realPath path).toString
  catch _ => return none

/-- What a name in a directory stands for, with all that lies below it. The links among that are
kept with the real paths they lead to, which are gathered. A file is read if it is `wanted` or named
as a YANG file. -/
partial def read (wanted : Bool) (name : IO.FS.DirEntry) : StateT (List String) IO Entry := do
  try
    match (← name.path.symlinkMetadata).type with
    | .file =>
      if wanted || Batch.hasYangExtension name.fileName then
        return .file (← IO.FS.readBinFile name.path)
      else return .file ByteArray.empty
    | .dir =>
      let inner ← (← name.path.readDir).toList.mapM fun below =>
        return (below.fileName, ← read false below)
      return .directory inner
    | .symlink =>
      match ← realPath? name.path.toString with
      | some target =>
        modify (target :: ·)
        return .link target
      | none => return .link ""
    | .other => return .device
  catch _ => return .device

/-- Copies what stands at some real paths, and what the links below them lead to. -/
partial def copy (disk : Disk) (done : List (List String)) : List String → IO Disk
  | [] => return disk
  | path :: rest => do
    let place := placeOf path
    let real ← IO.FS.realPath path
    if done.contains place || ((← real.isDir) && done.any (·.isPrefixOf place)) then
      copy disk done rest
    else
      match real.parent, place.getLast? with
      | some root, some fileName =>
        let (entry, targets) ← (read true { root, fileName }).run []
        copy (disk.insert place entry) (place :: done) (targets ++ rest)
      | _, _ =>
        let (inner, targets) ← StateT.run (s := ([] : List String)) do
          (← real.readDir).toList.mapM fun below => return (below.fileName, ← read false below)
        copy { disk with root := inner } (place :: done) (targets ++ rest)

/-- Copies a name on the way along a path, below the real path of the directory it is in. -/
def copyName (disk : Disk) (directory fileName : String) : IO Disk := do
  match ← realPath? directory with
  | none => return disk
  | some real =>
    let place := placeOf real ++ [fileName]
    let name : IO.FS.DirEntry := { root := ← IO.FS.realPath real, fileName }
    try
      match (← name.path.symlinkMetadata).type with
      | .dir =>
        return if (disk.entryAt? place).isSome then disk else disk.insert place (.directory [])
      | .symlink => return disk.insert place (.link ((← realPath? name.path.toString).getD ""))
      | _ => return disk
    catch _ => return disk

/-- A disk with all that a path leads to, and the names on the way. -/
def diskFor (path : String) : IO Disk := do
  let workingDirectory := placeOf (← IO.currentDir).toString
  let mut disk : Disk := { workingDirectory }
  if path.isEmpty || path.toList.contains '\x00' then return disk
  if !workingDirectory.isEmpty then disk := disk.insert workingDirectory (.directory [])
  let mut front := if Path.isAbsolute path then "/" else "."
  for name in Path.segments path do
    if name != "" then
      if name != "." && name != ".." then disk ← copyName disk front name
      front := Path.join front name
  match ← realPath? path with
  | some real => copy disk [] [real]
  | none => return disk

def processors : IO Nat := do
  try return (← IO.FS.lines "/proc/cpuinfo").toList.countP (·.startsWith "processor")
  catch _ => return 1

def now : IO Log.Timestamp := do
  let time := (← Std.Time.Timestamp.now).toNanosecondsSinceUnixEpoch.toInt
  return { seconds := time.fdiv 1000000000, nanoseconds := (time.fmod 1000000000).toNat }

/-- Takes from the system what a run with some arguments may look at. The time that this takes is
what timed work is said to have taken. -/
def environment (arguments : List String) : IO CommandLine.Environment := do
  let start ← IO.monoNanosNow
  let values ← Preferences.variableNames.filterMapM fun name =>
    return (← IO.getEnv name).map (name, ·)
  let disk ← arguments.head?.elim (pure {}) diskFor
  return {
    program := "yang-validator"
    arguments
    valueOf := fun name => values.lookup name
    disk
    processors := max 1 (← processors)
    now := ← now
    elapsed := { nanoseconds := (← IO.monoNanosNow) - start } }

end YangCheck.Host

def main (arguments : List String) : IO UInt32 := do
  let outcome := YangCheck.CommandLine.run (← YangCheck.Host.environment arguments)
  IO.print outcome.stdout
  IO.eprint outcome.stderr
  return outcome.exitCode.toUInt32
