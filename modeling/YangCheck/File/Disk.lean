import YangCheck.File.Path

namespace YangCheck

/-- What a name in a directory stands for. A device can be neither read nor entered. -/
inductive Entry where
  | file (content : ByteArray)
  | directory (entries : List (String × Entry))
  | link (target : String)
  | device

/-- The directories below the root, and the place that relative paths start from. All names are
texts, all files and directories can be read, and nothing changes while they are. -/
structure Disk where
  root : List (String × Entry) := []
  workingDirectory : List String := []

namespace Disk

/-- A path with this many bytes or more leads nowhere. -/
def maxPathBytes : Nat := 4096

/-- How many links may be followed on the way along a path. -/
def maxLinks : Nat := 40

def named? (entries : List (String × Entry)) (name : String) : Option Entry :=
  (entries.find? (·.1 == name)).map (·.2)

/-- The entry that names lead to below a directory, with no link followed. -/
def lookup? (entries : List (String × Entry)) : List String → Option Entry
  | [] => some (.directory entries)
  | name :: names =>
    match named? entries name with
    | some (.directory inner) => lookup? inner names
    | some entry => if names.isEmpty then some entry else none
    | none => none

def entryAt? (disk : Disk) (place : List String) : Option Entry :=
  lookup? disk.root place

/-- Where the walk along a path begins, backwards: at the root, or at the place it is relative
to. -/
def startFrom (path : String) (place : List String) : List String :=
  if Path.isAbsolute path then [] else place

/-- Walks on from a directory, given backwards, along the names of a path, with `links` links left
to follow. An empty name and a dot stay in place. -/
def walk (disk : Disk) (links : Nat) (place : List String) (names : List String) :
    Option (List String × Entry) :=
  match names with
  | [] => (disk.entryAt? place.reverse).map (place, ·)
  | name :: rest =>
    match disk.entryAt? place.reverse with
    | some (.directory _) =>
      if name = "" || name = "." then walk disk links place rest
      else if name = ".." then walk disk links place.tail rest
      else
        match disk.entryAt? (name :: place).reverse with
        | none => none
        | some (.link target) =>
          match links with
          | 0 => none
          | links + 1 =>
            if target.isEmpty then none
            else walk disk links (startFrom target place) (Path.segments target ++ rest)
        | some _ => walk disk links (name :: place) rest
    | _ => none
termination_by (links, names.length)

def start (disk : Disk) (path : String) : List String :=
  startFrom path disk.workingDirectory.reverse

/-- The place, with no links on the way, and the entry that a path leads to. -/
def find? (disk : Disk) (path : String) : Option (List String × Entry) :=
  if path.isEmpty || path.toList.contains '\x00' || maxPathBytes ≤ path.utf8ByteSize then none
  else
    (disk.walk maxLinks (disk.start path) (Path.segments path)).map fun (place, entry) =>
      (place.reverse, entry)

def exists? (disk : Disk) (path : String) : Bool :=
  (disk.find? path).isSome

def isDirectory (disk : Disk) (path : String) : Bool :=
  match disk.find? path with
  | some (_, .directory _) => true
  | _ => false

/-- The place and the content of a regular file. -/
def file? (disk : Disk) (path : String) : Option (List String × ByteArray) :=
  match disk.find? path with
  | some (place, .file content) => some (place, content)
  | _ => none

def names (disk : Disk) (path : String) : List String :=
  match disk.find? path with
  | some (_, .directory entries) => (entries.map (·.1)).mergeSort fun a b => !(b < a)
  | _ => []

/-- Puts an entry at a place, with the directories on the way. -/
def insertAt (entry : Entry) : List String → List (String × Entry) → List (String × Entry)
  | [], entries => entries
  | name :: names, entries =>
    let inner :=
      match named? entries name with
      | some (.directory inner) => inner
      | _ => []
    let below := if names.isEmpty then entry else .directory (insertAt entry names inner)
    entries.filter (·.1 != name) ++ [(name, below)]

def eraseAt : List String → List (String × Entry) → List (String × Entry)
  | [], entries => entries
  | name :: names, entries =>
    if names.isEmpty then entries.filter (·.1 != name)
    else
      entries.map fun (n, entry) =>
        match entry with
        | .directory inner => if n = name then (n, .directory (eraseAt names inner)) else (n, entry)
        | _ => (n, entry)

def insert (disk : Disk) (place : List String) (entry : Entry) : Disk :=
  { disk with root := insertAt entry place disk.root }

def erase (disk : Disk) (place : List String) : Disk :=
  { disk with root := eraseAt place disk.root }

/-- Where an entry put at the end of names would stand, on from a place given backwards. All links
are followed; names that stand for nothing yet are taken as they are. -/
def settle (disk : Disk) (links : Nat) (place : List String) (names : List String) :
    Option (List String) :=
  match names with
  | [] => some place
  | name :: rest =>
    if name = "" || name = "." then settle disk links place rest
    else if name = ".." then settle disk links place.tail rest
    else
      match disk.entryAt? (name :: place).reverse with
      | some (.link target) =>
        match links with
        | 0 => none
        | links + 1 => settle disk links (startFrom target place) (Path.segments target ++ rest)
      | _ => settle disk links (name :: place) rest
termination_by (links, names.length)

/-- The place that a path names with all its links followed. -/
def contentPlace? (disk : Disk) (path : String) : Option (List String) :=
  (disk.settle maxLinks (disk.start path) (Path.segments path)).map List.reverse

/-- The place of a path's last name, which is not followed itself. -/
def namePlace? (disk : Disk) (path : String) : Option (List String) :=
  let names := (Path.segments path).filter fun name => name != "" && name != "."
  match names.getLast? with
  | none => none
  | some name =>
    (disk.settle maxLinks (disk.start path) names.dropLast).map fun place =>
      (name :: place).reverse

/-- Writes the file that a path leads to, or a new one. -/
def write (disk : Disk) (path : String) (content : ByteArray) : Disk :=
  (disk.contentPlace? path).elim disk fun place => disk.insert place (.file content)

def makeDirectory (disk : Disk) (path : String) : Disk :=
  if disk.exists? path then disk
  else (disk.contentPlace? path).elim disk fun place => disk.insert place (.directory [])

/-- Gives a new name to a target; a name that stands for something stays as it is. -/
def link (disk : Disk) (path target : String) : Disk :=
  match disk.namePlace? path with
  | none => disk
  | some place =>
    if (disk.entryAt? place).isSome then disk else disk.insert place (.link target)

/-- Takes away a name that is no directory's; what a link leads to stays. -/
def remove (disk : Disk) (path : String) : Disk :=
  match disk.namePlace? path with
  | none => disk
  | some place =>
    match disk.entryAt? place with
    | some (.directory _) => disk
    | _ => disk.erase place

end Disk

end YangCheck
