namespace YangCheck.Path

/-- The names between the slashes of a path, empty ones included. -/
def segmentsAfter (front : List Char) : List Char → List (List Char)
  | [] => [front.reverse]
  | '/' :: rest => front.reverse :: segmentsAfter [] rest
  | c :: rest => segmentsAfter (c :: front) rest

def segments (path : String) : List String :=
  (segmentsAfter [] path.toList).map String.ofList

def isAbsolute (path : String) : Bool :=
  path.toList.head? == some '/'

/-- A path without the slashes that repeat and the dots that stay in place, but for one in front. -/
def components (path : String) : List String :=
  let names := (segments path).filter (· != "")
  let front :=
    if isAbsolute path then ["/"]
    else if names.head? == some "." then ["."]
    else []
  front ++ names.filter (· != ".")

/-- How components are ordered: the root, the place itself, the place above it, then the names. -/
def rank (component : String) : Nat :=
  if component = "/" then 0
  else if component = "." then 1
  else if component = ".." then 2
  else 3

def componentLess (a b : String) : Bool :=
  rank a < rank b || (rank a == rank b && a < b)

/-- Paths are ordered by their components, each by its characters. -/
def componentsLess : List String → List String → Bool
  | _, [] => false
  | [], _ :: _ => true
  | a :: as, b :: bs => componentLess a b || (a == b && componentsLess as bs)

def less (p q : String) : Bool :=
  componentsLess (components p) (components q)

/-- Sorts entries by path; entries of the same path keep their order. -/
def sortBy {α : Type} (path : α → String) (entries : List α) : List α :=
  entries.mergeSort fun a b => !less (path b) (path a)

def join (directory name : String) : String :=
  if directory.toList.getLast? == some '/' then directory ++ name else directory ++ "/" ++ name

/-- The last component, where it is a name. -/
def fileName? (path : String) : Option String :=
  match (components path).getLast? with
  | none | some "/" | some "." | some ".." => none
  | some name => some name

/-- What follows the last dot of a name that has characters in front of it. -/
def extension? (path : String) : Option String := do
  let name ← fileName? path
  let backwards := name.toList.reverse
  match backwards.dropWhile (· != '.') with
  | _ :: _ :: _ => return String.ofList (backwards.takeWhile (· != '.')).reverse
  | _ => none

/-- The absolute path of a place below the root. -/
def ofNames (names : List String) : String :=
  "/" ++ "/".intercalate names

end YangCheck.Path
