import YangCheck.Batch.Basic

namespace YangCheck.CommandLine

/-- An option, with the argument behind it where it takes one. -/
inductive Flag where
  | validateOnly
  | buildOnly
  | json
  | sequential
  | threads (value : Option String)
  | noRecursive
  | maxFiles (value : Option String)
  | failFast
  | quiet
  | unknown (text : String)
deriving DecidableEq, Repr

structure Options where
  mode : Mode := .full
  json : Bool := false
  batch : Batch.Config
deriving DecidableEq, Repr

inductive OptionError where
  | conflictingModes
deriving DecidableEq, Repr

def OptionError.message : OptionError → String
  | .conflictingModes => "--validate-only and --build-only cannot be combined"

/-- The greatest number that a value can have. -/
def maxNumber : Nat := UInt64.size - 1

/-- The number that ASCII digits spell. -/
def valueOf? (digits : List Char) : Option Nat :=
  if digits.isEmpty || !digits.all Char.isDigit then none
  else
    let n := digits.foldl (fun n c => 10 * n + (c.toNat - 48)) 0
    if n ≤ maxNumber then some n else none

/-- A number in ASCII digits; a plus sign may stand in front. -/
def number? (text : String) : Option Nat :=
  match text.toList with
  | '+' :: digits => valueOf? digits
  | digits => valueOf? digits

namespace Flag

def ofText (text : String) : Flag :=
  match text with
  | "--validate-only" => .validateOnly
  | "--build-only" => .buildOnly
  | "--json" => .json
  | "--sequential" => .sequential
  | "--no-recursive" => .noRecursive
  | "--fail-fast" => .failFast
  | "--quiet" => .quiet
  | text => .unknown text

/-- An argument behind an option that takes a value is its value, whatever it looks like. -/
def ofArguments : List String → List Flag
  | [] => []
  | ["--threads"] => [.threads none]
  | ["--max-files"] => [.maxFiles none]
  | "--threads" :: value :: rest => .threads (some value) :: ofArguments rest
  | "--max-files" :: value :: rest => .maxFiles (some value) :: ofArguments rest
  | text :: rest => ofText text :: ofArguments rest

/-- What the user is told of an option that changes nothing. -/
def warning? : Flag → Option String
  | .threads none => some "--threads requires a number"
  | .threads (some value) =>
    if (number? value).isSome then none
    else some s!"Invalid thread count '{value}', using default"
  | .maxFiles none => some "--max-files requires a number"
  | .maxFiles (some value) =>
    if (number? value).isSome then none else some s!"Invalid max files '{value}', ignoring"
  | .unknown text => some s!"Unknown option '{text}'"
  | _ => none

end Flag

namespace Options

/-- The two modes that leave a half out exclude each other. -/
def selectMode (o : Options) (mode : Mode) : Except OptionError Options :=
  if o.mode ≠ .full ∧ o.mode ≠ mode then .error .conflictingModes
  else .ok { o with mode }

def apply (o : Options) : Flag → Except OptionError Options
  | .validateOnly => o.selectMode .validateOnly
  | .buildOnly => o.selectMode .buildOnly
  | .json => .ok { o with json := true }
  | .sequential => .ok { o with batch := { o.batch with maxThreads := 1 } }
  | .threads value =>
    match value.bind number? with
    | some n => .ok { o with batch := { o.batch with maxThreads := max n 1 } }
    | none => .ok o
  | .noRecursive => .ok { o with batch := { o.batch with recursive := false } }
  | .maxFiles value =>
    match value.bind number? with
    | some n => .ok { o with batch := { o.batch with maxFiles := some n } }
    | none => .ok o
  | .failFast => .ok { o with batch := { o.batch with failFast := true } }
  | .quiet => .ok { o with batch := { o.batch with showProgress := false } }
  | .unknown _ => .ok o

def applyAll (o : Options) (flags : List Flag) : Except OptionError Options :=
  flags.foldlM apply o

/-- The warnings of the options up to the first that cannot be applied. -/
def warnings (o : Options) : List Flag → List String
  | [] => []
  | flag :: rest =>
    match o.apply flag with
    | .ok o => flag.warning?.toList ++ o.warnings rest
    | .error _ => []

/-- A batch runs in the mode that the options are in. -/
def shareMode (o : Options) : Options :=
  { o with batch := { o.batch with mode := o.mode } }

theorem mode_shareMode (o : Options) : o.shareMode.mode = o.mode := rfl

theorem batch_mode_shareMode (o : Options) : o.shareMode.batch.mode = o.shareMode.mode := rfl

/-- The options that arguments give, over those that hold without any. -/
def parse (usual : Options) (arguments : List String) : Except OptionError Options :=
  (usual.applyAll (Flag.ofArguments arguments)).map shareMode

end Options

end YangCheck.CommandLine
