import YangCheck.Duration
import YangCheck.Inspection.Basic

namespace YangCheck.Batch

open Log Decimal

variable [Limits]

structure Config where
  maxThreads : Nat
  recursive : Bool := true
  maxFiles : Option Nat := none
  showProgress : Bool := true
  failFast : Bool := false
  mode : Mode := .full
  policy : FilePolicy := {}
deriving DecidableEq, Repr

namespace Config

/-- At least one worker and at most the greatest number. -/
def effectiveThreads (config : Config) : Nat :=
  max 1 (min config.maxThreads Limits.maxWorkers)

def fileLimit (config : Config) : Nat :=
  config.maxFiles.elim Limits.maxFilesPerBatch (min · Limits.maxFilesPerBatch)

end Config

inductive BatchError where
  | directoryNotFound (path : String)
  | noFilesFound (path : String)
  | directoryUnreadable (reason : String)
  | workerFailed (reason : String)
deriving DecidableEq, Repr

namespace BatchError

def message : BatchError → String
  | .directoryNotFound path => s!"Directory not found: {path}"
  | .noFilesFound path => s!"No YANG files found in directory: {path}"
  | .directoryUnreadable reason => s!"IO error during directory traversal: {reason}"
  | .workerFailed reason => s!"Worker thread error: {reason}"

def code : BatchError → Code
  | .directoryNotFound _ => .directoryNotFound
  | .noFilesFound _ => .noFilesFound
  | .directoryUnreadable _ => .directoryUnreadable
  | .workerFailed _ => .workerFailure

end BatchError

/-- What came of the files of a batch, in the order of recording. -/
structure Results where
  successes : Array (String × Inspection) := #[]
  failures : Array (String × InspectionError) := #[]
  processed : Nat := 0
  discovered : Nat := 0
  duration : Duration := {}

namespace Results

def addSuccess (r : Results) (path : String) (inspection : Inspection) : Results :=
  { r with successes := r.successes.push (path, inspection), processed := r.processed + 1 }

def addFailure (r : Results) (path : String) (error : InspectionError) : Results :=
  { r with failures := r.failures.push (path, error), processed := r.processed + 1 }

def add (r : Results) (path : String) : Except InspectionError Inspection → Results
  | .ok inspection => r.addSuccess path inspection
  | .error error => r.addFailure path error

def sortByPath (r : Results) : Results :=
  { r with
    successes := (Path.sortBy Prod.fst r.successes.toList).toArray
    failures := (Path.sortBy Prod.fst r.failures.toList).toArray }

/-- The share of the processed files that passed; zero where none was processed. -/
def successRate (r : Results) : Binary53 :=
  if r.processed = 0 then Binary53.ofNat 0
  else (Binary53.ofNat r.successes.size).div (Binary53.ofNat r.processed)

def successPercent (r : Results) : String :=
  (r.successRate.mul (Binary53.ofNat 100)).fixed 1

def warningCount (r : Results) : Nat :=
  r.successes.foldl (fun n entry => n + entry.2.warningCount) 0

def summary (r : Results) : String :=
  let files := s!"{r.processed} files processed"
  let passed := s!"{r.successes.size} successful ({r.successPercent}%)"
  let failed := s!"{r.failures.size} failed"
  s!"Batch processing completed: {files}, {passed}, {failed}, {r.duration.seconds.fixed 2}s total"

end Results

/-- The endings of the names of files that a batch takes. -/
def extensions : List String := ["yang"]

def capabilities (recommendedThreads : Nat) : String :=
  let threads := s!"{recommendedThreads} threads recommended (max {Limits.maxWorkers})"
  let files := s!"up to {Limits.maxFilesPerBatch} files per batch"
  s!"Batch processor: {threads}, {files}, extensions: " ++ ", ".intercalate extensions

end YangCheck.Batch
