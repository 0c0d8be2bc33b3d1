import YangCheck.Batch.Discovery
import YangCheck.Batch.Workers

namespace YangCheck.Batch

open Log

variable [Limits]

/-- What came of one file, and what its report says. -/
structure Outcome where
  result : Except InspectionError Inspection
  written : String

namespace Outcome

def isFailure (outcome : Outcome) : Bool :=
  match outcome.result with
  | .ok _ => false
  | .error _ => true

end Outcome

/-- Does the work on one file of a batch; its report is kept to be shown whole. -/
def runFile (disk : Disk) (config : Config) (path : String) (id : Nat) : Traced Outcome := do
  let (result, sink) ← Inspection.run disk config.policy config.mode path id {}
  match result with
  | .ok _ => pure ()
  | .error error =>
    Traced.event ((Event.error .fileFailed "File processing failed").addAll
      [("file", path), ("file_id", toString id), ("error_code", error.code.text),
        ("reason", error.message)])
  return { result, written := sink.text }

def showProgress (config : Config) (position total : Nat) (path : String) (outcome : Outcome) :
    Traced Unit := do
  if config.showProgress then
    Traced.output s!"Processing file {position} of {total}: {path}\n"
    Traced.output outcome.written

def finalEvent (message : String) (results : Results) : Event :=
  (Event.success .batchDone message).addAll
    [("files_processed", toString results.processed),
      ("successful", toString results.successes.size), ("failed", toString results.failures.size)]

section Work

variable (work : (path : String) → (id : Nat) → Traced Outcome) (config : Config)

/-- Takes files in order, from number `id` on; a failure may end the batch. -/
def runInOrder (total : Nat) : (id : Nat) → List String → Results → Traced Results
  | _, [], results => return results
  | id, path :: rest, results => do
    let outcome ← work path id
    showProgress config (id + 1) total path outcome
    let results := results.add path outcome.result
    if outcome.isFailure && config.failFast then
      Traced.event (Event.info "Fail-fast mode enabled, stopping batch processing")
      return results
    else runInOrder total (id + 1) rest results

def processInOrder (files : List String) : Traced Results :=
  runInOrder work config files.length 0 files { discovered := files.length }

/-- Records the outcomes of some files, given by number, in turn. -/
def record (files : Array String) : (position : Nat) → List Nat → Results → Traced Results
  | _, [], results => return results
  | position, file :: rest, results =>
    match files[file]? with
    | none => record files position rest results
    | some path => do
      let outcome ← work path file
      showProgress config position files.size path outcome
      record files (position + 1) rest (results.add path outcome.result)

/-- Whether what comes of a file tells all workers to stop. -/
def stopsAt (files : Array String) (file : Nat) : Bool :=
  config.failFast && files[file]?.any fun path => (work path file).value.isFailure

/-- There are no more workers than files. -/
def workersFor (files : List String) : Nat :=
  min config.effectiveThreads files.length

def poolAfter (files : List String) (schedule : List Nat) : Pool :=
  (Pool.start (workersFor config files)).run files.length (stopsAt work config files.toArray)
    schedule

/-- The results of files that workers take along a schedule. -/
def processInParallel (files : List String) (schedule : List Nat) : Traced Results := do
  let pool := poolAfter work config files schedule
  let results ←
    record work config files.toArray 1 pool.recorded.toList { discovered := files.length }
  if pool.stop then
    Traced.event (Event.info "Fail-fast mode enabled, stopped batch processing")
  return results.sortByPath

end Work

def runSequential (disk : Disk) (config : Config) (directory : String) :
    Traced (Except BatchError Results) := do
  Traced.event ((Event.info "Starting sequential batch processing").add "directory" directory)
  match ← discover disk config directory with
  | .error error => return .error error
  | .ok files =>
    let results ← processInOrder (runFile disk config) config files
    Traced.timed (finalEvent "Sequential batch processing completed" results)
    return .ok results

def runParallel (disk : Disk) (config : Config) (directory : String) :
    Traced (Except BatchError Results) := do
  let threads := config.effectiveThreads
  Traced.event ((Event.info "Starting parallel batch processing").addAll
    [("directory", directory), ("max_threads", toString threads)])
  match ← discover disk config directory with
  | .error error => return .error error
  | .ok files =>
    Traced.event ((Event.debug "Parallel processing configuration").addAll
      [("total_files", toString files.length), ("threads", toString threads)])
    let schedule := Pool.oneByOne (workersFor config files) files.length
    let results ← processInParallel (runFile disk config) config files schedule
    Traced.timed ((finalEvent "Parallel batch processing completed" results).add
      "threads_used" (toString threads))
    return .ok results

def run (disk : Disk) (config : Config) (directory : String) :
    Traced (Except BatchError Results) :=
  if config.effectiveThreads = 1 then runSequential disk config directory
  else runParallel disk config directory

end YangCheck.Batch
