import YangCheck.Batch.Run
import YangCheck.CommandLine.Help
import YangCheck.CommandLine.Options
import YangCheck.Inspection.SelfCheck
import YangCheck.Model.Json
import YangCheck.Model.Tree

namespace YangCheck.CommandLine

open Log

variable [Limits]

/-- All that a run depends on. -/
structure Environment where
  program : String
  arguments : List String
  valueOf : String → Option String
  disk : Disk
  processors : Nat
  /-- The time that log lines carry. -/
  now : Timestamp
  /-- How long timed work is said to have taken. -/
  elapsed : Duration

structure Outcome where
  exitCode : Nat
  stdout : String
  stderr : String
deriving DecidableEq, Repr

namespace Environment

def preferences (e : Environment) : Preferences :=
  Preferences.ofVariables e.valueOf

/-- As many threads as there are processors, within the greatest number of workers. -/
def recommendedThreads (e : Environment) : Nat :=
  min e.processors Limits.maxWorkers

def usualOptions (e : Environment) : Options :=
  { batch := { maxThreads := e.recommendedThreads, policy := e.preferences.filePolicy } }

end Environment

def printLines (lines : List String) : Traced Unit :=
  Traced.output (String.join (lines.map (· ++ "\n")))

def complain (line : String) : Traced Unit :=
  Traced.diagnostic (line ++ "\n")

def showModule (m : Module) (json : Bool) : String :=
  if json then m.toJson.pretty ++ "\n" else m.renderTree

def runFile (e : Environment) (options : Options) (path : String) : Traced Nat := do
  let (result, sink) ← Inspection.run e.disk options.batch.policy options.mode path 0 {}
  Traced.output sink.text
  match result with
  | .ok inspection =>
    match inspection.module? with
    | some m => Traced.output (showModule m options.json)
    | none => pure ()
    return 0
  | .error error =>
    if !error.isToldByReport then complain s!"FAILED: {error.message}"
    return 1

def describe (inspection : Inspection) : String :=
  match inspection.module? with
  | some m => s!"module {m.name}, {m.nodeCount} nodes, {inspection.warningCount} warnings"
  | none => s!"{inspection.warningCount} warnings"

/-- The most successes that are listed in full, and how many are listed of more than that. -/
def maxListed : Nat := 10

def excerptSize : Nat := 5

def resultLines (results : Batch.Results) : List String :=
  let passed := results.successes.size
  let failed := results.failures.size
  let counts :=
    ["Batch Processing Summary:",
      s!"  Files discovered: {results.discovered}",
      s!"  Files processed: {results.processed}",
      s!"  Successful: {passed} ({results.successPercent}%)",
      s!"  Failed: {failed}",
      s!"  Total time: {results.duration.seconds.fixed 2}s"]
  let warnings :=
    if results.warningCount = 0 then []
    else [s!"  Warnings in passing files: {results.warningCount}"]
  let failures :=
    if failed = 0 then []
    else ["", "Failed Files:"] ++ results.failures.toList.map fun (path, error) =>
      s!"  {path}: {error.stage} ({error.message})"
  let list := results.successes.toList.map fun (path, inspection) =>
    s!"  {path}: {describe inspection}"
  let successes :=
    if passed = 0 then []
    else if passed ≤ maxListed then ["", "Successful Files:"] ++ list
    else
      ["", s!"{passed} files processed successfully (showing first {excerptSize}):"] ++
        list.take excerptSize ++ [s!"  ... and {passed - excerptSize} more"]
  counts ++ warnings ++ failures ++ successes

def runDirectory (e : Environment) (options : Options) (path : String) : Traced Nat := do
  let config := options.batch
  let settings := s!"recursive={config.recursive}, fail_fast={config.failFast}"
  printLines ([s!"Starting batch processing: {path}",
    s!"Configuration: {config.effectiveThreads} threads, {settings}, mode={config.mode.name}"] ++
    config.maxFiles.elim [] fun n => [s!"File limit: {n} files maximum"])
  match ← Batch.run e.disk config path with
  | .ok results =>
    printLines ("" :: resultLines { results with duration := e.elapsed })
    return if results.failures.isEmpty then 0 else 1
  | .error error =>
    complain s!"Batch processing failed: {error.message}"
    return 1

def runArguments (e : Environment) : Traced Nat := do
  match e.arguments with
  | [] =>
    (usage e.program).forM complain
    return 1
  | "--help" :: _ =>
    printLines (help e.program e.recommendedThreads e.preferences)
    return 0
  | path :: rest =>
    (e.usualOptions.warnings (Flag.ofArguments rest)).forM fun warning =>
      complain s!"Warning: {warning}"
    match e.usualOptions.parse rest with
    | .error error =>
      complain s!"Error: {error.message}"
      return 1
    | .ok options =>
      if e.disk.isDirectory path then runDirectory e options path else runFile e options path

/-- A run from the start of the log to the exit code. -/
def runNoting (e : Environment) : Traced Nat := do
  match Limits.logFault? with
  | some fault =>
    complain s!"Error: Configuration validation failed: {fault}"
    return 1
  | none =>
    Traced.event (Event.success .started "Global logging system initialized")
    match ← SelfCheck.run with
    | .error failure =>
      complain s!"Error: {failure.message}"
      return 1
    | .ok () => runArguments e

/-- The log line of an event, where the preferences let it be seen. -/
def logLine (e : Environment) (event : Event) : String :=
  let p := e.preferences
  if p.consoleLog && event.level.passes p.minLevel then
    (if p.structuredLog then (event.toJson e.now).compact else event.render) ++ "\n"
  else ""

def errorText (e : Environment) : Note → String
  | .event event => logLine e event
  | .timed event => logLine e (event.add "duration_ms" (e.elapsed.milliseconds.fixed 2))
  | .diagnostic text => text
  | .output _ => ""

def outputText : Note → String
  | .output text => text
  | _ => ""

def run (e : Environment) : Outcome :=
  let traced := runNoting e
  { exitCode := traced.value
    stdout := String.join (traced.notes.map outputText)
    stderr := String.join (traced.notes.map (errorText e)) }

end YangCheck.CommandLine
