import YangCheck.Proofs.Batch.Discovery
import YangCheck.Proofs.Batch.Results
import YangCheck.Proofs.Batch.Workers

namespace YangCheck.Batch

open Log

section Work

variable [Limits] (work : String → Nat → Traced Outcome) {config : Config} {files : List String}
  {schedule : List Nat}

theorem value_processInOrder_reached (config : Config) (files : List String) :
    (processInOrder work config files).value =
      .ofEntries files.length (reached config (entriesFrom work 0 files)) :=
  (value_runInOrder work config files.length 0 files _).trans (Results.addAll_eq_ofEntries _ _)

theorem value_processInOrder (hoff : config.failFast = false) (files : List String) :
    (processInOrder work config files).value =
      .ofEntries files.length (entriesFrom work 0 files) := by
  rw [value_processInOrder_reached, reached_of_not_failFast hoff]

theorem value_processInParallel (config : Config) (files : List String) (schedule : List Nat) :
    (processInParallel work config files schedule).value =
      (Results.ofEntries files.length
        ((poolAfter work config files schedule).recorded.toList.filterMap
          (outcomeAt? work files))).sortByPath := by
  rw [← Results.addAll_eq_ofEntries, ← value_record work config files 1, processInParallel]
  simp only [Traced.value_bind]
  split <;> rfl

theorem exists_work_of_mem_failures_processInOrder {path : String} {error : InspectionError}
    (h : (path, error) ∈ (processInOrder work config files).value.failures) :
    path ∈ files ∧ ∃ file, (work path file).value.result = .error error := by
  rw [value_processInOrder_reached, Results.mem_failures_ofEntries] at h
  obtain ⟨entry, hentry, hfailure⟩ := h
  rw [Entry.eq_of_failure? hfailure] at hentry
  exact exists_work_of_mem work (List.mem_of_mem_take hentry)

theorem exists_work_of_mem_failures_processInParallel {path : String} {error : InspectionError}
    (h : (path, error) ∈ (processInParallel work config files schedule).value.failures) :
    path ∈ files ∧ ∃ file, (work path file).value.result = .error error := by
  rw [value_processInParallel, Results.sortByPath, List.mem_toArray,
    (Path.sortBy_perm _ _).mem_iff, Array.mem_toList_iff, Results.mem_failures_ofEntries] at h
  obtain ⟨entry, hentry, hfailure⟩ := h
  obtain ⟨file, -, hfile⟩ := List.mem_filterMap.mp hentry
  rw [outcomeAt?_eq, Entry.eq_of_failure? hfailure] at hfile
  exact exists_work_of_mem work (List.mem_of_getElem? hfile)

theorem pos_workersFor (config : Config) (files : List String) :
    files.length = 0 ∨ 0 < workersFor config files := by
  simp only [workersFor, Config.effectiveThreads]
  omega

omit [Limits] in
theorem pairwise_entriesFrom (id : Nat)
    (h : files.Pairwise fun p q => Path.less p q = true) :
    (entriesFrom work id files).Pairwise fun a b => Path.less a.1 b.1 = true := by
  rw [← fst_entriesFrom work id files] at h
  exact List.pairwise_map.mp h

/-- Workers that have recorded the files in front of some number come to the results of these files,
in whatever order they were recorded. -/
theorem value_processInParallel_of_perm {taken : Nat}
    (hfiles : files.Pairwise fun p q => Path.less p q = true)
    (h : (poolAfter work config files schedule).recorded.toList.Perm (List.range taken)) :
    (processInParallel work config files schedule).value =
      .ofEntries files.length ((entriesFrom work 0 files).take taken) := by
  have hperm := h.filterMap (outcomeAt? work files)
  rw [filterMap_range_outcomeAt?] at hperm
  have hsorted := (pairwise_entriesFrom work 0 hfiles).sublist (List.take_sublist taken _)
  rw [value_processInParallel]
  exact Results.sortByPath_ofEntries hperm hsorted _

omit [Limits] in
theorem stopsAt_eq_false (hoff : config.failFast = false) (files : Array String) (file : Nat) :
    stopsAt work config files file = false := by
  rw [stopsAt, hoff, Bool.false_and]

theorem processInParallel_eq_processInOrder (hoff : config.failFast = false)
    (hfiles : files.Pairwise fun p q => Path.less p q = true)
    (hfinished : (poolAfter work config files schedule).isFinished = true) :
    (processInParallel work config files schedule).value =
      (processInOrder work config files).value := by
  have hnever := stopsAt_eq_false work hoff files.toArray
  obtain ⟨hrecorded, -⟩ :=
    Pool.perm_range_of_isFinished hnever (pos_workersFor config files) hfinished
  rw [value_processInParallel_of_perm work hfiles hrecorded, value_processInOrder work hoff,
    ← length_entriesFrom work 0 files, List.take_length]

/-- Whatever the work on a file is and in whatever order the workers take their steps, once all of
them have finished each file has been run once and recorded once, and the sorted results are those
of the files taken one after another. -/
theorem parallel_agrees_with_sequential (hoff : config.failFast = false)
    (hfiles : files.Pairwise fun p q => Path.less p q = true)
    (hfinished : (poolAfter work config files schedule).isFinished = true) :
    let parallel := (processInParallel work config files schedule).value
    let sequential := (processInOrder work config files).value
    ((Pool.start (workersFor config files)).runsAlong files.length
        (stopsAt work config files.toArray) schedule).Perm (List.range files.length) ∧
      (poolAfter work config files schedule).recorded.toList.Perm (List.range files.length) ∧
      parallel.successes = sequential.successes ∧ parallel.failures = sequential.failures ∧
      parallel.processed = sequential.processed ∧ parallel.discovered = sequential.discovered ∧
      parallel.processed = parallel.successes.size + parallel.failures.size ∧
      parallel.processed = parallel.discovered := by
  have hnever := stopsAt_eq_false work hoff files.toArray
  obtain ⟨hrecorded, hran⟩ :=
    Pool.perm_range_of_isFinished hnever (pos_workersFor config files) hfinished
  have hsame := processInParallel_eq_processInOrder work hoff hfiles hfinished
  have hvalue := value_processInOrder work hoff files
  intro parallel sequential
  refine ⟨hran, hrecorded, ?_, ?_, ?_, ?_, ?_, ?_⟩
  · exact congrArg Results.successes hsame
  · exact congrArg Results.failures hsame
  · exact congrArg Results.processed hsame
  · exact congrArg Results.discovered hsame
  · have hsplit : parallel = _ := hsame.trans hvalue
    rw [hsplit]
    exact Results.processed_ofEntries _ _
  · have hsplit : parallel = _ := hsame.trans hvalue
    rw [hsplit]
    exact length_entriesFrom work 0 files

end Work

def partWork (path : String) (id : Nat) : Traced Outcome :=
  if id = 0 then pure { result := .error (.noResult path), written := "" }
  else pure { result := .ok { path, mode := .full }, written := path }

def crosswise : List Nat :=
  [0, 0, 1, 1, 1, 1, 0, 0, 0, 0, 1, 1]

theorem parallel_agrees_crosswise :
    (poolAfter partWork { maxThreads := 2 } ["a", "b"] crosswise).recorded = #[1, 0] ∧
      (processInParallel partWork { maxThreads := 2 } ["a", "b"] crosswise).value.successes =
        (processInOrder partWork { maxThreads := 2 } ["a", "b"]).value.successes := by
  have hfiles : ["a", "b"].Pairwise fun p q => Path.less p q = true := by decide
  have hfinished :
      (poolAfter partWork { maxThreads := 2 } ["a", "b"] crosswise).isFinished = true := by
    cbv
  obtain ⟨-, -, hsuccesses, -⟩ := parallel_agrees_with_sequential partWork rfl hfiles hfinished
  exact ⟨by cbv, hsuccesses⟩

theorem value_runParallel [Limits] {disk : Disk} {config : Config} {directory : String}
    (hoff : config.failFast = false)
    (hfiles : ∀ files, (discover disk config directory).value = .ok files →
      files.Pairwise fun p q => Path.less p q = true) :
    (runParallel disk config directory).value = (runSequential disk config directory).value := by
  simp only [runParallel, runSequential, Traced.value_bind]
  cases hfound : (discover disk config directory).value with
  | error error => rfl
  | ok files =>
    have hfinished : (poolAfter (runFile disk config) config files
        (Pool.oneByOne (workersFor config files) files.length)).isFinished = true :=
      Pool.isFinished_oneByOne _ _ _
    have hsame := processInParallel_eq_processInOrder (runFile disk config) hoff
      (hfiles files hfound) hfinished
    simp only [Traced.value_bind, hsame]

theorem value_runParallel_of_isForest [Limits] {disk : Disk} {config : Config} {directory : String}
    {place : List String} {entries : List (String × YangCheck.Entry)}
    (hoff : config.failFast = false)
    (h : disk.find? directory = some (place, .directory entries))
    (hforest : disk.isForest directory entries = true) :
    (runParallel disk config directory).value = (runSequential disk config directory).value :=
  value_runParallel hoff fun _ hfound => pairwise_discover h hforest hfound

end YangCheck.Batch
