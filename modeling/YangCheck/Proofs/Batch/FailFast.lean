import YangCheck.Proofs.Batch.Agreement
import YangCheck.Proofs.Batch.Stopping

namespace YangCheck.Batch

open Log

/-- Whether so many files, the first ones, are enough: no file is left, or one of them ends the
batch. -/
def IsEnough (config : Config) (entries : List Entry) (taken : Nat) : Prop :=
  entries.length ≤ taken ∨ ∃ entry ∈ entries.take taken, entry.endsBatch config = true

section Entries

variable {config : Config} {entries : List Entry} {taken : Nat}

theorem Entry.isFailure_of_endsBatch {entry : Entry} (h : entry.endsBatch config = true) :
    entry.isFailure = true :=
  (Bool.and_eq_true_iff.mp h).2

theorem Entry.endsBatch_of_failFast (h : config.failFast = true) :
    Entry.endsBatch config = Entry.isFailure := by
  funext entry
  rw [Entry.endsBatch, h, Bool.true_and]

theorem Results.failures_ofEntries_pos (discovered : Nat) (entries : List Entry) :
    0 < (ofEntries discovered entries).failures.size ↔
      ∃ entry ∈ entries, entry.isFailure = true := by
  simp only [Array.size_pos_iff_exists_mem, mem_failures_ofEntries]
  constructor
  · rintro ⟨found, entry, hentry, hfailure⟩
    exact ⟨entry, hentry, Option.isSome_iff_exists.mpr ⟨found, hfailure⟩⟩
  · rintro ⟨entry, hentry, hfailure⟩
    obtain ⟨found, hfound⟩ := Option.isSome_iff_exists.mp hfailure
    exact ⟨found, entry, hentry, hfound⟩

theorem IsEnough.exists_failure_iff (h : IsEnough config entries taken) :
    (∃ entry ∈ entries.take taken, entry.isFailure = true) ↔
      ∃ entry ∈ entries, entry.isFailure = true := by
  constructor
  · rintro ⟨entry, hentry, hfailure⟩
    exact ⟨entry, List.mem_of_mem_take hentry, hfailure⟩
  · intro hany
    rcases h with hall | ⟨entry, hentry, hends⟩
    · rwa [List.take_of_length_le hall]
    · exact ⟨entry, hentry, Entry.isFailure_of_endsBatch hends⟩

theorem IsEnough.eq_length (h : IsEnough config entries taken) (hle : taken ≤ entries.length)
    (hnone : ∀ entry ∈ entries, entry.isFailure = false) : taken = entries.length := by
  rcases h with hall | ⟨entry, hentry, hends⟩
  · exact Nat.le_antisymm hle hall
  · have hpasses := hnone entry (List.mem_of_mem_take hentry)
    cases hpasses.symm.trans (Entry.isFailure_of_endsBatch hends)

/-- Files that are enough go as far as the first that fails. -/
theorem IsEnough.findIdx_lt (h : IsEnough config entries taken)
    (hany : ∃ entry ∈ entries, entry.isFailure = true) :
    entries.findIdx Entry.isFailure < taken := by
  obtain ⟨entry, hentry, hfailure⟩ := h.exists_failure_iff.mpr hany
  obtain ⟨file, hfile, rfl⟩ := List.mem_take_iff_getElem.mp hentry
  by_contra hlate
  have hfirst : file < entries.findIdx Entry.isFailure := by omega
  cases (List.not_of_lt_findIdx hfirst).symm.trans hfailure

theorem isEnough_findIdx (config : Config) (entries : List Entry) :
    IsEnough config entries (entries.findIdx (Entry.endsBatch config) + 1) := by
  by_cases hlt : entries.findIdx (Entry.endsBatch config) < entries.length
  · refine .inr ⟨_, List.mem_take_iff_getElem.mpr ⟨_, ?_, rfl⟩, List.findIdx_getElem (w := hlt)⟩
    omega
  · exact .inl (by omega)

end Entries

section Work

variable (work : String → Nat → Traced Outcome) {config : Config} {files : List String}
  {schedule : List Nat}

theorem stopsAt_eq_any (files : List String) (file : Nat) :
    stopsAt work config files.toArray file =
      (entriesFrom work 0 files)[file]?.any (Entry.endsBatch config) := by
  rw [stopsAt, getElem?_entriesFrom, List.getElem?_toArray]
  cases files[file]? with
  | none => exact Bool.and_false _
  | some path =>
    rw [Nat.zero_add]
    exact congrArg (config.failFast && ·) (isFailure_outcome path _)

variable [Limits]

theorem stop_poolAfter_iff (hon : config.failFast = true) (schedule : List Nat) :
    (poolAfter work config files schedule).stop = true ↔
      ∃ file ∈ (poolAfter work config files schedule).recorded,
        (entriesFrom work 0 files)[file]?.any Entry.isFailure = true := by
  have hstop : (poolAfter work config files schedule).stop = _ :=
    Pool.stop_eq_any_run_start (workersFor config files) schedule
  rw [hstop, ← Array.any_toList, List.any_eq_true]
  simp only [Array.mem_toList_iff, stopsAt_eq_any, Entry.endsBatch_of_failFast hon]
  rfl

theorem exists_front_recorded
    (hfinished : (poolAfter work config files schedule).isFinished = true) :
    ∃ taken ≤ files.length,
      (poolAfter work config files schedule).recorded.toList.Perm (List.range taken) ∧
      IsEnough config (entriesFrom work 0 files) taken := by
  obtain ⟨taken, hle, hrecorded, -, hend⟩ :=
    Pool.exists_front_of_isFinished (pos_workersFor config files) hfinished
  refine ⟨taken, hle, hrecorded, ?_⟩
  rcases hend with hall | ⟨file, hlt, hstops⟩
  · exact .inl (Nat.le_of_eq ((length_entriesFrom work 0 files).trans hall.symm))
  · rw [stopsAt_eq_any, Option.any_eq_true] at hstops
    obtain ⟨entry, hentry, hends⟩ := hstops
    have hfront : ((entriesFrom work 0 files).take taken)[file]? = some entry := by
      rw [List.getElem?_take_of_lt hlt, hentry]
    exact .inr ⟨entry, List.mem_of_getElem? hfront, hends⟩

/-- With fail-fast, workers that have all finished have recorded the first files in path order, each
once: all files if none fails, and else at least those that are taken one after another, which end
with the first that fails. Workers are told to stop by a recorded failure; from then on each of them
takes at most one number more, and none does whose step has told them. With or without fail-fast, in
parallel and in order, a batch has failures exactly when one of its files fails. -/
theorem fail_fast_keeps_front (hfiles : files.Pairwise fun p q => Path.less p q = true)
    (hfinished : (poolAfter work config files schedule).isFinished = true) :
    let entries := entriesFrom work 0 files
    let parallel := (processInParallel work config files schedule).value
    let sequential := (processInOrder work config files).value
    (config.failFast = true →
      (∃ taken ≤ files.length,
        (poolAfter work config files schedule).recorded.toList.Perm (List.range taken) ∧
        parallel = .ofEntries files.length (entries.take taken) ∧
        sequential =
          .ofEntries files.length (entries.take (entries.findIdx Entry.isFailure + 1)) ∧
        ((∀ entry ∈ entries, entry.isFailure = false) → taken = files.length) ∧
        ((∃ entry ∈ entries, entry.isFailure = true) →
          entries.findIdx Entry.isFailure + 1 ≤ taken)) ∧
      (∀ turns, (poolAfter work config files turns).stop = true ↔
        ∃ file ∈ (poolAfter work config files turns).recorded,
          entries[file]?.any Entry.isFailure = true) ∧
      ∀ before setter after, schedule = before ++ setter :: after →
        (poolAfter work config files before).stop = false →
        (poolAfter work config files (before ++ [setter])).stop = true →
        ∀ worker, (Pool.takesAlong files.length (stopsAt work config files.toArray) worker
          (poolAfter work config files (before ++ [setter])) after).length ≤
            if worker = setter then 0 else 1) ∧
    (0 < parallel.failures.size ↔ ∃ entry ∈ entries, entry.isFailure = true) ∧
    (0 < sequential.failures.size ↔ ∃ entry ∈ entries, entry.isFailure = true) := by
  intro entries parallel sequential
  obtain ⟨taken, hle, hrecorded, henough⟩ := exists_front_recorded work hfinished
  have hparallel : parallel = _ := value_processInParallel_of_perm work hfiles hrecorded
  have hsequential : sequential = _ := value_processInOrder_reached work config files
  refine ⟨fun hon => ⟨⟨taken, hle, hrecorded, hparallel, ?_, ?_, ?_⟩, stop_poolAfter_iff work hon,
    ?_⟩, ?_, ?_⟩
  · rw [hsequential, reached, Entry.endsBatch_of_failFast hon]
  · intro hnone
    have hlength : entries.length = files.length := length_entriesFrom work 0 files
    rw [← hlength] at hle ⊢
    exact henough.eq_length hle hnone
  · exact henough.findIdx_lt
  · intro before setter after _ hbefore hafter worker
    rw [poolAfter, Pool.run_concat] at hafter ⊢
    exact Pool.length_takesAlong_of_step_stop hbefore hafter worker after
  · rw [hparallel, Results.failures_ofEntries_pos]
    exact henough.exists_failure_iff
  · rw [hsequential, Results.failures_ofEntries_pos]
    exact (isEnough_findIdx config entries).exists_failure_iff

end Work

def twoWorkers : Config :=
  { maxThreads := 2, failFast := true }

def fourFiles : List String :=
  ["a", "b", "c", "d"]

/-- One worker is slow with the first file. The other one has looked before it is told to stop, and
goes on to take the third. -/
def beforeStop : List Nat :=
  [0, 0, 1, 1, 1, 1, 1, 0]

def afterStop : List Nat :=
  [1, 1, 1, 1, 0]

theorem fail_fast_overtaken :
    (poolAfter partWork twoWorkers fourFiles (beforeStop ++ 0 :: afterStop)).recorded =
        #[1, 0, 2] ∧
      (∃ taken ≤ 4, 1 ≤ taken ∧
        (processInParallel partWork twoWorkers fourFiles (beforeStop ++ 0 :: afterStop)).value =
          .ofEntries 4 ((entriesFrom partWork 0 fourFiles).take taken)) ∧
      (processInOrder partWork twoWorkers fourFiles).value.processed = 1 ∧
      (Pool.takesAlong 4 (stopsAt partWork twoWorkers fourFiles.toArray) 1
        (poolAfter partWork twoWorkers fourFiles (beforeStop ++ [0])) afterStop).length ≤ 1 ∧
      0 < (processInOrder partWork twoWorkers fourFiles).value.failures.size := by
  have hfiles : fourFiles.Pairwise fun p q => Path.less p q = true := by decide
  have hfinished : (poolAfter partWork twoWorkers fourFiles
      (beforeStop ++ 0 :: afterStop)).isFinished = true := by
    cbv
  have hbefore : (poolAfter partWork twoWorkers fourFiles beforeStop).stop = false := by cbv
  have hafter : (poolAfter partWork twoWorkers fourFiles (beforeStop ++ [0])).stop = true := by
    cbv
  have hfails : ∃ entry ∈ entriesFrom partWork 0 fourFiles, entry.isFailure = true :=
    ⟨("a", .error (.noResult "a")), List.mem_cons_self, rfl⟩
  obtain ⟨hon, -, hfailures⟩ := fail_fast_keeps_front partWork hfiles hfinished
  obtain ⟨⟨taken, hle, -, hparallel, -, -, hfirst⟩, -, hstop⟩ := hon rfl
  have htakes := hstop beforeStop 0 afterStop rfl hbefore hafter 1
  refine ⟨by cbv, ⟨taken, hle, ?_, hparallel⟩, rfl, htakes, hfailures.mpr hfails⟩
  exact Nat.le_trans (Nat.succ_pos _) (hfirst hfails)

end YangCheck.Batch
