import YangCheck.Proofs.Batch.Workers

namespace YangCheck.Batch.Pool

variable {count : Nat} {stopsAt : Nat → Bool} {pool : Pool} {worker : Nat}

theorem stop_eq_any_step (h : pool.stop = pool.recorded.any stopsAt) (worker : Nat) :
    (pool.step count stopsAt worker).stop =
      (pool.step count stopsAt worker).recorded.any stopsAt := by
  rw [step]
  split <;> simp [h]

theorem stop_eq_any_run (h : pool.stop = pool.recorded.any stopsAt) (schedule : List Nat) :
    (pool.run count stopsAt schedule).stop =
      (pool.run count stopsAt schedule).recorded.any stopsAt := by
  induction schedule generalizing pool with
  | nil => exact h
  | cons worker rest ih => exact ih (stop_eq_any_step h worker)

/-- Workers are told to stop exactly when a recorded file calls for it. -/
theorem stop_eq_any_run_start (workers : Nat) (schedule : List Nat) :
    ((start workers).run count stopsAt schedule).stop =
      ((start workers).run count stopsAt schedule).recorded.any stopsAt := by
  apply stop_eq_any_run
  simp [start]

/-- Once all workers have finished, the files that were run and recorded are those in front of some
number. No file is left behind it, or else a file in front of it calls for a stop. -/
theorem exists_front_of_isFinished {workers : Nat} (hworkers : count = 0 ∨ 0 < workers)
    {schedule : List Nat} (h : ((start workers).run count stopsAt schedule).isFinished = true) :
    ∃ taken ≤ count,
      ((start workers).run count stopsAt schedule).recorded.toList.Perm (List.range taken) ∧
      ((start workers).runsAlong count stopsAt schedule).Perm (List.range taken) ∧
      (taken = count ∨ ∃ file < taken, stopsAt file = true) := by
  have haccounted := (accounted_start count workers).steps stopsAt schedule
  obtain ⟨hrecorded, hran⟩ := haccounted.perm_taken h
  refine ⟨_, Nat.min_le_right _ _, hrecorded, hran, ?_⟩
  cases hstop : ((start workers).run count stopsAt schedule).stop with
  | false =>
    exact .inl (haccounted.min_eq_count h hstop (hworkers.imp_right (stages_run_ne_nil schedule)))
  | true =>
    have hany := (stop_eq_any_run_start workers schedule).symm.trans hstop
    rw [← Array.any_toList] at hany
    obtain ⟨file, hmem, hstops⟩ := List.any_eq_true.mp hany
    exact .inr ⟨file, List.mem_range.mp (hrecorded.mem_iff.mp hmem), hstops⟩

/-- Whether a worker takes the next file number in its next step. -/
def isTaking (pool : Pool) (worker : Nat) : Bool :=
  pool.stages[worker]? == some .claiming

/-- The file numbers that one worker takes along a schedule. A number past the last file gives no
file, but counts as taken. -/
def takesAlong (count : Nat) (stopsAt : Nat → Bool) (worker : Nat) (pool : Pool) :
    List Nat → List Nat
  | [] => []
  | turn :: rest =>
    let taken := if turn = worker && pool.isTaking worker then [pool.next] else []
    taken ++ takesAlong count stopsAt worker (pool.step count stopsAt turn) rest

theorem stop_step_of_stop (h : pool.stop = true) (worker : Nat) :
    (pool.step count stopsAt worker).stop = true := by
  rw [step]
  split <;> simp [h]

theorem isTaking_step_self (h : pool.stop = true) (worker : Nat) :
    (pool.step count stopsAt worker).isTaking worker = false := by
  rw [isTaking, step]
  cases hstage : pool.stages[worker]? with
  | none => simp [hstage]
  | some stage =>
    have hlt := (List.getElem?_eq_some_iff.mp hstage).1
    cases stage with
    | claiming => by_cases hleft : pool.next < count <;> simp [hlt, hleft]
    | finished => simp [hstage]
    | _ => simp [hlt, h]

theorem isTaking_step_other {other : Nat} (h : worker ≠ other) (pool : Pool) :
    (pool.step count stopsAt worker).isTaking other = pool.isTaking other := by
  rw [isTaking, isTaking, getElem?_stages_step h]

/-- Once the workers are told to stop, one that has already looked takes one number more, and any
other takes none. -/
theorem length_takesAlong_le (count : Nat) (stopsAt : Nat → Bool) (h : pool.stop = true)
    (worker : Nat) (schedule : List Nat) :
    (takesAlong count stopsAt worker pool schedule).length ≤ (pool.isTaking worker).toNat := by
  induction schedule generalizing pool with
  | nil => exact Nat.zero_le _
  | cons turn rest ih =>
    have hstop : (pool.step count stopsAt turn).stop = true := stop_step_of_stop h turn
    have hrest := ih hstop
    rw [takesAlong]
    by_cases hturn : turn = worker
    · subst turn
      rw [isTaking_step_self h] at hrest
      cases htaking : pool.isTaking worker <;> simpa using hrest
    · rw [isTaking_step_other hturn] at hrest
      simpa [hturn] using hrest

theorem isTaking_of_step_stop (hbefore : pool.stop = false)
    (hafter : (pool.step count stopsAt worker).stop = true) :
    (pool.step count stopsAt worker).isTaking worker = false := by
  rw [step] at hafter
  rw [isTaking, step]
  cases hstage : pool.stages[worker]? with
  | none => simp [hstage]
  | some stage =>
    have hlt := (List.getElem?_eq_some_iff.mp hstage).1
    cases stage with
    | recording file => simp [hlt]
    | _ => simp [hstage, hbefore] at hafter

theorem length_takesAlong_of_step_stop {setter : Nat} (hbefore : pool.stop = false)
    (hafter : (pool.step count stopsAt setter).stop = true) (worker : Nat) (schedule : List Nat) :
    (takesAlong count stopsAt worker (pool.step count stopsAt setter) schedule).length ≤
      if worker = setter then 0 else 1 := by
  have hle := length_takesAlong_le count stopsAt hafter worker schedule
  split
  case isTrue hsame =>
    subst worker
    rwa [isTaking_of_step_stop hbefore hafter] at hle
  case isFalse => exact Nat.le_trans hle (Bool.toNat_le _)

theorem run_concat (pool : Pool) (schedule : List Nat) (worker : Nat) :
    pool.run count stopsAt (schedule ++ [worker]) =
      (pool.run count stopsAt schedule).step count stopsAt worker :=
  List.foldl_append

end YangCheck.Batch.Pool
