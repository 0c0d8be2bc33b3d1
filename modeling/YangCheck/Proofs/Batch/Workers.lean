import YangCheck.Batch.Workers

namespace YangCheck.Batch

namespace Stage

/-- The file that a worker has taken and not recorded. -/
def held? : Stage → Option Nat
  | .running file | .recording file => some file
  | _ => none

/-- The file that a worker has run and not recorded. -/
def ran? : Stage → Option Nat
  | .recording file => some file
  | _ => none

end Stage

namespace Pool

variable {count : Nat} {stopsAt : Nat → Bool} {pool : Pool} {worker : Nat}

/-- The file that a worker runs in its next step. -/
def runsNext? (pool : Pool) (worker : Nat) : Option Nat :=
  match pool.stages[worker]? with
  | some (.running file) => some file
  | _ => none

/-- The files that are run along a schedule. -/
def runsAlong (count : Nat) (stopsAt : Nat → Bool) (pool : Pool) : List Nat → List Nat
  | [] => []
  | worker :: rest =>
    (pool.runsNext? worker).toList ++ runsAlong count stopsAt (pool.step count stopsAt worker) rest

/-- Every file below the common count is recorded or held by one worker, every file that was run is
recorded or about to be, and a worker has finished only when nothing was left to take. -/
structure Accounted (count : Nat) (ran : List Nat) (pool : Pool) : Prop where
  taken : (pool.recorded.toList ++ pool.stages.filterMap Stage.held?).Perm
    (List.range (min pool.next count))
  run : ran.Perm (pool.recorded.toList ++ pool.stages.filterMap Stage.ran?)
  left : .finished ∈ pool.stages → pool.stop = true ∨ count ≤ pool.next

theorem count_filterMap_set {f : Stage → Option Nat} {stages : List Stage} {old : Stage}
    (h : stages[worker]? = some old) (new : Stage) (file : Nat) :
    ((stages.set worker new).filterMap f).count file + (f old).toList.count file =
      (stages.filterMap f).count file + (f new).toList.count file := by
  have hcons : ∀ (stage : Stage) (rest : List Stage),
      (stage :: rest).filterMap f = (f stage).toList ++ rest.filterMap f := by
    intro stage rest
    rw [List.filterMap_cons]
    cases f stage <;> rfl
  induction stages generalizing worker with
  | nil => cases h
  | cons stage rest ih =>
    cases worker with
    | zero =>
      obtain rfl := Option.some.inj h
      simp only [List.set_cons_zero, hcons, List.count_append]
      omega
    | succ worker =>
      have hrest := ih (show rest[worker]? = some old from h)
      simp only [List.set_cons_succ, hcons, List.count_append]
      omega

theorem accounted_start (count workers : Nat) : Accounted count [] (start workers) := by
  refine ⟨?_, ?_, ?_⟩
  · simp [start, Stage.held?]
  · simp [start, Stage.ran?]
  · simp [start]

/-- What one worker does has to balance: a file that it gives up is recorded, and one that it takes
comes from the common count. -/
theorem Accounted.move {ran more : List Nat} {next : Nat} {stop : Bool} {recorded : Array Nat}
    {old new : Stage} (h : Accounted count ran pool) (hstage : pool.stages[worker]? = some old)
    (htaken : ∀ file, recorded.toList.count file + new.held?.toList.count file +
      (List.range (min pool.next count)).count file =
      pool.recorded.toList.count file + old.held?.toList.count file +
        (List.range (min next count)).count file)
    (hrun : ∀ file, recorded.toList.count file + new.ran?.toList.count file =
      pool.recorded.toList.count file + old.ran?.toList.count file + more.count file)
    (hleft : new = .finished → stop = true ∨ count ≤ next) (hstop : pool.stop = true → stop = true)
    (hnext : pool.next ≤ next) :
    Accounted count (ran ++ more)
      { next, stop, recorded, stages := pool.stages.set worker new } := by
  refine ⟨List.perm_iff_count.mpr fun file => ?_, List.perm_iff_count.mpr fun file => ?_, ?_⟩
  · have hbefore := List.perm_iff_count.mp h.taken file
    have hset := count_filterMap_set (f := Stage.held?) hstage new file
    have hbalance := htaken file
    simp only [List.count_append] at hbefore ⊢
    omega
  · have hbefore := List.perm_iff_count.mp h.run file
    have hset := count_filterMap_set (f := Stage.ran?) hstage new file
    have hbalance := hrun file
    simp only [List.count_append] at hbefore ⊢
    omega
  · intro hmem
    rcases List.mem_or_eq_of_mem_set hmem with hmem | hnew
    · exact (h.left hmem).imp hstop fun hcount => Nat.le_trans hcount hnext
    · exact hleft hnew.symm

section step

variable {ran : List Nat} (h : Accounted count ran pool)

include h

theorem Accounted.check (hstage : pool.stages[worker]? = some .checking) :
    Accounted count ran
      { pool with
        stages := pool.stages.set worker (if pool.stop then .finished else .claiming) } := by
  rw [← List.append_nil ran]
  apply h.move hstage
  · intro file
    cases pool.stop <;> rfl
  · intro file
    cases pool.stop <;> rfl
  · intro hfinished
    cases hstop : pool.stop with
    | true => exact .inl rfl
    | false => simp [hstop] at hfinished
  · exact id
  · exact Nat.le_refl _

theorem Accounted.claim (hstage : pool.stages[worker]? = some .claiming) :
    Accounted count ran
      { pool with
        next := pool.next + 1
        stages := pool.stages.set worker
          (if pool.next < count then .running pool.next else .finished) } := by
  rw [← List.append_nil ran]
  by_cases hlt : pool.next < count
  · have hrange : List.range (min (pool.next + 1) count) =
        List.range (min pool.next count) ++ [pool.next] := by
      rw [Nat.min_eq_left hlt, Nat.min_eq_left (Nat.le_of_lt hlt), List.range_succ]
    rw [if_pos hlt]
    apply h.move hstage
    · intro file
      simp only [hrange, List.count_append, Stage.held?, Option.toList_some, Option.toList_none,
        List.count_nil]
      omega
    · exact fun _ => rfl
    · exact nofun
    · exact id
    · exact Nat.le_succ _
  · have hmin : min (pool.next + 1) count = min pool.next count := by omega
    rw [if_neg hlt]
    apply h.move hstage
    · intro file
      rw [hmin]
      rfl
    · exact fun _ => rfl
    · exact fun _ => .inr (by omega)
    · exact id
    · exact Nat.le_succ _

theorem Accounted.work {file : Nat} (hstage : pool.stages[worker]? = some (.running file)) :
    Accounted count (ran ++ [file])
      { pool with stages := pool.stages.set worker (.recording file) } := by
  apply h.move hstage
  · exact fun _ => rfl
  · exact fun _ => rfl
  · exact nofun
  · exact id
  · exact Nat.le_refl _

theorem Accounted.record {file : Nat} (hstage : pool.stages[worker]? = some (.recording file))
    (stops : Bool) :
    Accounted count ran
      { pool with
        recorded := pool.recorded.push file
        stop := pool.stop || stops
        stages := pool.stages.set worker .checking } := by
  rw [← List.append_nil ran]
  apply h.move hstage
  · intro other
    simp [Stage.held?]
  · intro other
    simp [Stage.ran?]
  · exact nofun
  · intro hstop
    rw [hstop]
    rfl
  · exact Nat.le_refl _

theorem Accounted.step (stopsAt : Nat → Bool) (worker : Nat) :
    Accounted count (ran ++ (pool.runsNext? worker).toList) (pool.step count stopsAt worker) := by
  rw [runsNext?, Pool.step]
  cases hstage : pool.stages[worker]? with
  | none => simpa using h
  | some stage =>
    cases stage with
    | checking => simpa using h.check hstage
    | claiming => simpa using h.claim hstage
    | running file => exact h.work hstage
    | recording file => simpa using h.record hstage (stopsAt file)
    | finished => simpa using h

end step

theorem Accounted.steps {ran : List Nat} (h : Accounted count ran pool) (stopsAt : Nat → Bool)
    (schedule : List Nat) :
    Accounted count (ran ++ pool.runsAlong count stopsAt schedule)
      (Pool.run count stopsAt pool schedule) := by
  induction schedule generalizing ran pool with
  | nil => simpa [runsAlong, Pool.run] using h
  | cons worker rest ih =>
    have hrest := ih (h.step stopsAt worker)
    rw [List.append_assoc] at hrest
    exact hrest

theorem Accounted.perm_taken {ran : List Nat} (h : Accounted count ran pool)
    (hfinished : pool.isFinished = true) :
    pool.recorded.toList.Perm (List.range (min pool.next count)) ∧
      ran.Perm (List.range (min pool.next count)) := by
  have hall : ∀ stage ∈ pool.stages, stage = .finished := by
    simpa [isFinished] using hfinished
  have hnone : ∀ f : Stage → Option Nat, f .finished = none → pool.stages.filterMap f = [] := by
    intro f hf
    refine List.filterMap_eq_nil_iff.mpr fun stage hmem => ?_
    rw [hall stage hmem, hf]
  have hrecorded := h.taken
  rw [hnone _ rfl, List.append_nil] at hrecorded
  have hran := h.run
  rw [hnone _ rfl, List.append_nil] at hran
  exact ⟨hrecorded, hran.trans hrecorded⟩

theorem Accounted.min_eq_count {ran : List Nat} (h : Accounted count ran pool)
    (hfinished : pool.isFinished = true) (hstop : pool.stop = false)
    (hworkers : count = 0 ∨ pool.stages ≠ []) : min pool.next count = count := by
  rcases hworkers with rfl | hne
  · exact Nat.min_zero _
  · obtain ⟨stage, hmem⟩ := List.exists_mem_of_ne_nil _ hne
    have hstage : stage = .finished := by
      simpa using List.all_eq_true.mp hfinished stage hmem
    rcases h.left (hstage ▸ hmem) with hs | hcount
    · cases hs.symm.trans hstop
    · exact Nat.min_eq_right hcount

theorem Accounted.perm_range {ran : List Nat} (h : Accounted count ran pool)
    (hfinished : pool.isFinished = true) (hstop : pool.stop = false)
    (hworkers : count = 0 ∨ pool.stages ≠ []) :
    pool.recorded.toList.Perm (List.range count) ∧ ran.Perm (List.range count) := by
  have htaken := h.perm_taken hfinished
  rwa [h.min_eq_count hfinished hstop hworkers] at htaken

theorem stop_step (h : ∀ file, stopsAt file = false) (pool : Pool) (worker : Nat) :
    (pool.step count stopsAt worker).stop = pool.stop := by
  rw [step]
  split <;> simp [h]

theorem stop_run (h : ∀ file, stopsAt file = false) (pool : Pool) (schedule : List Nat) :
    (pool.run count stopsAt schedule).stop = pool.stop := by
  induction schedule generalizing pool with
  | nil => rfl
  | cons worker rest ih => exact (ih _).trans (stop_step h pool worker)

theorem length_stages_step (pool : Pool) (worker : Nat) :
    (pool.step count stopsAt worker).stages.length = pool.stages.length := by
  rw [step]
  split <;> simp

theorem length_stages_run (pool : Pool) (schedule : List Nat) :
    (pool.run count stopsAt schedule).stages.length = pool.stages.length := by
  induction schedule generalizing pool with
  | nil => rfl
  | cons worker rest ih => exact (ih _).trans (length_stages_step pool worker)

theorem stages_run_ne_nil {workers : Nat} (schedule : List Nat) (h : 0 < workers) :
    ((start workers).run count stopsAt schedule).stages ≠ [] := by
  rw [← List.length_pos_iff, length_stages_run]
  simpa [start] using h

/-- Whatever the order of steps, once all workers have finished and none was told to stop, each file
has been run once and recorded once. -/
theorem perm_range_of_isFinished (hnever : ∀ file, stopsAt file = false) {workers : Nat}
    (hworkers : count = 0 ∨ 0 < workers) {schedule : List Nat}
    (h : ((start workers).run count stopsAt schedule).isFinished = true) :
    ((start workers).run count stopsAt schedule).recorded.toList.Perm (List.range count) ∧
      ((start workers).runsAlong count stopsAt schedule).Perm (List.range count) := by
  have haccounted := (accounted_start count workers).steps stopsAt schedule
  exact haccounted.perm_range h (stop_run hnever _ _)
    (hworkers.imp_right (stages_run_ne_nil schedule))

/-- How many steps a worker can still take while so many files are left. -/
def turns (left : Nat) : Stage → Nat
  | .checking => 4 * left + 2
  | .claiming => 4 * left + 1
  | .running _ => 4 * left + 4
  | .recording _ => 4 * left + 3
  | .finished => 0

def turnsLeft (count : Nat) (pool : Pool) (worker : Nat) : Nat :=
  pool.stages[worker]?.elim 0 (turns (count - pool.next))

theorem turns_mono {left more : Nat} (h : left ≤ more) (stage : Stage) :
    turns left stage ≤ turns more stage := by
  cases stage <;> simp only [turns] <;> omega

theorem turnsLeft_step_self (count : Nat) (stopsAt : Nat → Bool) (pool : Pool) (worker : Nat) :
    turnsLeft count (pool.step count stopsAt worker) worker ≤ turnsLeft count pool worker - 1 := by
  rw [step]
  cases hstage : pool.stages[worker]? with
  | none => simp [turnsLeft, hstage]
  | some stage =>
    have hlt := (List.getElem?_eq_some_iff.mp hstage).1
    have hset : ∀ new, (pool.stages.set worker new)[worker]? = some new := fun _ =>
      List.getElem?_set_self hlt
    cases stage with
    | checking => cases hstop : pool.stop <;> simp [turnsLeft, hstage, hset, turns]
    | claiming =>
      by_cases hleft : pool.next < count
      · simp only [turnsLeft, hstage, hset, turns, hleft, if_true, Option.elim_some]
        omega
      · simp [turnsLeft, hstage, hset, turns, hleft]
    | running file => simp [turnsLeft, hstage, hset, turns]
    | recording file => simp [turnsLeft, hstage, hset, turns]
    | finished => simp [turnsLeft, hstage, turns]

theorem next_le_next_step (count : Nat) (stopsAt : Nat → Bool) (pool : Pool) (worker : Nat) :
    pool.next ≤ (pool.step count stopsAt worker).next := by
  rw [step]
  split <;> simp

theorem getElem?_stages_step {other : Nat} (h : worker ≠ other) (pool : Pool) :
    (pool.step count stopsAt worker).stages[other]? = pool.stages[other]? := by
  rw [step]
  split <;> simp [List.getElem?_set_ne h]

theorem turnsLeft_step_other {other : Nat} (h : worker ≠ other) (count : Nat)
    (stopsAt : Nat → Bool) (pool : Pool) :
    turnsLeft count (pool.step count stopsAt worker) other ≤ turnsLeft count pool other := by
  have hnext := next_le_next_step count stopsAt pool worker
  rw [turnsLeft, turnsLeft, getElem?_stages_step h]
  cases pool.stages[other]? with
  | none => exact Nat.le_refl _
  | some stage => exact turns_mono (by omega) stage

theorem turnsLeft_run (count : Nat) (stopsAt : Nat → Bool) (pool : Pool) (schedule : List Nat)
    (worker : Nat) :
    turnsLeft count (pool.run count stopsAt schedule) worker ≤
      turnsLeft count pool worker - schedule.count worker := by
  induction schedule generalizing pool with
  | nil => exact Nat.le_refl _
  | cons next rest ih =>
    have hrest := ih (pool.step count stopsAt next)
    refine Nat.le_trans hrest ?_
    by_cases hsame : next = worker
    · subst next
      have hself := turnsLeft_step_self count stopsAt pool worker
      rw [List.count_cons_self]
      omega
    · have hother := turnsLeft_step_other hsame count stopsAt pool
      rw [List.count_cons_of_ne hsame]
      omega

/-- Workers that are each given enough turns, in whatever order, all finish. -/
theorem isFinished_run (stopsAt : Nat → Bool) {workers : Nat} {schedule : List Nat}
    (h : ∀ worker < workers, 4 * count + 2 ≤ schedule.count worker) :
    ((start workers).run count stopsAt schedule).isFinished = true := by
  rw [isFinished, List.all_eq_true]
  intro stage hmem
  obtain ⟨worker, hlt, hstage⟩ := List.mem_iff_getElem.mp hmem
  have hworker : worker < workers := by
    rw [length_stages_run] at hlt
    simpa [start] using hlt
  have hstart : turnsLeft count (start workers) worker ≤ 4 * count + 2 := by
    simp [turnsLeft, start, hworker, turns]
  have hrun := turnsLeft_run count stopsAt (start workers) schedule worker
  have hturns := h worker hworker
  have hnone : turnsLeft count ((start workers).run count stopsAt schedule) worker = 0 := by omega
  rw [turnsLeft, List.getElem?_eq_getElem hlt, hstage] at hnone
  cases stage with
  | finished => rfl
  | _ => simp [turns] at hnone

theorem isFinished_oneByOne (count : Nat) (stopsAt : Nat → Bool) (workers : Nat) :
    ((start workers).run count stopsAt (oneByOne workers count)).isFinished = true := by
  apply isFinished_run
  intro worker hworker
  obtain ⟨front, back, hrange⟩ := List.append_of_mem (List.mem_range.mpr hworker)
  rw [oneByOne, hrange, List.flatMap_append, List.flatMap_cons, List.count_append,
    List.count_append, List.count_replicate_self]
  omega

end Pool

end YangCheck.Batch
