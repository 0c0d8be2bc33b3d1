namespace YangCheck.Batch

inductive Stage where
  /-- Looks whether the others have been told to stop. -/
  | checking
  /-- Takes the next file number. -/
  | claiming
  /-- Does the work on a file. -/
  | running (file : Nat)
  /-- Records what came of a file. -/
  | recording (file : Nat)
  | finished
deriving DecidableEq, Repr

/-- Workers that take files, by number, from a common count. -/
structure Pool where
  next : Nat := 0
  stop : Bool := false
  /-- The recorded files, the first one first. -/
  recorded : Array Nat := #[]
  stages : List Stage
deriving DecidableEq, Repr

namespace Pool

def start (workers : Nat) : Pool :=
  { stages := List.replicate workers .checking }

def isFinished (pool : Pool) : Bool :=
  pool.stages.all (· == .finished)

/-- One step of one worker on `count` files. A file for which `stopsAt` holds tells all workers to
stop once it is recorded. -/
def step (count : Nat) (stopsAt : Nat → Bool) (pool : Pool) (worker : Nat) : Pool :=
  let become (stage : Stage) : List Stage := pool.stages.set worker stage
  match pool.stages[worker]? with
  | none | some .finished => pool
  | some .checking => { pool with stages := become (if pool.stop then .finished else .claiming) }
  | some .claiming =>
    { pool with
      next := pool.next + 1
      stages := become (if pool.next < count then .running pool.next else .finished) }
  | some (.running file) => { pool with stages := become (.recording file) }
  | some (.recording file) =>
    { pool with
      recorded := pool.recorded.push file
      stop := pool.stop || stopsAt file
      stages := become .checking }

def run (count : Nat) (stopsAt : Nat → Bool) (pool : Pool) (schedule : List Nat) : Pool :=
  schedule.foldl (step count stopsAt) pool

/-- Each worker goes on until nothing is left for it. -/
def oneByOne (workers count : Nat) : List Nat :=
  (List.range workers).flatMap fun worker => List.replicate (4 * count + 4) worker

end Pool

end YangCheck.Batch
