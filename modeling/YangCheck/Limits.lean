namespace YangCheck

/-- The limits that are fixed when the program is built, within the bounds of every build. -/
class Limits where
  /-- The file that the limits come from is named for the profile. -/
  profile : String
  directory : String := "config"
  /-- The largest file that is read, in bytes. -/
  maxFileSize : Nat
  /-- A file above this size counts as large. -/
  largeFileSize : Nat
  maxWorkers : Nat
  maxFilesPerBatch : Nat
  /-- How many events a memory log holds. -/
  logCapacity : Nat
  maxMessageBytes : Nat
  maxFileSize_le : maxFileSize ≤ 1000000000 := by decide
  maxFileSize_le_of_production : profile = "production" → maxFileSize ≤ 50000000 := by decide
  largeFileSize_le : largeFileSize ≤ maxFileSize := by decide
  maxWorkers_pos : 0 < maxWorkers := by decide
  maxWorkers_le : maxWorkers ≤ 256 := by decide
  le_logCapacity : 100 ≤ logCapacity := by decide

namespace Limits

/-- The profile that is built where none is named. -/
instance development : Limits where
  profile := "development"
  maxFileSize := 10485760
  largeFileSize := 1048576
  maxWorkers := 8
  maxFilesPerBatch := 10000
  logCapacity := 10000
  maxMessageBytes := 4096

abbrev production : Limits where
  profile := "production"
  maxFileSize := 5242880
  largeFileSize := 1048576
  maxWorkers := 16
  maxFilesPerBatch := 50000
  logCapacity := 5000
  maxMessageBytes := 2048

section

variable [Limits]

def origin : String :=
  s!"Generated from {directory}/{profile}.toml"

/-- What keeps the log from being started, where the limits leave no room for a useful one. -/
def logFault? : Option String :=
  if 100000 < logCapacity then some s!"Log buffer size too large: {logCapacity}"
  else if logCapacity < 100 then some s!"Log buffer size too small: {logCapacity}"
  else if maxMessageBytes < 64 then some s!"Max log message length too small: {maxMessageBytes}"
  else none

theorem logFault?_eq_none_iff :
    logFault? = none ↔ logCapacity ≤ 100000 ∧ 64 ≤ maxMessageBytes := by
  have hleast := le_logCapacity
  rw [logFault?]
  split
  case isTrue hlarge => simp [Nat.not_le.mpr hlarge]
  case isFalse hlarge => simp [Nat.not_lt.mpr hleast, Nat.not_lt.mp hlarge]

def logLimitsHold : Bool :=
  logFault?.isNone

end

example : @logFault? development = none ∧ @logFault? production = none := by decide

end Limits

end YangCheck
