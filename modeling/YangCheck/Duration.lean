import YangCheck.Decimal.Binary53

namespace YangCheck

structure Duration where
  nanoseconds : Nat := 0
deriving DecidableEq, Repr

namespace Duration

open Decimal

def ofMilliseconds (n : Nat) : Duration :=
  ⟨n * 1000000⟩

/-- Whole seconds and the rest are rounded apart, and then their sum. -/
def seconds (d : Duration) : Binary53 :=
  let rest := (Binary53.ofNat (d.nanoseconds % 1000000000)).div (Binary53.ofNat 1000000000)
  (Binary53.ofNat (d.nanoseconds / 1000000000)).add rest

def milliseconds (d : Duration) : Binary53 :=
  d.seconds.mul (Binary53.ofNat 1000)

end Duration

end YangCheck
