import YangCheck.Decimal.Fixed

namespace YangCheck.Log

/-- A time in seconds since the start of 1970, in universal time, and the nanoseconds after it.
A thousand million nanoseconds or more fall into a leap second. -/
structure Timestamp where
  seconds : Int
  nanoseconds : Nat
deriving DecidableEq, Repr

structure Day where
  year : Int
  month : Nat
  day : Nat
deriving DecidableEq, Repr

/-- The day that lies `days` after the first of January 1970. Years are counted from March, so that
the leap day comes last in its cycle of 400 years. -/
def Day.ofDays (days : Int) : Day :=
  let shifted := days + 719468
  let cycle := shifted.fdiv 146097
  let inCycle := (shifted.fmod 146097).toNat
  let yearInCycle :=
    (inCycle - inCycle / 1460 + inCycle / 36524 - inCycle / 146096) / 365
  let inYear := inCycle - (365 * yearInCycle + yearInCycle / 4 - yearInCycle / 100)
  let fromMarch := (5 * inYear + 2) / 153
  let day := inYear - (153 * fromMarch + 2) / 5 + 1
  let month := if fromMarch < 10 then fromMarch + 3 else fromMarch - 9
  let year := cycle * 400 + yearInCycle + (if month ≤ 2 then 1 else 0)
  ⟨year, month, day⟩

namespace Timestamp

def twoDigits (n : Nat) : String :=
  Decimal.padLeft 2 (toString n)

/-- A year outside four digits carries its sign. -/
def renderYear (year : Int) : String :=
  let digits := Decimal.padLeft 4 (toString year.natAbs)
  if year < 0 then "-" ++ digits
  else if 9999 < year then "+" ++ digits
  else digits

/-- No digits, or as many groups of three as are needed. -/
def renderFraction (nanoseconds : Nat) : String :=
  if nanoseconds = 0 then ""
  else if nanoseconds % 1000000 = 0 then
    "." ++ Decimal.padLeft 3 (toString (nanoseconds / 1000000))
  else if nanoseconds % 1000 = 0 then
    "." ++ Decimal.padLeft 6 (toString (nanoseconds / 1000))
  else "." ++ Decimal.padLeft 9 (toString nanoseconds)

/-- The time as RFC 3339 writes it, with the offset of universal time. -/
def render (time : Timestamp) : String :=
  let day := Day.ofDays (time.seconds.fdiv 86400)
  let second := (time.seconds.fmod 86400).toNat
  let leap := time.nanoseconds / 1000000000
  let date := s!"{renderYear day.year}-{twoDigits day.month}-{twoDigits day.day}"
  let clock :=
    s!"{twoDigits (second / 3600)}:{twoDigits (second / 60 % 60)}:{twoDigits (second % 60 + leap)}"
  s!"{date}T{clock}{renderFraction (time.nanoseconds % 1000000000)}+00:00"

end Timestamp

end YangCheck.Log
