import YangCheck.Decimal.Binary53
import YangCheck.Limits

namespace YangCheck

/-- The units of file sizes; each has 1024 times the bytes of the one before. -/
inductive SizeUnit where
  | bytes
  | kilobytes
  | megabytes
  | gigabytes
deriving DecidableEq, Repr

def SizeUnit.label : SizeUnit → String
  | .bytes => "B"
  | .kilobytes => "KB"
  | .megabytes => "MB"
  | .gigabytes => "GB"

namespace FileSize

open Decimal

/-- Goes on to larger units, with a division by 1024 for each, until the number is below 1024 or no
unit is left. -/
def scale (x : Binary53) (unit : SizeUnit) : (larger : List SizeUnit) → Binary53 × SizeUnit
  | [] => (x, unit)
  | next :: larger =>
    if x.isBelow 1024 then (x, unit)
    else scale (x.div (Binary53.ofNat 1024)) next larger

/-- A size with two decimals, in the largest unit that it reaches; bytes stay whole. -/
def human (size : Nat) : String :=
  match scale (Binary53.ofNat size) .bytes [.kilobytes, .megabytes, .gigabytes] with
  | (_, .bytes) => s!"{size} {SizeUnit.bytes.label}"
  | (x, unit) => s!"{x.fixed 2} {unit.label}"

def isLarge [Limits] (size : Nat) : Bool :=
  Limits.largeFileSize < size

end FileSize

end YangCheck
