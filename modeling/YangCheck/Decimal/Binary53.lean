import YangCheck.Decimal.Fixed

namespace YangCheck.Decimal

/-- The number `num / 2 ^ shift`. Each operation rounds its result to 53 significant binary
digits. -/
structure Binary53 where
  num : Nat
  shift : Nat
deriving DecidableEq, Repr

namespace Binary53

def den (x : Binary53) : Nat :=
  Nat.pow 2 x.shift

/-- The number with 53 significant binary digits nearest to `num / den`; a half goes to the even
neighbour. -/
def nearest (num den : Nat) : Binary53 :=
  if num = 0 then ⟨0, 0⟩
  else
    let above := 53 + den.log2
    let below := num.log2
    if below < above then
      let up := above - below
      let shift := if Nat.pow 2 53 ≤ num * Nat.pow 2 up / den then up - 1 else up
      ⟨roundDiv (num * Nat.pow 2 shift) den, shift⟩
    else
      let down := below - above
      let shift := if Nat.pow 2 53 ≤ num / (den * Nat.pow 2 down) then down + 1 else down
      ⟨roundDiv num (den * Nat.pow 2 shift) * Nat.pow 2 shift, 0⟩

def ofNat (n : Nat) : Binary53 :=
  nearest n 1

def add (x y : Binary53) : Binary53 :=
  nearest (x.num * y.den + y.num * x.den) (x.den * y.den)

def mul (x y : Binary53) : Binary53 :=
  nearest (x.num * y.num) (x.den * y.den)

def div (x y : Binary53) : Binary53 :=
  nearest (x.num * y.den) (x.den * y.num)

def isBelow (x : Binary53) (n : Nat) : Bool :=
  x.num < n * x.den

def fixed (places : Nat) (x : Binary53) : String :=
  Decimal.fixed places x.num x.den

end Binary53

end YangCheck.Decimal
