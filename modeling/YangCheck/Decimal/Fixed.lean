namespace YangCheck.Decimal

/-- The whole number nearest to `num / den`; a half goes to the even neighbour. -/
def roundDiv (num den : Nat) : Nat :=
  let q := num / den
  let r := num % den
  if 2 * r < den then q
  else if den < 2 * r then q + 1
  else if q % 2 = 0 then q
  else q + 1

def padLeft (width : Nat) (digits : String) : String :=
  String.ofList (List.replicate (width - digits.length) '0') ++ digits

/-- `num / den` rounded to the given number of decimals. -/
def fixed (places num den : Nat) : String :=
  let one := Nat.pow 10 places
  let scaled := roundDiv (num * one) den
  let whole := toString (scaled / one)
  if places = 0 then whole
  else whole ++ "." ++ padLeft places (toString (scaled % one))

end YangCheck.Decimal
