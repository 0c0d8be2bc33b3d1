namespace YangCheck.Text

/-- The Unicode property `White_Space`. -/
def isBlank (c : Char) : Bool :=
  let n := c.toNat
  (9 ≤ n && n ≤ 13) || n == 0x20 || n == 0x85 || n == 0xA0 || n == 0x1680 ||
    (0x2000 ≤ n && n ≤ 0x200A) || n == 0x2028 || n == 0x2029 || n == 0x202F || n == 0x205F ||
    n == 0x3000

def skipBlanks (s : List Char) : List Char :=
  s.dropWhile isBlank

def firstWord (s : List Char) : List Char :=
  s.takeWhile fun c => !isBlank c

def afterWord (s : List Char) : List Char :=
  s.dropWhile fun c => !isBlank c

def trim (s : List Char) : List Char :=
  (skipBlanks (skipBlanks s).reverse).reverse

/-- Whether `part` stands anywhere in a text. -/
def occurs (part : List Char) : List Char → Bool
  | [] => part.isEmpty
  | c :: rest => part.isPrefixOf (c :: rest) || occurs part rest

/-- What stands in front of the last `stop`. -/
def beforeLast? (stop : Char) : List Char → Option (List Char)
  | [] => none
  | c :: rest =>
    match beforeLast? stop rest with
    | some front => some (c :: front)
    | none => if c = stop then some [] else none

end YangCheck.Text
