import YangCheck.Json.Basic

namespace YangCheck.Json

def isSpace (c : Char) : Bool :=
  c == ' ' || c == '\n' || c == '\t' || c == '\r'

def skipSpaces (s : List Char) : List Char :=
  s.dropWhile isSpace

def hexValue? (c : Char) : Option Nat :=
  let n := c.toNat
  if 48 ≤ n && n ≤ 57 then some (n - 48)
  else if 97 ≤ n && n ≤ 102 then some (n - 87)
  else if 65 ≤ n && n ≤ 70 then some (n - 55)
  else none

def hexQuad? (a b c d : Char) : Option Nat := do
  return ((← hexValue? a) * 16 + (← hexValue? b)) * 256 + (← hexValue? c) * 16 + (← hexValue? d)

/-- What a backslash and a single letter stand for. -/
def escaped? (c : Char) : Option Char :=
  match c with
  | '"' => some '"'
  | '\\' => some '\\'
  | '/' => some '/'
  | 'b' => some '\x08'
  | 'f' => some '\x0C'
  | 'n' => some '\n'
  | 'r' => some '\r'
  | 't' => some '\t'
  | _ => none

/-- Splits behind the quote that closes a string; `front` is what was read, backwards. -/
def stringFrom (front : List Char) : List Char → Option (List Char × List Char)
  | [] => none
  | '"' :: rest => some (front.reverse, rest)
  | '\\' :: 'u' :: a :: b :: c :: d :: rest =>
    if (hexQuad? a b c d).isSome then
      stringFrom (d :: c :: b :: a :: 'u' :: '\\' :: front) rest
    else none
  | '\\' :: c :: rest =>
    if (escaped? c).isSome then stringFrom (c :: '\\' :: front) rest else none
  | c :: rest => if c.toNat < 0x20 then none else stringFrom (c :: front) rest

def digits (s : List Char) : List Char × List Char :=
  s.span Char.isDigit

/-- A point and at least one digit, or nothing. -/
def fraction? : List Char → Option (List Char × List Char)
  | '.' :: s =>
    match digits s with
    | ([], _) => none
    | (ds, rest) => some ('.' :: ds, rest)
  | s => some ([], s)

/-- An exponent with at least one digit, or nothing. -/
def exponent? : List Char → Option (List Char × List Char)
  | [] => some ([], [])
  | e :: s =>
    if e = 'e' || e = 'E' then
      let (sign, s) :=
        match s with
        | '+' :: t => (['+'], t)
        | '-' :: t => (['-'], t)
        | t => ([], t)
      match digits s with
      | ([], _) => none
      | (ds, rest) => some (e :: sign ++ ds, rest)
    else some ([], e :: s)

/-- One zero, or digits of which the first is not zero. -/
def whole? (s : List Char) : Option (List Char × List Char) :=
  match digits s with
  | ([], _) => none
  | ('0' :: _ :: _, _) => none
  | result => some result

def number? (s : List Char) : Option (Json × List Char) := do
  let (sign, s) :=
    match s with
    | '-' :: t => (['-'], t)
    | t => ([], t)
  let (whole, s) ← whole? s
  let (fraction, s) ← fraction? s
  let (exponent, s) ← exponent? s
  return (.number (sign ++ whole ++ fraction ++ exponent), s)

mutual

/-- A value at the start of the text, blanks in front aside, and what follows it. -/
def value? : Nat → List Char → Option (Json × List Char)
  | 0, _ => none
  | fuel + 1, s =>
    match skipSpaces s with
    | 'n' :: 'u' :: 'l' :: 'l' :: rest => some (.null, rest)
    | 't' :: 'r' :: 'u' :: 'e' :: rest => some (.bool true, rest)
    | 'f' :: 'a' :: 'l' :: 's' :: 'e' :: rest => some (.bool false, rest)
    | '"' :: rest => (stringFrom [] rest).map fun (literal, rest) => (.string literal, rest)
    | '[' :: rest =>
      match skipSpaces rest with
      | ']' :: rest => some (.array [], rest)
      | rest => (items? fuel rest).map fun (items, rest) => (.array items, rest)
    | '{' :: rest =>
      match skipSpaces rest with
      | '}' :: rest => some (.object [], rest)
      | rest => (members? fuel rest).map fun (members, rest) => (.object members, rest)
    | rest => number? rest

/-- Values between commas, up to the bracket that closes them. -/
def items? : Nat → List Char → Option (List Json × List Char)
  | 0, _ => none
  | fuel + 1, s =>
    match value? fuel s with
    | none => none
    | some (item, rest) =>
      match skipSpaces rest with
      | ']' :: rest => some ([item], rest)
      | ',' :: rest => (items? fuel rest).map fun (items, rest) => (item :: items, rest)
      | _ => none

/-- Members between commas, up to the brace that closes them. -/
def members? : Nat → List Char → Option (List (List Char × Json) × List Char)
  | 0, _ => none
  | fuel + 1, s =>
    match skipSpaces s with
    | '"' :: rest =>
      match stringFrom [] rest with
      | none => none
      | some (key, rest) =>
        match skipSpaces rest with
        | ':' :: rest =>
          match value? fuel rest with
          | none => none
          | some (value, rest) =>
            match skipSpaces rest with
            | '}' :: rest => some ([(key, value)], rest)
            | ',' :: rest =>
              (members? fuel rest).map fun (members, rest) => ((key, value) :: members, rest)
            | _ => none
        | _ => none
    | _ => none

end

/-- The value that a whole text spells. Each step reads at least one character of two. -/
def parse? (text : String) : Option Json :=
  let s := text.toList
  match value? (2 * s.length + 2) s with
  | some (json, rest) => if (skipSpaces rest).isEmpty then some json else none
  | none => none

/-- The code points that a string's literal spells, backwards behind `front`. -/
def codesFrom (front : List Nat) : List Char → Option (List Nat)
  | [] => some front.reverse
  | '\\' :: 'u' :: a :: b :: c :: d :: rest =>
    match hexQuad? a b c d with
    | some n => codesFrom (n :: front) rest
    | none => none
  | '\\' :: c :: rest =>
    match escaped? c with
    | some e => codesFrom (e.toNat :: front) rest
    | none => none
  | c :: rest => codesFrom (c.toNat :: front) rest

def isHighSurrogate (n : Nat) : Bool :=
  0xD800 ≤ n && n ≤ 0xDBFF

def isLowSurrogate (n : Nat) : Bool :=
  0xDC00 ≤ n && n ≤ 0xDFFF

/-- Joins surrogate pairs; a surrogate that stands alone is no character. -/
def charsFrom (front : List Char) : List Nat → Option (List Char)
  | [] => some front.reverse
  | [n] =>
    if isHighSurrogate n || isLowSurrogate n then none
    else some (Char.ofNat n :: front).reverse
  | high :: low :: rest =>
    if isHighSurrogate high then
      if isLowSurrogate low then
        charsFrom (Char.ofNat (0x10000 + (high - 0xD800) * 0x400 + (low - 0xDC00)) :: front) rest
      else none
    else if isLowSurrogate high then none
    else charsFrom (Char.ofNat high :: front) (low :: rest)

/-- The text that a string's literal spells. -/
def unescape? (literal : List Char) : Option String :=
  ((codesFrom [] literal).bind (charsFrom [])).map String.ofList

def text? : Json → Option String
  | .string literal => unescape? literal
  | _ => none

def flag? : Json → Option Bool
  | .bool value => some value
  | _ => none

def nat? : Json → Option Nat
  | .number literal => (String.ofList literal).toNat?
  | _ => none

def members : Json → Option (List (String × Json))
  | .object members => members.mapM fun member => (unescape? member.1).map (·, member.2)
  | _ => none

/-- The values of the named fields of a record. An object gives each name at most once; an array
gives the values in the order of the names, and the last ones may be left out. -/
def record? (names : List String) : Json → Option (List (Option Json))
  | .array items =>
    if items.length ≤ names.length then
      some (items.map some ++ List.replicate (names.length - items.length) none)
    else none
  | json => do
    let members ← json.members
    names.mapM fun name =>
      match members.filter (·.1 == name) with
      | [] => some none
      | [member] => some (some member.2)
      | _ => none

end YangCheck.Json
