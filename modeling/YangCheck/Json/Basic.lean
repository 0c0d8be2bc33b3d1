namespace YangCheck

/-- A JSON text. Numbers and strings are kept as they are written, a string without its quotes. -/
inductive Json where
  | null
  | bool (value : Bool)
  | number (literal : List Char)
  | string (literal : List Char)
  | array (items : List Json)
  | object (members : List (List Char × Json))
deriving Inhabited

namespace Json

def hexDigit (n : Nat) : Char :=
  if n < 10 then Char.ofNat (48 + n) else Char.ofNat (87 + n)

def escapeChar (c : Char) : List Char :=
  if c = '"' then ['\\', '"']
  else if c = '\\' then ['\\', '\\']
  else if c = '\x08' then ['\\', 'b']
  else if c = '\x0C' then ['\\', 'f']
  else if c = '\n' then ['\\', 'n']
  else if c = '\r' then ['\\', 'r']
  else if c = '\t' then ['\\', 't']
  else if c.toNat < 0x20 then
    ['\\', 'u', '0', '0', hexDigit (c.toNat / 16), hexDigit (c.toNat % 16)]
  else [c]

/-- Quotes, backslashes and control characters are escaped; all else stands for itself. -/
def escape (s : List Char) : List Char :=
  s.flatMap escapeChar

def ofString (s : String) : Json :=
  .string (escape s.toList)

def ofNat (n : Nat) : Json :=
  .number (Nat.toDigits 10 n)

def ofFields (fields : List (String × Json)) : Json :=
  .object (fields.map fun field => (escape field.1.toList, field.2))

def quote (literal : List Char) (rest : List Char) : List Char :=
  '"' :: literal ++ '"' :: rest

mutual

/-- Writes a value without blanks, in front of `rest`. -/
def writeCompact : Json → List Char → List Char
  | .null, rest => 'n' :: 'u' :: 'l' :: 'l' :: rest
  | .bool true, rest => 't' :: 'r' :: 'u' :: 'e' :: rest
  | .bool false, rest => 'f' :: 'a' :: 'l' :: 's' :: 'e' :: rest
  | .number literal, rest => literal ++ rest
  | .string literal, rest => quote literal rest
  | .array [], rest => '[' :: ']' :: rest
  | .array (item :: items), rest => '[' :: writeCompact item (writeItems items (']' :: rest))
  | .object [], rest => '{' :: '}' :: rest
  | .object ((key, value) :: members), rest =>
    '{' :: quote key (':' :: writeCompact value (writeMembers members ('}' :: rest)))

def writeItems : List Json → List Char → List Char
  | [], rest => rest
  | item :: items, rest => ',' :: writeCompact item (writeItems items rest)

def writeMembers : List (List Char × Json) → List Char → List Char
  | [], rest => rest
  | (key, value) :: members, rest =>
    ',' :: quote key (':' :: writeCompact value (writeMembers members rest))

end

def compact (json : Json) : String :=
  String.ofList (json.writeCompact [])

/-- A line end and two spaces for each level. -/
def newLine (depth : Nat) (rest : List Char) : List Char :=
  '\n' :: List.replicate (2 * depth) ' ' ++ rest

mutual

/-- Writes a value with one item or member a line, in front of `rest`. -/
def writePretty (depth : Nat) : Json → List Char → List Char
  | .null, rest => 'n' :: 'u' :: 'l' :: 'l' :: rest
  | .bool true, rest => 't' :: 'r' :: 'u' :: 'e' :: rest
  | .bool false, rest => 'f' :: 'a' :: 'l' :: 's' :: 'e' :: rest
  | .number literal, rest => literal ++ rest
  | .string literal, rest => quote literal rest
  | .array [], rest => '[' :: ']' :: rest
  | .array (item :: items), rest =>
    '[' :: newLine (depth + 1) (writePretty (depth + 1) item
      (writePrettyItems (depth + 1) items (newLine depth (']' :: rest))))
  | .object [], rest => '{' :: '}' :: rest
  | .object ((key, value) :: members), rest =>
    '{' :: newLine (depth + 1) (quote key (':' :: ' ' :: writePretty (depth + 1) value
      (writePrettyMembers (depth + 1) members (newLine depth ('}' :: rest)))))

def writePrettyItems (depth : Nat) : List Json → List Char → List Char
  | [], rest => rest
  | item :: items, rest =>
    ',' :: newLine depth (writePretty depth item (writePrettyItems depth items rest))

def writePrettyMembers (depth : Nat) : List (List Char × Json) → List Char → List Char
  | [], rest => rest
  | (key, value) :: members, rest =>
    ',' :: newLine depth (quote key (':' :: ' ' :: writePretty depth value
      (writePrettyMembers depth members rest)))

end

def pretty (json : Json) : String :=
  String.ofList (json.writePretty 0 [])

end Json

end YangCheck
