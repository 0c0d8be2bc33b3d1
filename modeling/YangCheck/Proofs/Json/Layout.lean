import YangCheck.Json.Basic

namespace YangCheck.Json

/-- The blanks that a value is written with. -/
structure Layout where
  /-- What stands in front of an item or a member, and in front of a closing bracket. -/
  margin : Nat → List Char
  /-- What stands behind a colon. -/
  gap : List Char

namespace Layout

mutual

def write (layout : Layout) (depth : Nat) : Json → List Char → List Char
  | .null, rest => 'n' :: 'u' :: 'l' :: 'l' :: rest
  | .bool true, rest => 't' :: 'r' :: 'u' :: 'e' :: rest
  | .bool false, rest => 'f' :: 'a' :: 'l' :: 's' :: 'e' :: rest
  | .number literal, rest => literal ++ rest
  | .string literal, rest => quote literal rest
  | .array [], rest => '[' :: ']' :: rest
  | .array (item :: items), rest =>
    '[' :: (layout.margin (depth + 1) ++ layout.write (depth + 1) item
      (layout.writeItems depth items rest))
  | .object [], rest => '{' :: '}' :: rest
  | .object ((key, value) :: members), rest =>
    '{' :: (layout.margin (depth + 1) ++ quote key (':' :: (layout.gap ++
      layout.write (depth + 1) value (layout.writeMembers depth members rest))))

/-- Writes the items behind the first one, and the end of the array. -/
def writeItems (layout : Layout) (depth : Nat) : List Json → List Char → List Char
  | [], rest => layout.margin depth ++ ']' :: rest
  | item :: items, rest =>
    ',' :: (layout.margin (depth + 1) ++ layout.write (depth + 1) item
      (layout.writeItems depth items rest))

/-- Writes the members behind the first one, and the end of the object. -/
def writeMembers (layout : Layout) (depth : Nat) :
    List (List Char × Json) → List Char → List Char
  | [], rest => layout.margin depth ++ '}' :: rest
  | (key, value) :: members, rest =>
    ',' :: (layout.margin (depth + 1) ++ quote key (':' :: (layout.gap ++
      layout.write (depth + 1) value (layout.writeMembers depth members rest))))

end

def compact : Layout where
  margin _ := []
  gap := []

def pretty : Layout where
  margin depth := '\n' :: List.replicate (2 * depth) ' '
  gap := [' ']

mutual

theorem write_compact (depth : Nat) : (json : Json) → (rest : List Char) →
    compact.write depth json rest = json.writeCompact rest
  | .null, _ | .bool true, _ | .bool false, _ | .number _, _ | .string _, _ => rfl
  | .array [], _ | .object [], _ => rfl
  | .array (item :: items), rest => by
    rw [write, writeCompact, writeItems_compact, write_compact (depth + 1) item]
    rfl
  | .object ((key, value) :: members), rest => by
    rw [write, writeCompact, writeMembers_compact, write_compact (depth + 1) value]
    rfl

theorem writeItems_compact (depth : Nat) : (items : List Json) → (rest : List Char) →
    compact.writeItems depth items rest = Json.writeItems items (']' :: rest)
  | [], _ => rfl
  | item :: items, rest => by
    rw [writeItems, Json.writeItems, writeItems_compact, write_compact (depth + 1) item]
    rfl

theorem writeMembers_compact (depth : Nat) : (members : List (List Char × Json)) →
    (rest : List Char) →
    compact.writeMembers depth members rest = Json.writeMembers members ('}' :: rest)
  | [], _ => rfl
  | (key, value) :: members, rest => by
    rw [writeMembers, Json.writeMembers, writeMembers_compact, write_compact (depth + 1) value]
    rfl

end

mutual

theorem write_pretty (depth : Nat) : (json : Json) → (rest : List Char) →
    pretty.write depth json rest = json.writePretty depth rest
  | .null, _ | .bool true, _ | .bool false, _ | .number _, _ | .string _, _ => rfl
  | .array [], _ | .object [], _ => rfl
  | .array (item :: items), rest => by
    rw [write, writePretty, writeItems_pretty, write_pretty (depth + 1) item]
    rfl
  | .object ((key, value) :: members), rest => by
    rw [write, writePretty, writeMembers_pretty, write_pretty (depth + 1) value]
    rfl

theorem writeItems_pretty (depth : Nat) : (items : List Json) → (rest : List Char) →
    pretty.writeItems depth items rest =
      writePrettyItems (depth + 1) items (newLine depth (']' :: rest))
  | [], _ => rfl
  | item :: items, rest => by
    rw [writeItems, writePrettyItems, writeItems_pretty, write_pretty (depth + 1) item]
    rfl

theorem writeMembers_pretty (depth : Nat) : (members : List (List Char × Json)) →
    (rest : List Char) →
    pretty.writeMembers depth members rest =
      writePrettyMembers (depth + 1) members (newLine depth ('}' :: rest))
  | [], _ => rfl
  | (key, value) :: members, rest => by
    rw [writeMembers, writePrettyMembers, writeMembers_pretty, write_pretty (depth + 1) value]
    rfl

end

end Layout

end YangCheck.Json
