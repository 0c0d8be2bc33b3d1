namespace YangCheck.Text

/-- What may stand at a place of a text. -/
inductive Pattern where
  | exactly (part : List Char)
  | one (accepts : Char → Bool)
  | many (accepts : Char → Bool)
  | append (front back : Pattern)
  | either (preferred other : Pattern)

namespace Pattern

variable {α : Type}

def atLeastOne (accepts : Char → Bool) : Pattern :=
  append (one accepts) (many accepts)

/-- Takes as many characters as it can, and one less at a time as long as `next` fails on what is
taken and what is left. -/
def takeMany (accepts : Char → Bool) :
    (List Char → List Char → Option α) → List Char → Option α
  | next, [] => next [] []
  | next, c :: rest =>
    if accepts c then
      (takeMany accepts (fun taken => next (c :: taken)) rest).or (next [] (c :: rest))
    else next [] (c :: rest)

/-- Matches the start of a text. Of the ways to do so, the preferred one is taken for which `next`
succeeds on what is taken and what is left. -/
def first? : Pattern → (List Char → List Char → Option α) → List Char → Option α
  | exactly part, next, s => if part.isPrefixOf s then next part (s.drop part.length) else none
  | one accepts, next, s =>
    match s with
    | [] => none
    | c :: rest => if accepts c then next [c] rest else none
  | many accepts, next, s => takeMany accepts next s
  | append front back, next, s =>
    front.first? (fun taken => back.first? fun more => next (taken ++ more)) s
  | either preferred other, next, s => (preferred.first? next s).or (other.first? next s)

end Pattern

/-- A pattern of which one part is captured. -/
structure Capture where
  front : Pattern
  captured : Pattern
  back : Pattern

/-- What the captured part takes in the preferred way to match the start of a text. -/
def Capture.read? (capture : Capture) (s : List Char) : Option (List Char) :=
  capture.front.first?
    (fun _ => capture.captured.first? fun taken => capture.back.first? fun _ _ => some taken) s

end YangCheck.Text
