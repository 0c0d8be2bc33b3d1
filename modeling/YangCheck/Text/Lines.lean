namespace YangCheck.Text

inductive LineEnd where
  | lf
  | crlf
  | cr
deriving DecidableEq, Repr

def LineEnd.chars : LineEnd → List Char
  | .lf => ['\n']
  | .crlf => ['\r', '\n']
  | .cr => ['\r']

/-- The lines of a text whose first line has already begun with `front`, written backwards. -/
def linesAfter (front : List Char) : List Char → List (List Char)
  | [] => if front.isEmpty then [] else [front.reverse]
  | '\n' :: rest => front.reverse :: linesAfter [] rest
  | '\r' :: '\n' :: rest => front.reverse :: linesAfter [] rest
  | '\r' :: rest => front.reverse :: linesAfter [] rest
  | c :: rest => linesAfter (c :: front) rest

/-- The lines of a text, without their ends; an end that closes the text starts no further line. -/
def lines (text : String) : List String :=
  (linesAfter [] text.toList).map String.ofList

/-- Lines, each closed by its own mark, and the characters behind the last mark. -/
def joinLines (closed : List (List Char × LineEnd)) (tail : List Char) : List Char :=
  closed.flatMap (fun entry => entry.1 ++ entry.2.chars) ++ tail

end YangCheck.Text
