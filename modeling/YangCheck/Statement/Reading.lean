import YangCheck.Statement.Basic
import YangCheck.Text.Blank

namespace YangCheck.Statement

open Text

/-- What follows a keyword at the start of a line and the blanks behind it. Blanks in front of the
keyword are skipped, and at least one blank has to follow. -/
def argument? (keyword : String) (line : List Char) : Option (List Char) :=
  let s := skipBlanks line
  let word := keyword.toList
  if word.isPrefixOf s then
    match s.drop word.length with
    | [] => none
    | c :: rest => if isBlank c then some (skipBlanks rest) else none
  else none

/-- A word in front of `stop`. Where `stop` follows the whole word, blanks aside, the word is taken
whole; else up to its last `stop`. -/
def word? (stop : Char) (s : List Char) : Option String :=
  let word := firstWord s
  if word.isEmpty then none
  else if (skipBlanks (afterWord s)).head? = some stop then some (String.ofList word)
  else
    match beforeLast? stop word with
    | none | some [] => none
    | some front => some (String.ofList front)

/-- A quoted text that is not empty, in front of a semicolon. -/
def quotedText? (s : List Char) : Option String :=
  match s with
  | '"' :: rest =>
    let text := rest.takeWhile (· != '"')
    match rest.dropWhile (· != '"') with
    | '"' :: rest =>
      if text.isEmpty then none
      else if (skipBlanks rest).head? = some ';' then some (String.ofList text)
      else none
    | _ => none
  | _ => none

/-- One of the two words for a truth value, in front of a semicolon. -/
def truth? (s : List Char) : Option Bool :=
  match s with
  | 't' :: 'r' :: 'u' :: 'e' :: rest =>
    if (skipBlanks rest).head? = some ';' then some true else none
  | 'f' :: 'a' :: 'l' :: 's' :: 'e' :: rest =>
    if (skipBlanks rest).head? = some ';' then some false else none
  | _ => none

def header? (keyword : String) (line : List Char) : Option String :=
  (argument? keyword line).bind (word? '{')

def setting? (keyword : String) (line : List Char) : Option String :=
  (argument? keyword line).bind (word? ';')

def quotedSetting? (keyword : String) (line : List Char) : Option String :=
  (argument? keyword line).bind quotedText?

def module? (line : List Char) : Option String :=
  header? "module" line

def node? (line : List Char) : Option Statement :=
  NodeKind.all.findSome? fun kind => (header? kind.keyword line).map (.openNode kind)

/-- The statement that a line makes; the first form that fits decides, and what follows the mark
that ends it is not looked at. -/
def ofChars? (line : List Char) : Option Statement :=
  (module? line).map .openModule <|>
  (quotedSetting? "namespace" line).map .setNamespace <|>
  (setting? "prefix" line).map .setPrefix <|>
  (header? "import" line).map .openImport <|>
  node? line <|>
  (setting? "type" line).map .setType <|>
  ((argument? "mandatory" line).bind truth?).map .setMandatory <|>
  (quotedSetting? "description" line).map .setDescription <|>
  (if line = ['}'] then some .close else none)

def ofLine? (line : String) : Option Statement :=
  ofChars? line.toList

def opensModule (line : List Char) : Bool :=
  (module? line).isSome

/-- A line without the blanks around it; none for a blank line and for a comment. -/
def significant? (raw : String) : Option (List Char) :=
  match trim raw.toList with
  | [] => none
  | '/' :: '/' :: _ => none
  | line => some line

end YangCheck.Statement
