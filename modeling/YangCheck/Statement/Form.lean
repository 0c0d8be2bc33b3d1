import YangCheck.Statement.Basic
import YangCheck.Text.Blank
import YangCheck.Text.Pattern

namespace YangCheck.Statement

open Text

/-- The forms that a line can have. -/
inductive Form where
  | openModule
  | setNamespace
  | setPrefix
  | openImport
  | openNode (kind : NodeKind)
  | setType
  | setMandatory
  | setDescription
  | close
deriving DecidableEq, Repr

namespace Form

/-- The order in which forms are tried. -/
def all : List Form :=
  [.openModule, .setNamespace, .setPrefix, .openImport] ++ NodeKind.all.map .openNode ++
    [.setType, .setMandatory, .setDescription, .close]

/-- What a form makes of the part of a line that it captures. -/
def statement (captured : List Char) : Form → Statement
  | .openModule => .openModule (String.ofList captured)
  | .setNamespace => .setNamespace (String.ofList captured)
  | .setPrefix => .setPrefix (String.ofList captured)
  | .openImport => .openImport (String.ofList captured)
  | .openNode kind => .openNode kind (String.ofList captured)
  | .setType => .setType (String.ofList captured)
  | .setMandatory => .setMandatory (captured == "true".toList)
  | .setDescription => .setDescription (String.ofList captured)
  | .close => .close

def keyword (form : Form) : String :=
  (form.statement []).keyword

/-- What stands behind the keyword and the blanks that follow it. -/
inductive Argument where
  | word (stop : Char)
  | quotedText
  | truth
deriving DecidableEq, Repr

/-- None for the lone closing brace. -/
def argument? : Form → Option Argument
  | .openModule | .openImport | .openNode _ => some (.word '{')
  | .setPrefix | .setType => some (.word ';')
  | .setNamespace | .setDescription => some .quotedText
  | .setMandatory => some .truth
  | .close => none

def blanks : Pattern := .many isBlank

/-- A keyword with blanks behind it, at the start of a line but for blanks. -/
def opening (keyword : String) : Pattern :=
  .append blanks (.append (.exactly keyword.toList) (.atLeastOne isBlank))

/-- A mark, behind blanks or at once. -/
def ending (stop : Char) : Pattern :=
  .append blanks (.exactly [stop])

def pattern (keyword : String) : Argument → Capture
  | .word stop =>
    { front := opening keyword
      captured := .atLeastOne fun c => !isBlank c
      back := ending stop }
  | .quotedText =>
    { front := .append (opening keyword) (.exactly ['"'])
      captured := .atLeastOne (· != '"')
      back := .append (.exactly ['"']) (ending ';') }
  | .truth =>
    { front := opening keyword
      captured := .either (.exactly "true".toList) (.exactly "false".toList)
      back := ending ';' }

/-- What the form captures of a line, where the line has that form. -/
def capture? (form : Form) (line : List Char) : Option (List Char) :=
  match form.argument? with
  | some argument => (pattern form.keyword argument).read? line
  | none => if line = form.keyword.toList then some [] else none

end Form

end YangCheck.Statement
