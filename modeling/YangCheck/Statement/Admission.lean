import YangCheck.Statement.Reading

namespace YangCheck

/-- What has to be known of the lines above to admit a statement. -/
structure Position where
  moduleOpen : Bool := false
  nodeOpen : Bool := false
deriving DecidableEq, Repr

inductive Rejection where
  | beforeModule
  | repeatedModule
  | noOpenNode
deriving DecidableEq, Repr

namespace Position

/-- The first statement has to open the module and no later one may; a node has to be open for a
statement that edits it. -/
def rejection? (position : Position) (statement : Statement) : Option Rejection :=
  if statement.isModule then
    if position.moduleOpen then some .repeatedModule else none
  else if !position.moduleOpen then some .beforeModule
  else if statement.editsNode && !position.nodeOpen then some .noOpenNode
  else none

def admits (position : Position) (statement : Statement) : Bool :=
  (position.rejection? statement).isNone

/-- The statement that a line makes, where it is admitted. -/
def read? (position : Position) (line : List Char) : Option Statement :=
  (Statement.ofChars? line).filter position.admits

end Position

end YangCheck
