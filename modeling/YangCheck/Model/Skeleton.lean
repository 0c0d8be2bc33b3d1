import YangCheck.Model.Tree
import YangCheck.Text.Blank
import YangCheck.Text.Lines

/-! What of a module can be read back from its indented list: the names, and the shape of the tree
of nodes with their kinds. -/

namespace YangCheck

namespace Node

/-- A node without anything but its kind and its name. -/
def bare (node : Node) : Node :=
  { name := node.name, kind := node.kind }

mutual

/-- The kinds and the names of a node and of all below it. -/
def skeleton : Node → Node
  | ⟨name, kind, _, _, _, children⟩ => { name, kind, children := skeletons children }

def skeletons : List Node → List Node
  | [] => []
  | node :: rest => skeleton node :: skeletons rest

end

mutual

/-- A node and all below it in preorder, each with its depth. -/
def levels (depth : Nat) : Node → List (Nat × Node)
  | ⟨name, kind, dataType, mandatory, description, children⟩ =>
    (depth, ⟨name, kind, dataType, mandatory, description, children⟩) ::
      levelsOfAll (depth + 1) children

def levelsOfAll (depth : Nat) : List Node → List (Nat × Node)
  | [] => []
  | node :: rest => levels depth node ++ levelsOfAll depth rest

end

/-- Puts nodes that come in preorder into each other: all that is deeper than a node, up to the
next that is not, lies below it. -/
def gather : List (Nat × Node) → List (Nat × Node)
  | [] => []
  | (depth, node) :: rest =>
    let later := gather rest
    let below := later.takeWhile fun entry => depth < entry.1
    (depth, { node with children := below.map Prod.snd }) ::
      later.dropWhile fun entry => depth < entry.1

end Node

/-- How far a line is indented, and the first two words of it. -/
structure TreeRow where
  indent : Nat
  keyword : String
  name : String
deriving DecidableEq, Repr

namespace TreeRow

open Text

def ofLine (line : String) : TreeRow :=
  let body := skipBlanks line.toList
  { indent := line.toList.length - body.length
    keyword := String.ofList (firstWord body)
    name := String.ofList (firstWord (skipBlanks (afterWord body))) }

/-- The node that a row declares, with its depth. -/
def level? (row : TreeRow) : Option (Nat × Node) :=
  (NodeKind.ofKeyword? row.keyword).map fun kind => (row.indent / 2, { name := row.name, kind })

def import? (row : TreeRow) : Option String :=
  if row.keyword = "import" then some row.name else none

end TreeRow

namespace Module

def skeleton (m : Module) : Module :=
  { name := m.name, imports := m.imports, nodes := Node.skeletons m.nodes }

/-- Reads the names and the kinds back from the lines of an indented list. -/
def ofTree? (text : String) : Option Module :=
  match (Text.lines text).map TreeRow.ofLine with
  | [] => none
  | first :: rows =>
    some {
      name := first.name
      imports := rows.filterMap TreeRow.import?
      nodes := (Node.gather (rows.filterMap TreeRow.level?)).map Prod.snd }

end Module

end YangCheck
