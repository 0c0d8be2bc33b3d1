namespace YangCheck

inductive NodeKind where
  | container
  | leaf
  | leafList
  | list
deriving DecidableEq, Repr

namespace NodeKind

def keyword : NodeKind → String
  | .container => "container"
  | .leaf => "leaf"
  | .leafList => "leaf-list"
  | .list => "list"

def all : List NodeKind := [.container, .leaf, .leafList, .list]

/-- The kind that a keyword names, in its exact spelling. -/
def ofKeyword? (text : String) : Option NodeKind :=
  all.find? (·.keyword == text)

end NodeKind

/-- A declaration inside a module, with the declarations inside it. -/
structure Node where
  name : String
  kind : NodeKind
  dataType : Option String := none
  mandatory : Option Bool := none
  description : Option String := none
  children : List Node := []
deriving Repr

namespace Node

/-- The first child of that name. -/
def child? (node : Node) (name : String) : Option Node :=
  node.children.find? (·.name == name)

mutual

/-- The node and all below it. -/
def size : Node → Nat
  | ⟨_, _, _, _, _, children⟩ => sizes children + 1

def sizes : List Node → Nat
  | [] => 0
  | node :: rest => size node + sizes rest

end

end Node

structure Module where
  name : String
  namespaceUri : Option String := none
  prefixName : Option String := none
  imports : List String := []
  nodes : List Node := []
deriving Repr

namespace Module

def addImport (m : Module) (name : String) : Module :=
  { m with imports := m.imports ++ [name] }

def addNode (m : Module) (node : Node) : Module :=
  { m with nodes := m.nodes ++ [node] }

def nodeCount (m : Module) : Nat :=
  Node.sizes m.nodes

/-- The first top-level node of that name. -/
def node? (m : Module) (name : String) : Option Node :=
  m.nodes.find? (·.name == name)

/-- The node that a path of names leads to from the top level. -/
def find? (m : Module) : List String → Option Node
  | [] => none
  | name :: rest => rest.foldlM Node.child? =<< m.node? name

end Module

end YangCheck
