import YangCheck.Model.Basic

namespace YangCheck

namespace Node

def label (node : Node) : String :=
  let dataType := node.dataType.elim "" fun t => " " ++ t
  let mandatory := node.mandatory.elim "" fun b => s!" mandatory={b}"
  let description := node.description.elim "" fun d => " \"" ++ d ++ "\""
  node.kind.keyword ++ " " ++ node.name ++ dataType ++ mandatory ++ description

def indent (depth : Nat) : String :=
  String.ofList (List.replicate (2 * depth) ' ')

mutual

/-- The lines of a node and of all below it, each level two spaces further in. -/
def treeLines (depth : Nat) : Node → List String
  | ⟨name, kind, dataType, mandatory, description, children⟩ =>
    (indent depth ++ label ⟨name, kind, dataType, mandatory, description, []⟩) ::
      treeLinesAll (depth + 1) children

def treeLinesAll (depth : Nat) : List Node → List String
  | [] => []
  | node :: rest => treeLines depth node ++ treeLinesAll depth rest

end

end Node

namespace Module

def label (m : Module) : String :=
  let details :=
    match m.namespaceUri, m.prefixName with
    | some uri, some name => s!" (namespace {uri}, prefix {name})"
    | some uri, none => s!" (namespace {uri})"
    | none, some name => s!" (prefix {name})"
    | none, none => ""
  "module " ++ m.name ++ details

def treeLines (m : Module) : List String :=
  m.label :: m.imports.map (fun name => "  import " ++ name) ++ Node.treeLinesAll 1 m.nodes

/-- The module as an indented list, one line for each import and each node. -/
def renderTree (m : Module) : String :=
  String.join (m.treeLines.map (· ++ "\n"))

end Module

end YangCheck
