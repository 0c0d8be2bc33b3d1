import YangCheck.Statement.Admission

/-!
A module built with no slots: each open scope holds what has been declared in it, and a node moves
into the node around it when it is closed.
-/

namespace YangCheck.Outline

/-- An open brace with what has been declared behind it. -/
inductive OpenScope where
  | ofModule
  | ofImport
  | ofNode (node : Node)

/-- The module as far as it is known, with its finished nodes, and the scopes that are open. -/
structure Nest where
  module? : Option Module := none
  /-- The innermost scope comes first. -/
  scopes : List OpenScope := []

namespace Nest

def holdsNode : List OpenScope → Bool
  | [] => false
  | .ofNode _ :: _ => true
  | _ :: outer => holdsNode outer

def edit (f : Node → Node) : List OpenScope → List OpenScope
  | [] => []
  | .ofNode node :: outer => .ofNode (f node) :: outer
  | scope :: outer => scope :: edit f outer

def position (nest : Nest) : Position :=
  { moduleOpen := nest.module?.isSome, nodeOpen := holdsNode nest.scopes }

def onModule (nest : Nest) (f : Module → Module) : Nest :=
  { nest with module? := nest.module?.map f }

def onInnermost (nest : Nest) (f : Node → Node) : Nest :=
  { nest with scopes := edit f nest.scopes }

def push (nest : Nest) (scope : OpenScope) : Nest :=
  { nest with scopes := scope :: nest.scopes }

/-- Puts a finished node into the innermost node that is open, or at the top level. -/
def add (nest : Nest) (node : Node) : Nest :=
  if holdsNode nest.scopes then
    nest.onInnermost fun parent => { parent with children := parent.children ++ [node] }
  else nest.onModule fun m => { m with nodes := m.nodes ++ [node] }

/-- Closes the innermost scope, where one is open. -/
def pop (nest : Nest) : Nest :=
  match nest.scopes with
  | [] => nest
  | .ofNode node :: outer => { nest with scopes := outer }.add node
  | _ :: outer => { nest with scopes := outer }

def apply (nest : Nest) : Statement → Nest
  | .openModule name => { nest with module? := some { name } }.push .ofModule
  | .setNamespace uri => nest.onModule fun m => { m with namespaceUri := some uri }
  | .setPrefix name => nest.onModule fun m => { m with prefixName := some name }
  | .openImport name =>
    (nest.onModule fun m => { m with imports := m.imports ++ [name] }).push .ofImport
  | .openNode kind name => nest.push (.ofNode { name, kind })
  | .setType name => nest.onInnermost fun node => { node with dataType := some name }
  | .setMandatory value => nest.onInnermost fun node => { node with mandatory := some value }
  | .setDescription text => nest.onInnermost fun node => { node with description := some text }
  | .close => nest.pop

def feed (nest : Nest) (raw : String) : Nest :=
  match (Statement.significant? raw).bind nest.position.read? with
  | some statement => nest.apply statement
  | none => nest

def feedAll (nest : Nest) (lines : List String) : Nest :=
  lines.foldl feed nest

/-- Closes scopes, the innermost first, until none is open. -/
def popAll (nest : Nest) : Nest :=
  nest.scopes.foldl (fun nest _ => nest.pop) nest

/-- The module with all scopes closed; none where no module was opened. -/
def finish (nest : Nest) : Option Module :=
  nest.popAll.module?

end Nest

end YangCheck.Outline
