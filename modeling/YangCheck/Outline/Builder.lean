import YangCheck.Statement.Admission
import YangCheck.Text.Lines

namespace YangCheck.Outline

/-- An open brace. A node's scope knows the node's slot. -/
inductive Scope where
  | ofModule
  | ofImport
  | ofNode (kind : NodeKind) (slot : Nat)
deriving DecidableEq, Repr

namespace Scope

def keyword : Scope → String
  | .ofModule => "module"
  | .ofImport => "import"
  | .ofNode kind _ => kind.keyword

def slot? : Scope → Option Nat
  | .ofNode _ slot => some slot
  | _ => none

end Scope

/-- A node whose children are slots of their own. -/
structure Slot where
  name : String
  kind : NodeKind
  dataType : Option String := none
  mandatory : Option Bool := none
  description : Option String := none
  children : Array Nat := #[]
deriving DecidableEq, Repr

/-- Builds a module from its lines. Each node gets the next slot when its header is read, and is
linked into the slot of the node around it at once. -/
structure Builder where
  module? : Option Module := none
  slots : Array Slot := #[]
  roots : Array Nat := #[]
  /-- The innermost scope comes first. -/
  scopes : List Scope := []
  linesSeen : Nat := 0

namespace Builder

def depth (b : Builder) : Nat :=
  b.scopes.length

def innermost? (b : Builder) : Option Nat :=
  b.scopes.findSome? Scope.slot?

def position (b : Builder) : Position :=
  { moduleOpen := b.module?.isSome, nodeOpen := b.innermost?.isSome }

def onModule (b : Builder) (f : Module → Module) : Builder :=
  { b with module? := b.module?.map f }

def onInnermost (b : Builder) (f : Slot → Slot) : Builder :=
  match b.innermost? with
  | some slot => { b with slots := b.slots.modify slot f }
  | none => b

/-- Links a slot into the innermost open node, or at the top level. -/
def link (b : Builder) (slot : Nat) : Builder :=
  match b.innermost? with
  | some _ => b.onInnermost fun s => { s with children := s.children.push slot }
  | none => { b with roots := b.roots.push slot }

def push (b : Builder) (scope : Scope) : Builder :=
  { b with scopes := scope :: b.scopes }

def apply (b : Builder) : Statement → Builder
  | .openModule name => { b with module? := some { name } }.push .ofModule
  | .setNamespace uri => b.onModule fun m => { m with namespaceUri := some uri }
  | .setPrefix name => b.onModule fun m => { m with prefixName := some name }
  | .openImport name => (b.onModule (·.addImport name)).push .ofImport
  | .openNode kind name =>
    let slot := b.slots.size
    let linked := b.link slot
    { linked with slots := linked.slots.push { name, kind } }.push (.ofNode kind slot)
  | .setType name => b.onInnermost fun s => { s with dataType := some name }
  | .setMandatory value => b.onInnermost fun s => { s with mandatory := some value }
  | .setDescription text => b.onInnermost fun s => { s with description := some text }
  | .close => { b with scopes := b.scopes.tail }

/-- The statement of a line that the builder acts on. -/
def read? (b : Builder) (raw : String) : Option Statement :=
  (Statement.significant? raw).bind b.position.read?

def count (b : Builder) : Builder :=
  { b with linesSeen := b.linesSeen + 1 }

/-- Takes one raw line. A line that says nothing, or that is not admitted, is only counted. -/
def feed (b : Builder) (raw : String) : Builder :=
  match b.read? raw with
  | some statement => b.count.apply statement
  | none => b.count

def feedAll (b : Builder) (lines : List String) : Builder :=
  lines.foldl feed b

end Builder

/-- The node of a slot, given the nodes of the later slots, the last slot's first. -/
def Slot.complete (count : Nat) (later : Array Node) (slot : Slot) : Node :=
  { name := slot.name
    kind := slot.kind
    dataType := slot.dataType
    mandatory := slot.mandatory
    description := slot.description
    children := slot.children.toList.filterMap fun child => later[count - 1 - child]? }

/-- The nodes of all slots, the last slot's first. A child's slot lies behind its parent's, so that
each node is complete before it is asked for. -/
def completeAll (slots : Array Slot) : Array Node :=
  slots.foldr (fun slot later => later.push (slot.complete slots.size later)) #[]

namespace Builder

/-- The module with its tree; none where no module was opened. -/
def finish (b : Builder) : Option Module :=
  b.module?.map fun m =>
    let nodes := completeAll b.slots
    { m with
      nodes := b.roots.toList.filterMap fun root => nodes[b.slots.size - 1 - root]? }

end Builder

end YangCheck.Outline

namespace YangCheck

def Module.ofLines (lines : List String) : Option Module :=
  (Outline.Builder.feedAll {} lines).finish

def Module.ofSource (source : String) : Option Module :=
  Module.ofLines (Text.lines source)

end YangCheck
