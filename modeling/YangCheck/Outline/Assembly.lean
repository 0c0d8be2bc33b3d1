import YangCheck.Outline.Builder

/-!
A module put together out of cells, one for each slot. A node is taken out of its cell where it is
needed, and its cell stays empty; where no node can be taken, nothing is put together.
-/

namespace YangCheck.Outline

/-- Takes the nodes of some slots, one after another; none where a slot has no cell or its cell is
empty. -/
def takeAll? (cells : Array (Option Node)) : List Nat → Option (List Node × Array (Option Node))
  | [] => some ([], cells)
  | slot :: rest =>
    match cells[slot]? with
    | some (some node) =>
      (takeAll? (cells.setIfInBounds slot none) rest).map fun (nodes, left) => (node :: nodes, left)
    | _ => none

/-- Puts the node of a slot into its cell, with the children that it takes out of theirs. -/
def fill? (cells : Array (Option Node)) (number : Nat) (slot : Slot) :
    Option (Array (Option Node)) := do
  let (children, left) ← takeAll? cells slot.children.toList
  let node : Node :=
    { name := slot.name
      kind := slot.kind
      dataType := slot.dataType
      mandatory := slot.mandatory
      description := slot.description
      children }
  if number < left.size then some (left.setIfInBounds number (some node)) else none

/-- Fills the cells of slots that are numbered from `first` on, the last slot's first. -/
def fillAll? (cells : Array (Option Node)) (first : Nat) : List Slot → Option (Array (Option Node))
  | [] => some cells
  | slot :: rest => do fill? (← fillAll? cells (first + 1) rest) first slot

namespace Builder

/-- The module with its tree, or none where no module was opened; nothing at all where a slot is
linked that has no cell, is not filled yet or is taken already. -/
def assemble? (b : Builder) : Option (Option Module) :=
  match b.module? with
  | none => some none
  | some m => do
    let cells ← fillAll? (Array.replicate b.slots.size none) 0 b.slots.toList
    let (nodes, _) ← takeAll? cells b.roots.toList
    return some { m with nodes }

end Builder

end YangCheck.Outline
