import Mathlib.Data.List.Basic
import YangCheck.Outline.Builder

namespace YangCheck.Outline

/-- The slots of nodes that are laid out one behind the other from `first` on. -/
def offsets (first : Nat) : List Node → List Nat
  | [] => []
  | node :: rest => first :: offsets (first + node.size) rest

mutual

/-- The slots of a node and of all below it, its own slot being number `first`. -/
def layout (first : Nat) : Node → List Slot
  | ⟨name, kind, dataType, mandatory, description, children⟩ =>
    ⟨name, kind, dataType, mandatory, description, (offsets (first + 1) children).toArray⟩ ::
      layoutAll (first + 1) children

def layoutAll (first : Nat) : List Node → List Slot
  | [] => []
  | node :: rest => layout first node ++ layoutAll (first + node.size) rest

end

mutual

theorem length_layout (first : Nat) : (node : Node) → (layout first node).length = node.size
  | ⟨_, _, _, _, _, children⟩ => by
    simp only [layout, Node.size, List.length_cons, length_layoutAll (first + 1) children]

theorem length_layoutAll (first : Nat) :
    (nodes : List Node) → (layoutAll first nodes).length = Node.sizes nodes
  | [] => rfl
  | node :: rest => by
    simp only [layoutAll, Node.sizes, List.length_append, length_layout first node,
      length_layoutAll _ rest]

end

theorem offsets_append (first : Nat) (nodes more : List Node) :
    offsets first (nodes ++ more) =
      offsets first nodes ++ offsets (first + Node.sizes nodes) more := by
  induction nodes generalizing first with
  | nil => simp [offsets, Node.sizes]
  | cons node rest ih =>
    simp only [List.cons_append, offsets, Node.sizes, ih, Nat.add_assoc]

theorem layoutAll_append (first : Nat) (nodes more : List Node) :
    layoutAll first (nodes ++ more) =
      layoutAll first nodes ++ layoutAll (first + Node.sizes nodes) more := by
  induction nodes generalizing first with
  | nil => simp [layoutAll, Node.sizes]
  | cons node rest ih =>
    simp only [List.cons_append, layoutAll, Node.sizes, ih, Nat.add_assoc, List.append_assoc]

def headSlot (first : Nat) (node : Node) : Slot :=
  ⟨node.name, node.kind, node.dataType, node.mandatory, node.description,
    (offsets (first + 1) node.children).toArray⟩

theorem layout_eq (first : Nat) (node : Node) :
    layout first node = headSlot first node :: layoutAll (first + 1) node.children := by
  cases node
  simp only [layout, headSlot]

theorem size_eq (node : Node) : node.size = Node.sizes node.children + 1 := by
  cases node
  simp only [Node.size]

/-- The nodes of the last slots of `count`, the last slot's first. -/
def completeFrom (count : Nat) (slots : List Slot) : Array Node :=
  slots.foldr (fun slot later => later.push (slot.complete count later)) #[]

theorem completeAll_eq (slots : Array Slot) :
    completeAll slots = completeFrom slots.size slots.toList := by
  simp only [completeAll, completeFrom, Array.foldr_toList]

theorem completeFrom_cons (count : Nat) (slot : Slot) (rest : List Slot) :
    completeFrom count (slot :: rest) =
      (completeFrom count rest).push (slot.complete count (completeFrom count rest)) := rfl

theorem size_completeFrom (count : Nat) (slots : List Slot) :
    (completeFrom count slots).size = slots.length := by
  induction slots with
  | nil => rfl
  | cons slot rest ih => rw [completeFrom_cons, Array.size_push, ih, List.length_cons]

theorem getElem?_completeFrom_append (count : Nat) (front back : List Slot) {i : Nat}
    (h : i < back.length) :
    (completeFrom count (front ++ back))[i]? = (completeFrom count back)[i]? := by
  induction front with
  | nil => rfl
  | cons slot front ih =>
    have hi : i < (completeFrom count (front ++ back)).size := by
      rw [size_completeFrom, List.length_append]
      omega
    rw [List.cons_append, completeFrom_cons, Array.getElem?_push_lt hi, ← ih,
      Array.getElem?_eq_getElem hi]

theorem bounds_of_mem_offsets {first slot : Nat} {nodes : List Node}
    (h : slot ∈ offsets first nodes) : first ≤ slot ∧ slot < first + Node.sizes nodes := by
  induction nodes generalizing first with
  | nil => cases h
  | cons node rest ih =>
    have hsize := size_eq node
    rw [Node.sizes]
    rcases List.mem_cons.mp h with he | hr
    · omega
    · have hb := ih hr
      omega

mutual

/-- The node of a laid out slot is the node that was laid out. -/
theorem getElem?_completeFrom_layout (first : Nat) (back : List Slot) :
    (node : Node) →
    (completeFrom (first + node.size + back.length) (layout first node ++ back))[
      node.size + back.length - 1]? = some node
  | ⟨name, kind, dataType, mandatory, description, children⟩ => by
    have hread := filterMap_completeFrom_layoutAll (first + 1) back children
    have hsize : (completeFrom (first + 1 + Node.sizes children + back.length)
        (layoutAll (first + 1) children ++ back)).size = Node.sizes children + back.length := by
      rw [size_completeFrom, List.length_append, length_layoutAll]
    have hcount : first + (Node.sizes children + 1) + back.length =
        first + 1 + Node.sizes children + back.length := by omega
    have hlast : Node.sizes children + 1 + back.length - 1 =
        Node.sizes children + back.length := by omega
    rw [layout, Node.size, hcount, hlast, List.cons_append, completeFrom_cons, ← hsize,
      Array.getElem?_push_size, Slot.complete, hread]

theorem filterMap_completeFrom_layoutAll (first : Nat) (back : List Slot) :
    (nodes : List Node) →
    (offsets first nodes).filterMap (fun slot =>
      (completeFrom (first + Node.sizes nodes + back.length) (layoutAll first nodes ++ back))[
        first + Node.sizes nodes + back.length - 1 - slot]?) = nodes
  | [] => rfl
  | node :: rest => by
    have hnode := getElem?_completeFrom_layout first
      (layoutAll (first + node.size) rest ++ back) node
    have hrest := filterMap_completeFrom_layoutAll (first + node.size) back rest
    have hlength : (layoutAll (first + node.size) rest ++ back).length =
        Node.sizes rest + back.length := by rw [List.length_append, length_layoutAll]
    have hcount : first + (node.size + Node.sizes rest) + back.length =
        first + node.size + (Node.sizes rest + back.length) := by omega
    have hfirst : first + node.size + (Node.sizes rest + back.length) - 1 - first =
        node.size + (Node.sizes rest + back.length) - 1 := by omega
    rw [hlength] at hnode
    rw [Nat.add_assoc _ _ back.length] at hrest
    rw [offsets, layoutAll, Node.sizes, hcount, List.append_assoc, List.filterMap_cons, hfirst,
      hnode]
    refine congrArg (node :: ·) (Eq.trans ?_ hrest)
    apply List.filterMap_congr
    intro slot hslot
    have hb := bounds_of_mem_offsets hslot
    apply getElem?_completeFrom_append
    omega

end

theorem modify_append_cons {α : Type} (front : List α) (a : α) (rest : List α) (f : α → α) :
    (front ++ a :: rest).modify front.length f = front ++ f a :: rest := by
  induction front with
  | nil => rfl
  | cons b front ih => simp only [List.cons_append, List.length_cons, List.modify_succ_cons, ih]

namespace Builder

variable {b : Builder} {node : Node}

/-- Lays a node out behind all slots and links it into the innermost open node. -/
def attach (b : Builder) (node : Node) : Builder :=
  let linked := b.link b.slots.size
  { linked with slots := linked.slots ++ (layout b.slots.size node).toArray }

/-- Lays a node out and leaves it open. -/
def opened (b : Builder) (node : Node) : Builder :=
  (b.attach node).push (.ofNode node.kind b.slots.size)

theorem onInnermost_of_some {slot : Nat} (h : b.innermost? = some slot) (f : Slot → Slot) :
    b.onInnermost f = { b with slots := b.slots.modify slot f } := by
  simp only [onInnermost, h]

theorem link_of_some {slot : Nat} (h : b.innermost? = some slot) (child : Nat) :
    b.link child = b.onInnermost fun s => { s with children := s.children.push child } := by
  simp only [link, h]

theorem link_of_none (h : b.innermost? = none) (child : Nat) :
    b.link child = { b with roots := b.roots.push child } := by
  simp only [link, h]

theorem size_slots_link (child : Nat) : (b.link child).slots.size = b.slots.size := by
  cases h : b.innermost? with
  | none => rw [link_of_none h]
  | some slot => rw [link_of_some h, onInnermost_of_some h, Array.size_modify]

theorem innermost?_push (b : Builder) (scope : Scope) :
    (b.push scope).innermost? = scope.slot?.or b.innermost? := by
  simp only [innermost?, push, List.findSome?_cons]
  cases scope.slot? <;> rfl

theorem innermost?_push_of_none (scope : Scope) (h : scope.slot? = none) :
    (b.push scope).innermost? = b.innermost? := by
  rw [innermost?_push, h, Option.none_or]

theorem innermost?_opened (b : Builder) (node : Node) :
    (b.opened node).innermost? = some b.slots.size := by
  simp only [opened, innermost?_push, Scope.slot?, Option.some_or]

theorem onInnermost_push (scope : Scope) (h : scope.slot? = none) (f : Slot → Slot) :
    (b.push scope).onInnermost f = (b.onInnermost f).push scope := by
  simp only [onInnermost, innermost?_push_of_none scope h]
  cases b.innermost? <;> rfl

theorem attach_push (scope : Scope) (h : scope.slot? = none) :
    (b.push scope).attach node = (b.attach node).push scope := by
  simp only [attach, link, innermost?_push_of_none scope h, onInnermost_push scope h]
  cases b.innermost? <;> rfl

theorem onInnermost_opened (f : Slot → Slot) :
    (b.opened node).onInnermost f =
      { b.opened node with
        slots := (b.link b.slots.size).slots ++
          (f (headSlot b.slots.size node) ::
            layoutAll (b.slots.size + 1) node.children).toArray } := by
  rw [onInnermost_of_some (innermost?_opened b node)]
  congr 1
  apply Array.toList_inj.mp
  have hsize : b.slots.size = (b.link b.slots.size).slots.toList.length := by
    rw [Array.length_toList, size_slots_link]
  simp only [opened, push, attach, layout_eq, Array.toList_modify, Array.toList_append]
  conv => enter [1, 2]; rw [hsize]
  exact modify_append_cons _ _ _ f

theorem size_slots_opened (b : Builder) (node : Node) :
    (b.opened node).slots.size = b.slots.size + node.size := by
  simp only [opened, push, attach, Array.size_append, size_slots_link, List.size_toArray,
    length_layout]

theorem attach_opened (b : Builder) (parent node : Node) :
    (b.opened parent).attach node =
      b.opened { parent with children := parent.children ++ [node] } := by
  have hsize : b.slots.size + 1 + Node.sizes parent.children = b.slots.size + parent.size := by
    rw [size_eq]
    omega
  rw [attach, size_slots_opened, link_of_some (innermost?_opened b parent), onInnermost_opened]
  simp only [opened, attach, push, layout_eq, headSlot, offsets_append, layoutAll_append, hsize,
    offsets, layoutAll]
  congr 1
  simp

/-- An edit of a node, and what it does to the slot of that node. -/
structure Edits (f : Node → Node) (g : Slot → Slot) : Prop where
  head : ∀ first node, headSlot first (f node) = g (headSlot first node)
  kind : ∀ node, (f node).kind = node.kind
  children : ∀ node, (f node).children = node.children

theorem opened_edit {f : Node → Node} {g : Slot → Slot} (h : Edits f g) :
    b.opened (f node) = (b.opened node).onInnermost g := by
  rw [onInnermost_opened]
  simp only [opened, attach, push, layout_eq, h.head, h.kind, h.children]

end Builder

end YangCheck.Outline
