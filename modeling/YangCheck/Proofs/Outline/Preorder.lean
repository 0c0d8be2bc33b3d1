import YangCheck.Proofs.Model.Words
import YangCheck.Proofs.Outline.Assembly
import YangCheck.Proofs.Outline.Simulation

namespace YangCheck

/-- The kind and the name that a node header declares. -/
def Statement.declared? : Statement → Option (NodeKind × String)
  | .openNode kind name => some (kind, name)
  | _ => none

namespace Node

def declared (node : Node) : NodeKind × String :=
  (node.kind, node.name)

mutual

theorem length_preorder : (node : Node) → (preorder node).length = node.size
  | ⟨_, _, _, _, _, children⟩ => by
    rw [preorder, size, List.length_cons, length_preorderOfAll children]

theorem length_preorderOfAll : (nodes : List Node) → (preorderOfAll nodes).length = sizes nodes
  | [] => rfl
  | node :: rest => by
    rw [preorderOfAll, sizes, List.length_append, length_preorder node, length_preorderOfAll rest]

end

end Node

namespace Outline

def Slot.declared (slot : Slot) : NodeKind × String :=
  (slot.kind, slot.name)

mutual

theorem map_declared_layout (first : Nat) :
    (node : Node) → (layout first node).map Slot.declared = node.preorder.map Node.declared
  | ⟨_, _, _, _, _, children⟩ => by
    rw [layout, Node.preorder, List.map_cons, List.map_cons,
      map_declared_layoutAll (first + 1) children]
    rfl

theorem map_declared_layoutAll (first : Nat) : (nodes : List Node) →
    (layoutAll first nodes).map Slot.declared = (Node.preorderOfAll nodes).map Node.declared
  | [] => rfl
  | node :: rest => by
    rw [layoutAll, Node.preorderOfAll, List.map_append, List.map_append,
      map_declared_layout first node, map_declared_layoutAll _ rest]

end

/-- The kinds and the names of all nodes of a module, in preorder. -/
def declarations (m : Module) : List (NodeKind × String) :=
  (Node.preorderOfAll m.nodes).map Node.declared

theorem length_declarations (m : Module) : (declarations m).length = m.nodeCount := by
  rw [declarations, List.length_map, Node.length_preorderOfAll]
  rfl

namespace Builder

/-- The statements that a builder acts on, line after line. -/
def admitted (b : Builder) : List String → List Statement
  | [] => []
  | raw :: rest => (b.read? raw).toList ++ (b.feed raw).admitted rest

/-- The kinds and the names of all nodes, in the order of slots. -/
def declared (b : Builder) : List (NodeKind × String) :=
  b.slots.toList.map Slot.declared

theorem declared_onInnermost {f : Slot → Slot} (h : ∀ slot, (f slot).declared = slot.declared)
    (b : Builder) : (b.onInnermost f).declared = b.declared := by
  cases hi : b.innermost? with
  | none => simp only [onInnermost, hi]
  | some slot =>
    have hsame : ∀ slot, (f slot).declared = id slot.declared := h
    rw [onInnermost_of_some hi, declared, Array.toList_modify, map_modify hsame]
    exact List.modify_id _ _

theorem declared_link (b : Builder) (child : Nat) : (b.link child).declared = b.declared := by
  rw [link]
  split
  · apply declared_onInnermost
    exact fun _ => rfl
  · rfl

/-- A node header adds its node behind all others, and no other statement declares one. -/
theorem declared_apply (b : Builder) (statement : Statement) :
    (b.apply statement).declared = b.declared ++ statement.declared?.toList := by
  cases statement with
  | openNode kind name =>
    have hlink := declared_link b b.slots.size
    simp only [declared] at hlink
    simp [apply, push, declared, hlink, Slot.declared, Statement.declared?]
  | setType name =>
    refine Eq.trans ?_ (List.append_nil _).symm
    apply declared_onInnermost
    exact fun _ => rfl
  | setMandatory value =>
    refine Eq.trans ?_ (List.append_nil _).symm
    apply declared_onInnermost
    exact fun _ => rfl
  | setDescription text =>
    refine Eq.trans ?_ (List.append_nil _).symm
    apply declared_onInnermost
    exact fun _ => rfl
  | _ => exact (List.append_nil _).symm

theorem declared_feed (b : Builder) (raw : String) :
    (b.feed raw).declared = b.declared ++ (b.read? raw).toList.filterMap Statement.declared? := by
  rw [feed]
  cases b.read? raw with
  | none => exact (List.append_nil _).symm
  | some statement =>
    have hcount : b.count.declared = b.declared := rfl
    rw [declared_apply, hcount, Option.toList_some, List.filterMap_cons]
    cases statement.declared? <;> rfl

theorem declared_feedAll (b : Builder) (lines : List String) :
    (b.feedAll lines).declared =
      b.declared ++ (b.admitted lines).filterMap Statement.declared? := by
  induction lines generalizing b with
  | nil => exact (List.append_nil _).symm
  | cons raw rest ih =>
    rw [admitted, List.filterMap_append, ← List.append_assoc, ← declared_feed]
    exact ih (b.feed raw)

end Builder

namespace Nest

theorem slots_closing (n : Nat) (closed : List OpenScope) (nest : Nest)
    (hm : nest.module?.isSome) :
    ((closed.foldl (fun nest _ => nest.pop) nest).builder n).slots = (nest.builder n).slots := by
  induction closed generalizing nest with
  | nil => rfl
  | cons scope rest ih =>
    refine (ih nest.pop (by rwa [isSome_module?_pop])).trans ?_
    rw [← close_builder hm]
    rfl

theorem exists_finish_layout (nest : Nest) (n : Nat) (hm : nest.module?.isSome) :
    ∃ m, nest.finish = some m ∧ (nest.builder n).slots = (layoutAll 0 m.nodes).toArray := by
  obtain ⟨m, hclosed, -⟩ := finish_builder_closing n nest.scopes nest hm rfl
  have hslots := slots_closing n nest.scopes nest hm
  rw [hclosed] at hslots
  refine ⟨m, ?_, hslots.symm⟩
  rw [finish, popAll, hclosed]

theorem declared_builder (nest : Nest) (n : Nat) (hm : nest.module?.isSome) :
    nest.finish.map declarations = some (nest.builder n).declared := by
  obtain ⟨m, hfinish, hslots⟩ := exists_finish_layout nest n hm
  rw [hfinish, Builder.declared, hslots]
  exact congrArg some (map_declared_layoutAll 0 m.nodes).symm

end Nest

/-- The kinds and the names that the admitted node headers among lines declare. -/
def headers (lines : List String) : List (NodeKind × String) :=
  (Builder.admitted {} lines).filterMap Statement.declared?

theorem declared_feedAll_initial (lines : List String) :
    (Builder.feedAll {} lines).declared = headers lines :=
  Builder.declared_feedAll {} lines

theorem declarations_finish_feedAll (lines : List String) :
    (Builder.feedAll {} lines).finish.map declarations =
      (Builder.feedAll {} lines).module?.map fun _ => headers lines := by
  have hnest : Builder.feedAll {} lines = (Nest.feedAll {} lines).builder (0 + lines.length) :=
    Nest.feedAll_builder {} 0 lines
  cases hm : (Builder.feedAll {} lines).module? with
  | none => rw [Builder.finish, hm]; rfl
  | some m =>
    have hopen : (Nest.feedAll {} lines).module?.isSome = true := by
      have houter : (Nest.feedAll {} lines).outerModule? = some m := by
        rw [← hm, hnest]
        rfl
      exact Option.isSome_map.symm.trans (congrArg Option.isSome houter)
    have hdeclared := Nest.declared_builder _ (0 + lines.length) hopen
    rw [← hnest, declared_feedAll_initial] at hdeclared
    rw [hnest, Nest.finish_builder, hdeclared, Option.map_some]

/-- In every state that lines lead to, each slot is linked once and lies behind its parent's, the
open nodes lead from a root to the innermost one, and all slots that are named exist. So the module
is put together without fail, and its nodes in preorder are the admitted headers line by line. -/
theorem feedAll_links_each_slot_once (lines : List String) :
    (Builder.feedAll {} lines).IsLinked ∧
      (∀ slot ∈ (Builder.feedAll {} lines).links ++ (Builder.feedAll {} lines).openSlots,
        slot < (Builder.feedAll {} lines).slots.size) ∧
      (Builder.feedAll {} lines).openSlots.Pairwise (· > ·) ∧
      (∀ slot, (Builder.feedAll {} lines).innermost? = some slot →
        slot < (Builder.feedAll {} lines).slots.size) ∧
      (Builder.feedAll {} lines).assemble? = some (Builder.feedAll {} lines).finish ∧
      (Builder.feedAll {} lines).finish.map (·.nodeCount) =
        (Builder.feedAll {} lines).module?.map (fun _ => (headers lines).length) ∧
      (Builder.feedAll {} lines).finish.map declarations =
        (Builder.feedAll {} lines).module?.map fun _ => headers lines := by
  have hlinked : (Builder.feedAll {} lines).IsLinked := Builder.IsLinked.initial.feedAll lines
  have hpreorder := declarations_finish_feedAll lines
  refine ⟨hlinked, fun slot hslot => ?_, hlinked.path.pairwise hlinked.behind,
    fun slot => hlinked.lt_of_innermost?, hlinked.assemble?, ?_, hpreorder⟩
  · rcases List.mem_append.mp hslot with hlink | hopen
    · exact hlinked.lt_of_mem_links hlink
    · exact hlinked.lt_of_mem_openSlots hopen
  · have hlength := congrArg (Option.map List.length) hpreorder
    rw [Option.map_map, Option.map_map] at hlength
    simpa only [Function.comp_def, length_declarations] using hlength

end Outline

end YangCheck
