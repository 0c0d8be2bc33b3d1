import YangCheck.Proofs.Outline.Preorder

namespace YangCheck.Outline

mutual

theorem mem_children_layout (first child : Nat) : (node : Node) →
    (child ∈ (layout first node).flatMap (fun slot => slot.children.toList) ↔
      first < child ∧ child < first + node.size)
  | ⟨_, _, _, _, _, children⟩ => by
    have hbelow := mem_children_layoutAll (first + 1) child children
    rw [layout, List.flatMap_cons, hbelow, Node.size]
    omega

theorem mem_children_layoutAll (first child : Nat) : (nodes : List Node) →
    (child ∈ offsets first nodes ++
        (layoutAll first nodes).flatMap (fun slot => slot.children.toList) ↔
      first ≤ child ∧ child < first + Node.sizes nodes)
  | [] => by simp [offsets, layoutAll, Node.sizes]
  | node :: rest => by
    have hnode := mem_children_layout first child node
    have hrest := mem_children_layoutAll (first + node.size) child rest
    have hsize := size_eq node
    rw [List.mem_append] at hrest
    rw [offsets, layoutAll, Node.sizes, List.flatMap_append, List.mem_append, List.mem_cons,
      List.mem_append, or_or_or_comm, hnode, hrest]
    omega

end

mutual

/-- The node at a place of the preorder is laid out from the slot of that place on. -/
theorem layout_prefix_layout (first : Nat) {place : Nat} {found : Node} : (node : Node) →
    node.preorder[place]? = some found →
      layout (first + place) found <+: (layout first node).drop place
  | ⟨name, kind, dataType, mandatory, description, children⟩, h => by
    rw [Node.preorder] at h
    cases place with
    | zero =>
      obtain rfl := Option.some.inj h
      exact List.prefix_rfl
    | succ place =>
      rw [List.getElem?_cons_succ] at h
      have hbelow := layout_prefix_layoutAll (first + 1) children h
      rw [layout, List.drop_succ_cons]
      rwa [Nat.add_assoc, Nat.add_comm 1] at hbelow

theorem layout_prefix_layoutAll (first : Nat) {place : Nat} {found : Node} :
    (nodes : List Node) → (Node.preorderOfAll nodes)[place]? = some found →
      layout (first + place) found <+: (layoutAll first nodes).drop place
  | [], h => by cases h
  | node :: rest, h => by
    have hlength := length_layout first node
    rw [Node.preorderOfAll] at h
    rw [layoutAll]
    by_cases hplace : place < node.size
    · rw [List.getElem?_append_left (by rwa [Node.length_preorder])] at h
      rw [List.drop_append_of_le_length (by omega)]
      exact (layout_prefix_layout first node h).trans (List.prefix_append _ _)
    · rw [List.getElem?_append_right (by rw [Node.length_preorder]; omega),
        Node.length_preorder] at h
      have hrest := layout_prefix_layoutAll (first + node.size) rest h
      have hdrop : (layout first node).drop place = [] := List.drop_eq_nil_of_le (by omega)
      have hsum : first + node.size + (place - node.size) = first + place := by omega
      rw [List.drop_append, hdrop, List.nil_append, hlength]
      rwa [hsum] at hrest

end

theorem eq_of_layout_prefix {first : Nat} {node other : Node} {slots : List Slot}
    (hnode : layout first node <+: slots) (hother : layout first other <+: slots) :
    node = other := by
  have hread : ∀ {node : Node}, layout first node <+: slots →
      (completeFrom (first + slots.length) slots)[slots.length - 1]? = some node := by
    rintro node ⟨back, rfl⟩
    have hlayout := getElem?_completeFrom_layout first back node
    rwa [List.length_append, length_layout, ← Nat.add_assoc]
  exact Option.some.inj ((hread hnode).symm.trans (hread hother))

end YangCheck.Outline
