import YangCheck.Outline.Assembly
import YangCheck.Proofs.Outline.Links

namespace YangCheck.Outline

variable {cells : Array (Option Node)} {count : Nat} {node? : Nat → Option Node}
  {full : Nat → Prop}

/-- Some of `count` cells are full, each with the node that is meant for it. -/
structure Holds (cells : Array (Option Node)) (count : Nat) (node? : Nat → Option Node)
    (full : Nat → Prop) : Prop where
  size : cells.size = count
  node : ∀ slot, full slot → ∃ node, node? slot = some node ∧ cells[slot]? = some (some node)

/-- All that is asked for is taken from full cells, and the other cells stay as they are. -/
theorem takeAll?_of_holds (h : Holds cells count node? full) {slots : List Nat}
    (hnodup : slots.Nodup) (hfull : ∀ slot ∈ slots, full slot) :
    ∃ left, takeAll? cells slots = some (slots.filterMap node?, left) ∧
      Holds left count node? fun slot => full slot ∧ slot ∉ slots := by
  induction slots generalizing cells full with
  | nil => exact ⟨cells, rfl, h.size, fun slot hslot => h.node slot hslot.1⟩
  | cons slot rest ih =>
    obtain ⟨hslot, hrest⟩ := List.nodup_cons.mp hnodup
    obtain ⟨node, hnode, hcell⟩ := h.node slot (hfull slot List.mem_cons_self)
    have hemptied : Holds (cells.setIfInBounds slot none) count node?
        fun other => full other ∧ other ≠ slot := by
      refine ⟨by rw [Array.size_setIfInBounds, h.size], fun other hother => ?_⟩
      rw [Array.getElem?_setIfInBounds_ne hother.2.symm]
      exact h.node other hother.1
    obtain ⟨left, htake, hleft⟩ := ih hemptied hrest fun other hother =>
      ⟨hfull other (List.mem_cons_of_mem slot hother), fun heq => hslot (heq ▸ hother)⟩
    refine ⟨left, ?_, hleft.size, fun other hother => hleft.node other ⟨⟨hother.1, ?_⟩, ?_⟩⟩
    · simp only [takeAll?, hcell, htake, Option.map_some, List.filterMap_cons, hnode]
    · exact fun heq => hother.2 (heq ▸ List.mem_cons_self)
    · exact fun hmem => hother.2 (List.mem_cons_of_mem slot hmem)

/-- The node of a slot, given the last ones of `count` slots. -/
def nodeOf? (count : Nat) (slots : List Slot) (slot : Nat) : Option Node :=
  (completeFrom count slots)[count - 1 - slot]?

theorem nodeOf?_first {first : Nat} {slot : Slot} {rest : List Slot}
    (hcount : first + (rest.length + 1) = count) :
    nodeOf? count (slot :: rest) first = some (slot.complete count (completeFrom count rest)) := by
  have hindex : count - 1 - first = (completeFrom count rest).size := by
    rw [size_completeFrom]
    omega
  rw [nodeOf?, completeFrom_cons, hindex, Array.getElem?_push_size]

theorem nodeOf?_cons {first : Nat} {slot : Slot} {rest : List Slot}
    (hcount : first + (rest.length + 1) = count) {other : Nat} (hother : first < other)
    (hlt : other < count) : nodeOf? count (slot :: rest) other = nodeOf? count rest other := by
  refine getElem?_completeFrom_append count [slot] rest ?_
  omega

/-- The last slots are filled one by one, and then the cells are full of those that no slot behind
the first has taken. -/
theorem fillAll?_of_behind (slots : List Slot) (first : Nat) (hsize : cells.size = count)
    (hcount : first + slots.length = count)
    (hnodup : (slots.flatMap fun slot => slot.children.toList).Nodup)
    (hbehind : ∀ k slot, slots[k]? = some slot → ∀ child ∈ slot.children.toList,
      first + k < child ∧ child < count) :
    ∃ filled, fillAll? cells first slots = some filled ∧
      Holds filled count (nodeOf? count slots) fun slot =>
        first ≤ slot ∧ slot < count ∧ slot ∉ slots.flatMap fun slot => slot.children.toList := by
  induction slots generalizing first with
  | nil =>
    rw [List.length_nil, Nat.add_zero] at hcount
    refine ⟨cells, rfl, hsize, fun slot hslot => ?_⟩
    omega
  | cons slot rest ih =>
    rw [List.length_cons] at hcount
    rw [List.flatMap_cons] at hnodup
    obtain ⟨hchildren, hrest, hdisjoint⟩ := List.nodup_append.mp hnodup
    obtain ⟨filled, hfill, hfilled⟩ := ih (first + 1) (by omega) hrest
      fun k other hother child hchild => by
        have hlt := hbehind (k + 1) other hother child hchild
        omega
    have hfull : ∀ child ∈ slot.children.toList, first + 1 ≤ child ∧ child < count ∧
        child ∉ rest.flatMap fun slot => slot.children.toList := by
      intro child hchild
      have hlt := hbehind 0 slot rfl child hchild
      exact ⟨by omega, hlt.2, fun hmem => hdisjoint child hchild child hmem rfl⟩
    obtain ⟨left, htake, hleft⟩ := takeAll?_of_holds hfilled hchildren hfull
    have hroom : first < left.size := by
      rw [hleft.size]
      omega
    refine ⟨left.setIfInBounds first (some (slot.complete count (completeFrom count rest))),
      ?_, ?_, fun other hother => ?_⟩
    · rw [fillAll?, hfill]
      simp only [Option.bind_eq_bind, Option.bind_some, fill?, htake, if_pos hroom]
      rfl
    · rw [Array.size_setIfInBounds, hleft.size]
    · obtain ⟨hfirst, hlt, hnot⟩ := hother
      rw [List.flatMap_cons, List.mem_append, not_or] at hnot
      by_cases hsame : first = other
      · subst hsame
        exact ⟨_, nodeOf?_first hcount, by rw [Array.getElem?_setIfInBounds_self_of_lt hroom]⟩
      · have hbehindFirst : first < other := Nat.lt_of_le_of_ne hfirst hsame
        rw [nodeOf?_cons hcount hbehindFirst hlt, Array.getElem?_setIfInBounds_ne hsame]
        exact hleft.node other ⟨⟨hbehindFirst, hlt, hnot.2⟩, hnot.1⟩

theorem Builder.IsLinked.assemble? {b : Builder} (h : b.IsLinked) :
    b.assemble? = some b.finish := by
  rw [Builder.assemble?, finish]
  cases hmodule : b.module? with
  | none => rfl
  | some m =>
    have hfamilies : b.slots.toList.flatMap (fun slot => slot.children.toList) =
        b.families.flatten := List.flatMap_def
    have hlinks := h.nodup_links
    obtain ⟨hroots, hchildren, hdisjoint⟩ := List.nodup_append.mp hlinks
    have hempty : (Array.replicate b.slots.size (none : Option Node)).size = b.slots.size :=
      Array.size_replicate
    obtain ⟨filled, hfill, hfilled⟩ := fillAll?_of_behind b.slots.toList 0 hempty (by simp)
      (hfamilies ▸ hchildren) fun k slot hslot child hchild => by
        have hchild : b.IsChild k child :=
          ⟨_, by rw [families, List.getElem?_map, hslot]; rfl, hchild⟩
        have hlt := h.behind hchild
        have hbound := h.lt_of_mem_links (mem_links_of_isChild hchild)
        omega
    obtain ⟨left, htake, -⟩ := takeAll?_of_holds hfilled hroots fun root hroot =>
      ⟨Nat.zero_le _, h.lt_of_mem_links (List.mem_append_left _ hroot), fun hmem =>
        hdisjoint root hroot root (hfamilies ▸ hmem) rfl⟩
    simp only [hfill, htake, Option.bind_eq_bind, Option.bind_some, Option.map_some, completeAll_eq]
    rfl

end YangCheck.Outline
