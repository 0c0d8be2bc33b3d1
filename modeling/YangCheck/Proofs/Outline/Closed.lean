import Mathlib.Data.List.Nodup
import Mathlib.Logic.Relation
import YangCheck.Proofs.Outline.Segments

namespace YangCheck.Outline

namespace Slot

/-- What a statement does to the slot of the innermost open node, where `fresh` is the next slot. -/
def edit (fresh : Nat) (slot : Slot) : Statement → Slot
  | .openNode _ _ => { slot with children := slot.children.push fresh }
  | .setType name => { slot with dataType := some name }
  | .setMandatory value => { slot with mandatory := some value }
  | .setDescription text => { slot with description := some text }
  | _ => slot

/-- What no edit can change: the name, the kind, and the children that are there already. -/
structure IsEdit (slot edited : Slot) : Prop where
  name : edited.name = slot.name
  kind : edited.kind = slot.kind
  children : slot.children.toList <+: edited.children.toList

theorem isEdit_refl (slot : Slot) : slot.IsEdit slot :=
  ⟨rfl, rfl, List.prefix_rfl⟩

theorem isEdit_edit (fresh : Nat) (slot : Slot) (statement : Statement) :
    slot.IsEdit (slot.edit fresh statement) := by
  cases statement with
  | openNode kind name =>
    refine ⟨rfl, rfl, ?_⟩
    rw [edit, Array.toList_push]
    exact List.prefix_append _ _
  | _ => exact ⟨rfl, rfl, List.prefix_rfl⟩

end Slot

namespace Builder

variable {b : Builder} {slot : Nat} {statement : Statement}

theorem getElem?_slots_onInnermost (b : Builder) (f : Slot → Slot) (slot : Nat) :
    (b.onInnermost f).slots[slot]? =
      if b.innermost? = some slot then b.slots[slot]?.map f else b.slots[slot]? := by
  cases hi : b.innermost? with
  | none => simp [onInnermost, hi]
  | some inner =>
    rw [onInnermost_of_some hi, Array.getElem?_modify]
    simp

theorem size_slots_onInnermost (b : Builder) (f : Slot → Slot) :
    (b.onInnermost f).slots.size = b.slots.size := by
  rw [onInnermost]
  split
  · exact Array.size_modify
  · rfl

theorem openSlots_onInnermost (b : Builder) (f : Slot → Slot) :
    (b.onInnermost f).openSlots = b.openSlots :=
  congrArg (List.filterMap Scope.slot?) (scopes_onInnermost b f)

theorem getElem?_slots_link (b : Builder) (child slot : Nat) :
    (b.link child).slots[slot]? =
      if b.innermost? = some slot then
        b.slots[slot]?.map fun s => { s with children := s.children.push child }
      else b.slots[slot]? := by
  cases hi : b.innermost? with
  | none => simp [link_of_none hi]
  | some inner => rw [link_of_some hi, getElem?_slots_onInnermost, hi]

/-- A statement edits the slot of the innermost open node and no other that is in use. -/
theorem getElem?_slots_apply (h : slot < b.slots.size) (statement : Statement) :
    (b.apply statement).slots[slot]? =
      if b.innermost? = some slot then b.slots[slot]?.map (·.edit b.slots.size statement)
      else b.slots[slot]? := by
  cases statement with
  | openNode kind name =>
    have hslot : slot < (b.link b.slots.size).slots.size := by rwa [size_slots_link]
    refine Eq.trans ?_ (getElem?_slots_link b b.slots.size slot)
    exact Array.getElem?_push_lt hslot |>.trans (Array.getElem?_eq_getElem hslot).symm
  | setType name => exact getElem?_slots_onInnermost b _ slot
  | setMandatory value => exact getElem?_slots_onInnermost b _ slot
  | setDescription text => exact getElem?_slots_onInnermost b _ slot
  | _ =>
    have hsame : (b.slots[slot]?.map fun s : Slot => s) = b.slots[slot]? := Option.map_id'
    exact (ite_eq_right_iff.mpr fun _ => hsame).symm

theorem exists_edit_feed {s : Slot} (h : b.slots[slot]? = some s) (raw : String) :
    ∃ edited, (b.feed raw).slots[slot]? = some edited ∧ s.IsEdit edited ∧
      (b.innermost? ≠ some slot → edited = s) := by
  obtain ⟨hused, -⟩ := Array.getElem?_eq_some_iff.mp h
  rw [feed]
  cases b.read? raw with
  | none => exact ⟨s, h, s.isEdit_refl, fun _ => rfl⟩
  | some statement =>
    have hcount : b.count.slots[slot]? = some s := h
    have hinnermost : b.count.innermost? = b.innermost? := rfl
    dsimp only
    rw [getElem?_slots_apply (b := b.count) hused, hcount, hinnermost]
    split
    case isTrue hinner =>
      exact ⟨_, rfl, s.isEdit_edit _ statement, fun hother => absurd hinner hother⟩
    case isFalse => exact ⟨s, rfl, s.isEdit_refl, fun _ => rfl⟩

theorem size_slots_apply_le (b : Builder) (statement : Statement) :
    b.slots.size ≤ (b.apply statement).slots.size := by
  cases statement with
  | openNode kind name => rw [size_slots_openNode]; exact Nat.le_succ _
  | setType name => exact (size_slots_onInnermost b _).ge
  | setMandatory value => exact (size_slots_onInnermost b _).ge
  | setDescription text => exact (size_slots_onInnermost b _).ge
  | _ => exact Nat.le_refl _

theorem mem_openSlots_apply (h : slot ∈ (b.apply statement).openSlots) :
    slot ∈ b.openSlots ∨ slot = b.slots.size := by
  cases statement with
  | openNode kind name =>
    rw [openSlots_openNode] at h
    exact (List.mem_cons.mp h).symm
  | close => exact .inl (((List.tail_sublist _).filterMap _).mem h)
  | setType name => exact .inl (openSlots_onInnermost b _ ▸ h)
  | setMandatory value => exact .inl (openSlots_onInnermost b _ ▸ h)
  | setDescription text => exact .inl (openSlots_onInnermost b _ ▸ h)
  | _ => exact .inl h

theorem mem_openSlots_of_innermost? (h : b.innermost? = some slot) : slot ∈ b.openSlots := by
  rw [innermost?_eq] at h
  exact List.mem_of_mem_head? h

/-- A slot in use whose node is open no longer. -/
structure IsClosed (b : Builder) (slot : Nat) : Prop where
  used : slot < b.slots.size
  closed : slot ∉ b.openSlots

theorem IsClosed.apply (h : b.IsClosed slot) (statement : Statement) :
    (b.apply statement).IsClosed slot ∧ (b.apply statement).slots[slot]? = b.slots[slot]? := by
  refine ⟨⟨Nat.lt_of_lt_of_le h.used (size_slots_apply_le b statement), fun hopen => ?_⟩, ?_⟩
  · rcases mem_openSlots_apply hopen with hopen | rfl
    · exact h.closed hopen
    · exact Nat.lt_irrefl _ h.used
  · rw [getElem?_slots_apply h.used,
      if_neg fun hinner => h.closed (mem_openSlots_of_innermost? hinner)]

theorem IsClosed.feed (h : b.IsClosed slot) (raw : String) :
    (b.feed raw).IsClosed slot ∧ (b.feed raw).slots[slot]? = b.slots[slot]? := by
  have hcount : b.count.IsClosed slot := ⟨h.used, h.closed⟩
  rw [Builder.feed]
  cases b.read? raw with
  | none => exact ⟨hcount, rfl⟩
  | some statement => exact hcount.apply statement

/-- What is closed stays closed, and its slot is not edited any more. -/
theorem IsClosed.feedAll (h : b.IsClosed slot) (lines : List String) :
    (b.feedAll lines).IsClosed slot ∧ (b.feedAll lines).slots[slot]? = b.slots[slot]? := by
  induction lines generalizing b with
  | nil => exact ⟨h, rfl⟩
  | cons raw rest ih =>
    obtain ⟨hclosed, hslot⟩ := h.feed raw
    obtain ⟨hrest, hkept⟩ := ih hclosed
    exact ⟨hrest, hkept.trans hslot⟩

variable {parent other child : Nat}

theorem IsPath.exists_parent {slots : List Nat} (h : b.IsPath slots) (hchild : child ∈ slots) :
    child ∈ b.roots ∨ ∃ parent ∈ slots, b.IsChild parent child := by
  induction slots with
  | nil => cases hchild
  | cons slot outer ih =>
    rcases List.mem_cons.mp hchild with rfl | houter
    · cases outer with
      | nil => exact .inl h
      | cons next rest =>
        exact .inr ⟨next, List.mem_cons_of_mem _ List.mem_cons_self, h.1⟩
    · exact (ih h.tail houter).imp_right fun ⟨parent, hparent, hlink⟩ =>
        ⟨parent, List.mem_cons_of_mem slot hparent, hlink⟩

namespace IsLinked

theorem not_mem_roots (h : b.IsLinked) (hchild : b.IsChild parent child) : child ∉ b.roots := by
  obtain ⟨children, hchildren, hmem⟩ := hchild
  obtain ⟨-, -, hdisjoint⟩ := List.nodup_append.mp h.nodup_links
  have hflat : child ∈ b.families.flatten :=
    List.mem_flatten.mpr ⟨children, List.mem_of_getElem? hchildren, hmem⟩
  exact fun hroot => hdisjoint child (Array.mem_toList_iff.mpr hroot) child hflat rfl

theorem parent_unique (h : b.IsLinked) (hparent : b.IsChild parent child)
    (hother : b.IsChild other child) : parent = other := by
  obtain ⟨-, hfamilies, -⟩ := List.nodup_append.mp h.nodup_links
  obtain ⟨-, hdisjoint⟩ := List.nodup_flatten.mp hfamilies
  obtain ⟨children, hchildren, hmem⟩ := hparent
  obtain ⟨siblings, hsiblings, hmem'⟩ := hother
  obtain ⟨hlt, rfl⟩ := List.getElem?_eq_some_iff.mp hchildren
  obtain ⟨hlt', rfl⟩ := List.getElem?_eq_some_iff.mp hsiblings
  rcases Nat.lt_trichotomy parent other with hless | hsame | hmore
  · exact absurd hmem' (List.pairwise_iff_getElem.mp hdisjoint parent other hlt hlt' hless hmem)
  · exact hsame
  · exact absurd hmem (List.pairwise_iff_getElem.mp hdisjoint other parent hlt' hlt hmore hmem')

theorem isClosed_of_isChild (h : b.IsLinked) (hparent : b.IsClosed parent)
    (hchild : b.IsChild parent child) : b.IsClosed child := by
  refine ⟨h.lt_of_mem_links (mem_links_of_isChild hchild), fun hopen => ?_⟩
  rcases h.path.exists_parent hopen with hroot | ⟨other, hother, hlink⟩
  · exact h.not_mem_roots hchild hroot
  · obtain rfl := h.parent_unique hchild hlink
    exact hparent.closed hother

theorem lt_of_transGen (h : b.IsLinked) (houter : Relation.TransGen b.IsChild parent child) :
    parent < child := by
  induction houter with
  | single hlink => exact h.behind hlink
  | tail _ hlink ih => exact Nat.lt_trans ih (h.behind hlink)

end IsLinked

variable {node : Node}

theorem slots_feed_of_none {raw : String} (h : (b.feed raw).module? = none) :
    b.module? = none ∧ (b.feed raw).slots = b.slots := by
  rw [feed] at h ⊢
  cases hread : b.read? raw with
  | none =>
    rw [hread] at h
    exact ⟨h, rfl⟩
  | some statement =>
    obtain ⟨line, -, hline⟩ := Option.bind_eq_some_iff.mp hread
    have hopen : b.module?.isSome = !statement.isModule :=
      Position.moduleOpen_of_admits (Option.filter_eq_some_iff.mp hline).2
    have happly := isSome_module?_apply b.count statement
    have hcount : b.count.module?.isSome = !statement.isModule := hopen
    rw [hread] at h
    rw [h, hcount] at happly
    cases hmodule : statement.isModule <;> simp [hmodule] at happly

theorem slots_feedAll_of_none {lines : List String} (h : (b.feedAll lines).module? = none) :
    b.module? = none ∧ (b.feedAll lines).slots = b.slots := by
  induction lines generalizing b with
  | nil => exact ⟨h, rfl⟩
  | cons raw rest ih =>
    obtain ⟨hfed, hrest⟩ := ih h
    obtain ⟨hnone, hslots⟩ := slots_feed_of_none hfed
    exact ⟨hnone, hrest.trans hslots⟩

/-- A state that lines lead to. -/
def IsReachable (b : Builder) : Prop :=
  ∃ lines, Builder.feedAll {} lines = b

namespace IsReachable

theorem feedAll (h : b.IsReachable) (lines : List String) : (b.feedAll lines).IsReachable := by
  obtain ⟨front, rfl⟩ := h
  exact ⟨front ++ lines, List.foldl_append⟩

theorem isLinked (h : b.IsReachable) : b.IsLinked := by
  obtain ⟨lines, rfl⟩ := h
  exact IsLinked.initial.feedAll lines

/-- The node of a slot has the place of its slot in the preorder of the finished module. -/
theorem exists_node (h : b.IsReachable) (hslot : slot < b.slots.size) :
    ∃ m node, b.finish = some m ∧ (Node.preorderOfAll m.nodes)[slot]? = some node ∧
      layout slot node <+: b.slots.toList.drop slot := by
  obtain ⟨lines, rfl⟩ := h
  have hnest : Builder.feedAll {} lines = (Nest.feedAll {} lines).builder (0 + lines.length) :=
    Nest.feedAll_builder {} 0 lines
  -- A slot in use means that a module is open, so that there is a finished module to look into.
  have hopen : (Nest.feedAll {} lines).module?.isSome = true := by
    have hbuilder : (Builder.feedAll {} lines).module?.isSome = true := by
      by_contra hnone
      have hslots := (slots_feedAll_of_none (Option.not_isSome_iff_eq_none.mp hnone)).2
      rw [hslots] at hslot
      exact Nat.not_lt_zero _ hslot
    rw [hnest] at hbuilder
    exact Option.isSome_map.symm.trans hbuilder
  obtain ⟨m, hfinish, hslots⟩ := Nest.exists_finish_layout _ (0 + lines.length) hopen
  rw [← hnest] at hslots
  have hplace : slot < (Node.preorderOfAll m.nodes).length := by
    rw [Node.length_preorderOfAll, ← length_layoutAll 0]
    simpa [hslots] using hslot
  have hlayout := layout_prefix_layoutAll 0 m.nodes (List.getElem?_eq_getElem hplace)
  rw [Nat.zero_add] at hlayout
  refine ⟨m, _, (finish_feedAll lines).trans hfinish, List.getElem?_eq_getElem hplace, ?_⟩
  rwa [hslots]

end IsReachable

namespace IsLinked

theorem isClosed_below (h : b.IsLinked) (hslot : b.IsClosed slot)
    (hlayout : layout slot node <+: b.slots.toList.drop slot) {below : Nat} (hfirst : slot ≤ below)
    (hlast : below < slot + node.size) : b.IsClosed below := by
  -- A slot behind the first is a child of an earlier one among them.
  induction below using Nat.strong_induction_on with
  | _ below ih =>
    rcases Nat.eq_or_lt_of_le hfirst with rfl | hbehind
    · exact hslot
    have hchildren := (mem_children_layout slot below node).mpr ⟨hbehind, hlast⟩
    obtain ⟨s, hs, hchild⟩ := List.mem_flatMap.mp hchildren
    obtain ⟨place, hplace, rfl⟩ := List.mem_iff_getElem.mp hs
    have hget := List.prefix_iff_getElem?.mp hlayout place hplace
    rw [List.getElem?_drop] at hget
    have hlink : b.IsChild (slot + place) below :=
      ⟨_, by rw [families, List.getElem?_map, hget]; rfl, hchild⟩
    have hlt := h.behind hlink
    exact h.isClosed_of_isChild (ih _ hlt (Nat.le_add_right _ _) (hlt.trans hlast)) hlink

theorem layout_prefix_feedAll (h : b.IsLinked) (hslot : b.IsClosed slot)
    (hlayout : layout slot node <+: b.slots.toList.drop slot) (lines : List String) :
    layout slot node <+: (b.feedAll lines).slots.toList.drop slot := by
  refine List.prefix_iff_getElem?.mpr fun place hplace => ?_
  have hlast : slot + place < slot + node.size := by
    rw [length_layout] at hplace
    omega
  have hclosed := h.isClosed_below hslot hlayout (Nat.le_add_right slot place) hlast
  have hget := List.prefix_iff_getElem?.mp hlayout place hplace
  rw [List.getElem?_drop, Array.getElem?_toList] at hget ⊢
  rw [(hclosed.feedAll lines).2, hget]

theorem getElem?_slots_feed_outer (h : b.IsLinked) {inner outer : Nat}
    (hinner : b.innermost? = some inner) (houter : Relation.TransGen b.IsChild outer inner)
    (raw : String) : (b.feed raw).slots[outer]? = b.slots[outer]? := by
  have hless := h.lt_of_transGen houter
  have hused := hless.trans (h.lt_of_innermost? hinner)
  obtain ⟨edited, hedited, -, hsame⟩ := exists_edit_feed (Array.getElem?_eq_getElem hused) raw
  have hother : b.innermost? ≠ some outer := by
    rw [hinner]
    exact fun heq => hless.ne (Option.some.inj heq).symm
  rw [hedited, hsame hother, Array.getElem?_eq_getElem hused]

theorem isClosed_feed_close (h : b.IsLinked) {kind : NodeKind} {outer : List Scope} {raw : String}
    (hscopes : b.scopes = .ofNode kind slot :: outer)
    (hraw : Statement.significant? raw = some ['}']) :
    (b.feed raw).slots = b.slots ∧ (b.feed raw).IsClosed slot := by
  have hmodule : b.position.moduleOpen = true := by
    refine Option.isSome_iff_ne_none.mpr fun hnone => ?_
    cases hscopes.symm.trans (h.fresh hnone)
  have hread : b.read? raw = some .close := by
    have hline : Statement.ofChars? ['}'] = some .close := by decide
    rw [Builder.read?, hraw, Option.bind_some, Position.read?, hline]
    exact Option.filter_eq_some_iff.mpr ⟨rfl, Position.admits_of_moduleOpen hmodule rfl⟩
  have hopen : b.openSlots = slot :: outer.filterMap Scope.slot? := by rw [openSlots, hscopes]; rfl
  -- The scopes further out hold earlier slots, so that the slot is not open a second time.
  have hearlier := h.path.pairwise h.behind
  rw [hopen] at hearlier
  have hfeed : b.feed raw = b.count.apply .close := by rw [Builder.feed, hread]
  rw [hfeed]
  refine ⟨rfl, h.lt_of_mem_openSlots (hopen ▸ List.mem_cons_self), fun hmem => ?_⟩
  have hmem : slot ∈ b.scopes.tail.filterMap Scope.slot? := hmem
  rw [hscopes] at hmem
  exact Nat.lt_irrefl _ (List.rel_of_pairwise_cons hearlier hmem)

end IsLinked

/-- A closed node stands in every finished module, with all below it, as its slots say. -/
theorem IsReachable.exists_final (h : b.IsReachable) (hslot : b.IsClosed slot) :
    ∃ node, layout slot node <+: b.slots.toList.drop slot ∧
      ∀ lines, ∃ m, (b.feedAll lines).finish = some m ∧
        (Node.preorderOfAll m.nodes)[slot]? = some node := by
  obtain ⟨-, node, -, -, hlayout⟩ := h.exists_node hslot.used
  refine ⟨node, hlayout, fun lines => ?_⟩
  obtain ⟨hclosed, -⟩ := hslot.feedAll lines
  obtain ⟨m, found, hfinish, hplace, hfound⟩ := (h.feedAll lines).exists_node hclosed.used
  have hkept := h.isLinked.layout_prefix_feedAll hslot hlayout lines
  obtain rfl := eq_of_layout_prefix hfound hkept
  exact ⟨m, hfinish, hplace⟩

theorem feed_of_rejected {raw : String}
    (h : ∀ statement, (Statement.significant? raw).bind Statement.ofChars? = some statement →
      (b.position.rejection? statement).isSome = true) : b.feed raw = b.count := by
  have hread : b.read? raw = none := by
    cases hread : b.read? raw with
    | none => rfl
    | some statement =>
      obtain ⟨line, hline, hfilter⟩ := Option.bind_eq_some_iff.mp hread
      obtain ⟨hsaid, hadmits⟩ := Option.filter_eq_some_iff.mp hfilter
      have hrejected := h statement (by rw [hline]; exact hsaid)
      rw [Position.admits, Option.isNone_iff_eq_none] at hadmits
      rw [hadmits] at hrejected
      cases hrejected
  rw [feed, hread]

/-- In every state that lines lead to, a line edits at most the slot of the innermost open node,
none of those around it, and never a name or a kind; a line that says nothing, or whose statement
is rejected, is only counted. The brace that ends a node leaves all slots as they are. From there
on, whatever lines follow, the node stands in the finished module with all below it as its slots
say, at the place of its slot. -/
theorem closed_nodes_are_final (h : b.IsReachable) :
    (∀ (raw : String) (slot : Nat) (s : Slot), b.slots[slot]? = some s →
      ∃ edited, (b.feed raw).slots[slot]? = some edited ∧ s.IsEdit edited ∧
        (b.innermost? ≠ some slot → edited = s)) ∧
    (∀ (raw : String) (inner outer : Nat), b.innermost? = some inner →
      Relation.TransGen b.IsChild outer inner → (b.feed raw).slots[outer]? = b.slots[outer]?) ∧
    (∀ (raw : String) (kind : NodeKind) (slot : Nat) (outer : List Scope),
      b.scopes = .ofNode kind slot :: outer → Statement.significant? raw = some ['}'] →
        (b.feed raw).slots = b.slots ∧ (b.feed raw).IsClosed slot) ∧
    (∀ slot, b.IsClosed slot → ∃ node, layout slot node <+: b.slots.toList.drop slot ∧
      ∀ lines, ∃ m, (b.feedAll lines).finish = some m ∧
        (Node.preorderOfAll m.nodes)[slot]? = some node) ∧
    (∀ raw : String,
      (∀ statement, (Statement.significant? raw).bind Statement.ofChars? = some statement →
        (b.position.rejection? statement).isSome = true) →
      b.feed raw = { b with linesSeen := b.linesSeen + 1 }) := by
  have hlinked := h.isLinked
  refine ⟨?_, ?_, ?_, ?_, ?_⟩
  · exact fun raw slot s hs => exists_edit_feed hs raw
  · exact fun raw inner outer hinner houter => hlinked.getElem?_slots_feed_outer hinner houter raw
  · exact fun raw kind slot outer => hlinked.isClosed_feed_close
  · exact fun slot hslot => h.exists_final hslot
  · exact fun raw => feed_of_rejected

/-- A leaf that is closed, and an import that is open in the list around it. -/
def besideImport : List String :=
  ["module m \x7b", "container c \x7b", "list l \x7b", "leaf a \x7b", "type t;", "\x7d",
    "import i \x7b"]

theorem closed_nodes_are_final_besideImport :
    (feedAll {} besideImport).IsReachable ∧ (feedAll {} besideImport).innermost? = some 1 ∧
    (feedAll {} besideImport).IsClosed 2 ∧
    (∀ raw : String, ((feedAll {} besideImport).feed raw).slots[0]? =
      (feedAll {} besideImport).slots[0]?) ∧
    ∃ leaf : Node, leaf.name = "a" ∧ leaf.dataType = some "t" ∧ ∀ lines, ∃ m,
      (feedAll {} (besideImport ++ lines)).finish = some m ∧
        (Node.preorderOfAll m.nodes)[2]? = some leaf := by
  have hreachable : (feedAll {} besideImport).IsReachable := ⟨besideImport, rfl⟩
  have hinner : (feedAll {} besideImport).innermost? = some 1 := by decide
  have hclosed : (feedAll {} besideImport).IsClosed 2 := ⟨by decide, by decide⟩
  have hlink : (feedAll {} besideImport).IsChild 0 1 := ⟨[1], by decide, List.mem_cons_self⟩
  have hslots : (feedAll {} besideImport).slots.toList.drop 2 =
      [{ name := "a", kind := .leaf, dataType := some "t" }] := by decide
  obtain ⟨-, houter, -, hfinal, -⟩ := closed_nodes_are_final hreachable
  obtain ⟨leaf, hlayout, hfinal⟩ := hfinal 2 hclosed
  rw [hslots, layout_eq, List.cons_prefix_cons] at hlayout
  obtain ⟨hslot, -⟩ := hlayout
  refine ⟨hreachable, hinner, hclosed, fun raw => houter raw 1 0 hinner (.single hlink), leaf,
    congrArg Slot.name hslot, congrArg Slot.dataType hslot, fun lines => ?_⟩
  have happend : feedAll {} (besideImport ++ lines) = (feedAll {} besideImport).feedAll lines :=
    List.foldl_append
  rw [happend]
  exact hfinal lines

end Builder

end YangCheck.Outline
