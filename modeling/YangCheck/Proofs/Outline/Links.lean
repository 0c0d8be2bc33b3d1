import YangCheck.Proofs.Outline.Depth
import YangCheck.Proofs.Outline.Layout
import YangCheck.Proofs.Statement.Admission

namespace YangCheck.Outline.Builder

/-- The children of each slot, in the order of slots. -/
def families (b : Builder) : List (List Nat) :=
  b.slots.toList.map fun slot => slot.children.toList

/-- All that is linked, at the top level or into a slot. -/
def links (b : Builder) : List Nat :=
  b.roots.toList ++ b.families.flatten

/-- The slots of the nodes that are open, the innermost first. -/
def openSlots (b : Builder) : List Nat :=
  b.scopes.filterMap Scope.slot?

def IsChild (b : Builder) (parent child : Nat) : Prop :=
  ∃ children, b.families[parent]? = some children ∧ child ∈ children

/-- Each slot is a child of the one behind it in the list, and the last one is a root. -/
def IsPath (b : Builder) : List Nat → Prop
  | [] => True
  | [root] => root ∈ b.roots
  | inner :: outer :: rest => b.IsChild outer inner ∧ b.IsPath (outer :: rest)

structure IsLinked (b : Builder) : Prop where
  /-- Each slot is linked exactly once, and nothing else is. -/
  once : b.links.Perm (List.range b.slots.size)
  behind : ∀ {parent child}, b.IsChild parent child → parent < child
  path : b.IsPath b.openSlots
  /-- The scope of the module can only be the outermost one. -/
  outermost : Scope.ofModule ∉ b.scopes.dropLast
  /-- Nothing is open before the module is. -/
  fresh : b.module? = none → b.scopes = []

variable {b b' : Builder}

theorem innermost?_eq (b : Builder) : b.innermost? = b.openSlots.head? :=
  List.head?_filterMap.symm

theorem openSlots_push (b : Builder) (scope : Scope) :
    (b.push scope).openSlots = scope.slot?.toList ++ b.openSlots := by
  cases scope <;> rfl

theorem length_families (b : Builder) : b.families.length = b.slots.size := by
  rw [families, List.length_map, Array.length_toList]

theorem mem_links_of_isChild {parent child : Nat} (h : b.IsChild parent child) :
    child ∈ b.links := by
  obtain ⟨children, hchildren, hchild⟩ := h
  exact List.mem_append_right _
    (List.mem_flatten.mpr ⟨children, List.mem_of_getElem? hchildren, hchild⟩)

namespace IsPath

theorem tail {slot : Nat} {outer : List Nat} (h : b.IsPath (slot :: outer)) : b.IsPath outer := by
  cases outer with
  | nil => exact trivial
  | cons _ _ => exact h.2

theorem mono (hroots : ∀ root ∈ b.roots, root ∈ b'.roots)
    (hchild : ∀ parent child, b.IsChild parent child → b'.IsChild parent child) {slots : List Nat}
    (h : b.IsPath slots) : b'.IsPath slots := by
  induction slots with
  | nil => exact trivial
  | cons slot outer ih =>
    cases outer with
    | nil => exact hroots slot h
    | cons next rest => exact ⟨hchild _ _ h.1, ih h.2⟩

theorem congr {slots : List Nat} (h : b.IsPath slots) (hroots : b'.roots = b.roots)
    (hfamilies : b'.families = b.families) : b'.IsPath slots := by
  refine h.mono (fun root hroot => hroots ▸ hroot) fun parent child hchild => ?_
  rwa [IsChild, hfamilies]

theorem mem_links {slots : List Nat} (h : b.IsPath slots) : ∀ slot ∈ slots, slot ∈ b.links := by
  induction slots with
  | nil => exact nofun
  | cons slot outer ih =>
    refine List.forall_mem_cons.mpr ⟨?_, ih h.tail⟩
    cases outer with
    | nil => exact List.mem_append_left _ (Array.mem_toList_iff.mpr h)
    | cons next rest => exact mem_links_of_isChild h.1

theorem pairwise (hbehind : ∀ {parent child}, b.IsChild parent child → parent < child)
    {slots : List Nat} (h : b.IsPath slots) : slots.Pairwise (· > ·) := by
  induction slots with
  | nil => exact .nil
  | cons slot outer ih =>
    have houter := ih h.tail
    refine .cons ?_ houter
    cases outer with
    | nil => exact nofun
    | cons next rest =>
      have hnext : next < slot := hbehind h.1
      refine List.forall_mem_cons.mpr ⟨hnext, fun earlier hearlier => ?_⟩
      exact Nat.lt_trans (List.rel_of_pairwise_cons houter hearlier) hnext

end IsPath

theorem map_modify {α β : Type} {f : α → α} {g : α → β} {f' : β → β}
    (h : ∀ a, g (f a) = f' (g a)) (i : Nat) (l : List α) :
    (l.modify i f).map g = (l.map g).modify i f' := by
  refine List.ext_getElem? fun j => ?_
  rw [List.getElem?_map, List.getElem?_modify, List.getElem?_modify, List.getElem?_map]
  cases l[j]? with
  | none => rfl
  | some a =>
    by_cases hij : i = j
    · simp [hij, h]
    · simp [hij]

theorem families_onInnermost {f : Slot → Slot} {g : List Nat → List Nat}
    (h : ∀ slot, (f slot).children.toList = g slot.children.toList) (b : Builder) :
    (b.onInnermost f).families =
      b.innermost?.elim b.families fun slot => b.families.modify slot g := by
  cases hi : b.innermost? with
  | none => simp only [onInnermost, hi, Option.elim_none]
  | some slot =>
    rw [onInnermost_of_some hi, families, Array.toList_modify, map_modify h]
    rfl

theorem families_link (b : Builder) (child : Nat) :
    (b.link child).families =
      b.innermost?.elim b.families fun slot => b.families.modify slot (· ++ [child]) := by
  cases hi : b.innermost? with
  | none => rw [link_of_none hi]; rfl
  | some slot =>
    have hpush : ∀ s : Slot, (s.children.push child).toList = s.children.toList ++ [child] :=
      fun _ => Array.toList_push
    rw [link_of_some hi, families_onInnermost (g := (· ++ [child])) hpush, hi]

theorem families_openNode (b : Builder) (kind : NodeKind) (name : String) :
    (b.apply (.openNode kind name)).families = (b.link b.slots.size).families ++ [[]] := by
  simp [apply, push, families]

theorem roots_onInnermost (f : Slot → Slot) (b : Builder) :
    (b.onInnermost f).roots = b.roots := by
  rw [onInnermost]
  split <;> rfl

theorem roots_openNode (b : Builder) (kind : NodeKind) (name : String) :
    (b.apply (.openNode kind name)).roots =
      if b.innermost? = none then b.roots.push b.slots.size else b.roots := by
  change (b.link b.slots.size).roots = _
  cases hi : b.innermost? with
  | none => rw [link_of_none hi, if_pos rfl]
  | some slot => rw [link_of_some hi, roots_onInnermost, if_neg (Option.some_ne_none _)]

theorem size_slots_openNode (b : Builder) (kind : NodeKind) (name : String) :
    (b.apply (.openNode kind name)).slots.size = b.slots.size + 1 := by
  simp [apply, push, size_slots_link]

theorem openSlots_openNode (b : Builder) (kind : NodeKind) (name : String) :
    (b.apply (.openNode kind name)).openSlots = b.slots.size :: b.openSlots := by
  simp [apply, push, openSlots, scopes_link, Scope.slot?]

/-- A new slot is the only link that its header adds. -/
theorem perm_links_openNode (hinner : ∀ slot, b.innermost? = some slot → slot < b.slots.size)
    (kind : NodeKind) (name : String) :
    (b.apply (.openNode kind name)).links.Perm (b.slots.size :: b.links) := by
  rw [links, links, roots_openNode, families_openNode, families_link]
  cases hi : b.innermost? with
  | none =>
    simp only [if_true, Option.elim_none, Array.toList_push, List.flatten_append,
      List.flatten_singleton, List.append_nil, List.append_assoc, List.singleton_append]
    exact List.perm_middle
  | some slot =>
    have hslot : slot < b.families.length := by
      rw [length_families]
      exact hinner slot hi
    obtain ⟨before, children, after, hfamilies, -, hmodify⟩ :=
      List.exists_of_modify (· ++ [b.slots.size]) hslot
    rw [if_neg (Option.some_ne_none _), Option.elim_some, hmodify, hfamilies]
    have hmiddle := @List.perm_middle _ b.slots.size
      (b.roots.toList ++ before.flatten ++ children) after.flatten
    simpa using hmiddle

theorem isChild_openNode_iff (hinner : ∀ slot, b.innermost? = some slot → slot < b.slots.size)
    {kind : NodeKind} {name : String} {parent child : Nat} :
    (b.apply (.openNode kind name)).IsChild parent child ↔
      b.IsChild parent child ∨ b.innermost? = some parent ∧ child = b.slots.size := by
  have hempty : ∀ families : List (List Nat),
      (∃ children, (families ++ [[]])[parent]? = some children ∧ child ∈ children) ↔
        ∃ children, families[parent]? = some children ∧ child ∈ children := by
    intro families
    rw [List.getElem?_append]
    split
    case isTrue => rfl
    case isFalse hparent =>
      rw [List.getElem?_eq_none (Nat.le_of_not_lt hparent)]
      cases parent - families.length <;> simp
  rw [IsChild, IsChild, families_openNode, hempty, families_link]
  cases hi : b.innermost? with
  | none => simp
  | some slot =>
    have hslot : slot < b.families.length := by
      rw [length_families]
      exact hinner slot hi
    rw [Option.elim_some, List.getElem?_modify]
    by_cases hsame : slot = parent
    · subst hsame
      simp [List.getElem?_eq_getElem hslot]
    · simp [hsame]

namespace IsLinked

theorem lt_of_mem_links (h : b.IsLinked) {slot : Nat} (hslot : slot ∈ b.links) :
    slot < b.slots.size :=
  List.mem_range.mp (h.once.mem_iff.mp hslot)

theorem nodup_links (h : b.IsLinked) : b.links.Nodup :=
  h.once.nodup_iff.mpr List.nodup_range

theorem lt_of_mem_openSlots (h : b.IsLinked) {slot : Nat} (hslot : slot ∈ b.openSlots) :
    slot < b.slots.size :=
  h.lt_of_mem_links (h.path.mem_links slot hslot)

theorem lt_of_innermost? (h : b.IsLinked) {slot : Nat} (hslot : b.innermost? = some slot) :
    slot < b.slots.size := by
  rw [innermost?_eq] at hslot
  exact h.lt_of_mem_openSlots (List.mem_of_mem_head? hslot)

theorem initial : IsLinked {} where
  once := .refl _
  behind := by
    rintro parent child ⟨children, hchildren, -⟩
    cases hchildren
  path := trivial
  outermost := List.not_mem_nil
  fresh := fun _ => rfl

/-- What is not about links, open scopes or an open module is free to change. -/
theorem congr (h : b.IsLinked) (hfamilies : b'.families = b.families)
    (hroots : b'.roots = b.roots) (hscopes : b'.scopes = b.scopes)
    (hmodule : b'.module? = none → b.module? = none) : b'.IsLinked := by
  have hchild : ∀ {parent child}, b'.IsChild parent child → b.IsChild parent child := by
    intro parent child hc
    rwa [IsChild, ← hfamilies]
  have hsize : b'.slots.size = b.slots.size := by
    rw [← length_families, hfamilies, length_families]
  refine ⟨?_, fun hc => h.behind (hchild hc), ?_, ?_, fun hm => ?_⟩
  · rw [links, hroots, hfamilies, hsize]
    exact h.once
  · rw [openSlots, hscopes]
    exact h.path.congr hroots hfamilies
  · rw [hscopes]
    exact h.outermost
  · rw [hscopes]
    exact h.fresh (hmodule hm)

theorem onModule (h : b.IsLinked) (f : Module → Module) : (b.onModule f).IsLinked :=
  h.congr rfl rfl rfl fun hm => Option.map_eq_none_iff.mp hm

theorem onInnermost (h : b.IsLinked) {f : Slot → Slot}
    (hf : ∀ slot, (f slot).children = slot.children) : (b.onInnermost f).IsLinked := by
  refine h.congr ?_ (roots_onInnermost f b) (scopes_onInnermost b f) fun hm => ?_
  · rw [families_onInnermost (g := id) fun slot => congrArg Array.toList (hf slot)]
    cases b.innermost? with
    | none => rfl
    | some slot => exact List.modify_id _ _
  · rwa [module?_onInnermost] at hm

/-- A scope that holds no node can be opened in an open module, and that of the module itself where
nothing is open. -/
theorem push (h : b.IsLinked) {scope : Scope} (hslot : scope.slot? = none)
    (hscope : scope = .ofModule → b.scopes = []) (hmodule : b.module?.isSome = true) :
    (b.push scope).IsLinked := by
  refine ⟨h.once, h.behind, ?_, ?_, fun hm => ?_⟩
  · have hpath : (b.push scope).IsPath b.openSlots :=
      h.path.congr rfl rfl
    rwa [openSlots_push, hslot]
  · cases hscopes : b.scopes with
    | nil => simp [Builder.push, hscopes]
    | cons outer rest =>
      have hne : Scope.ofModule ≠ scope := by
        rintro rfl
        cases (hscope rfl).symm.trans hscopes
      have hlast := h.outermost
      rw [hscopes] at hlast
      rw [Builder.push, hscopes, List.dropLast_cons_of_ne_nil (List.cons_ne_nil _ _)]
      exact fun hmem => (List.mem_cons.mp hmem).elim hne hlast
  · have hnone : b.module? = none := hm
    rw [hnone] at hmodule
    cases hmodule

theorem openNode (h : b.IsLinked) (hmodule : b.module?.isSome = true) (kind : NodeKind)
    (name : String) : (b.apply (.openNode kind name)).IsLinked := by
  have hinner : ∀ slot, b.innermost? = some slot → slot < b.slots.size := fun slot =>
    h.lt_of_innermost?
  refine ⟨?_, fun hc => ?_, ?_, ?_, fun hm => ?_⟩
  · rw [size_slots_openNode, List.range_succ]
    exact (perm_links_openNode hinner kind name).trans
      ((h.once.cons _).trans (List.perm_append_singleton _ _).symm)
  · rcases (isChild_openNode_iff hinner).mp hc with hold | ⟨hparent, rfl⟩
    · exact h.behind hold
    · exact hinner _ hparent
  · have hpath : (b.apply (.openNode kind name)).IsPath b.openSlots := by
      refine h.path.mono (fun root hroot => ?_) fun _ _ hc =>
        (isChild_openNode_iff hinner).mpr (.inl hc)
      rw [roots_openNode]
      split
      · exact Array.mem_push.mpr (.inl hroot)
      · exact hroot
    have hhead := innermost?_eq b
    rw [openSlots_openNode]
    cases hopen : b.openSlots with
    | nil =>
      replace hhead : b.innermost? = none := by rw [hhead, hopen]; rfl
      change b.slots.size ∈ (b.apply (.openNode kind name)).roots
      rw [roots_openNode, if_pos hhead]
      exact Array.mem_push_self
    | cons parent rest =>
      rw [hopen] at hhead hpath
      exact ⟨(isChild_openNode_iff hinner).mpr (.inr ⟨hhead, rfl⟩), hpath⟩
  · change Scope.ofModule ∉ (.ofNode kind b.slots.size :: (b.link b.slots.size).scopes).dropLast
    rw [scopes_link]
    cases hscopes : b.scopes with
    | nil => exact List.not_mem_nil
    | cons outer rest =>
      have hlast := h.outermost
      rw [hscopes] at hlast
      rw [List.dropLast_cons_of_ne_nil (List.cons_ne_nil _ _)]
      exact fun hmem => (List.mem_cons.mp hmem).elim nofun hlast
  · have hnone : (b.link b.slots.size).module? = none := hm
    rw [module?_link] at hnone
    rw [hnone] at hmodule
    cases hmodule

theorem close (h : b.IsLinked) : (b.apply .close).IsLinked := by
  refine ⟨h.once, h.behind, ?_, ?_, fun hm => ?_⟩
  · have hpath : b.IsPath (b.scopes.tail.filterMap Scope.slot?) := by
      have hopen := h.path
      rw [openSlots] at hopen
      cases hscopes : b.scopes with
      | nil => exact trivial
      | cons scope outer =>
        rw [hscopes, List.filterMap_cons] at hopen
        cases hslot : scope.slot? with
        | none => simpa [hslot] using hopen
        | some slot =>
          simp only [hslot] at hopen
          exact hopen.tail
    have hkept : (b.apply .close).IsPath (b.scopes.tail.filterMap Scope.slot?) :=
      hpath.congr rfl rfl
    exact hkept
  · intro hmem
    change Scope.ofModule ∈ b.scopes.tail.dropLast at hmem
    rw [← List.tail_dropLast] at hmem
    exact h.outermost (List.mem_of_mem_tail hmem)
  · have hnil := h.fresh hm
    change b.scopes.tail = []
    rw [hnil]
    rfl

theorem apply (h : b.IsLinked) {statement : Statement}
    (hadmits : b.position.admits statement = true) : (b.apply statement).IsLinked := by
  have hopen : b.module?.isSome = !statement.isModule := Position.moduleOpen_of_admits hadmits
  cases statement with
  | openModule name =>
    have hnone : b.module? = none := Option.not_isSome_iff_eq_none.mp (Bool.eq_false_iff.mp hopen)
    have hnil := h.fresh hnone
    have hset : IsLinked { b with module? := some { name } } := h.congr rfl rfl rfl nofun
    exact hset.push rfl (fun _ => hnil) rfl
  | openImport name =>
    exact (h.onModule _).push rfl nofun (Option.isSome_map.trans hopen)
  | openNode kind name => exact h.openNode hopen kind name
  | setNamespace uri => exact h.onModule _
  | setPrefix name => exact h.onModule _
  | setType name => exact h.onInnermost fun _ => rfl
  | setMandatory value => exact h.onInnermost fun _ => rfl
  | setDescription text => exact h.onInnermost fun _ => rfl
  | close => exact h.close

theorem feed (h : b.IsLinked) (raw : String) : (b.feed raw).IsLinked := by
  have hcount : b.count.IsLinked := h.congr rfl rfl rfl id
  rw [Builder.feed]
  cases hread : b.read? raw with
  | none => exact hcount
  | some statement =>
    obtain ⟨line, -, hline⟩ := Option.bind_eq_some_iff.mp hread
    exact hcount.apply (Option.filter_eq_some_iff.mp hline).2

theorem feedAll (h : b.IsLinked) (lines : List String) : (b.feedAll lines).IsLinked := by
  induction lines generalizing b with
  | nil => exact h
  | cons raw rest ih => exact ih (h.feed raw)

end IsLinked

end YangCheck.Outline.Builder
