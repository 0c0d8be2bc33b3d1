import YangCheck.Outline.Nest
import YangCheck.Proofs.Outline.Layout
import YangCheck.Proofs.Statement.Admission

namespace YangCheck.Outline

namespace Builder

/-- Puts in what does not concern slots and scopes. -/
def stamp (b : Builder) (module? : Option Module) (linesSeen : Nat) : Builder :=
  { b with module?, linesSeen }

section stamp

variable (b : Builder) (module? : Option Module) (n : Nat)

theorem innermost?_stamp : (b.stamp module? n).innermost? = b.innermost? := rfl

theorem onInnermost_stamp (f : Slot → Slot) :
    (b.stamp module? n).onInnermost f = (b.onInnermost f).stamp module? n := by
  simp only [onInnermost, innermost?_stamp]
  cases b.innermost? <;> rfl

theorem link_stamp (child : Nat) :
    (b.stamp module? n).link child = (b.link child).stamp module? n := by
  simp only [link, innermost?_stamp, onInnermost_stamp]
  cases b.innermost? <;> rfl

theorem apply_openNode_stamp (kind : NodeKind) (name : String) :
    (b.stamp module? n).apply (.openNode kind name) =
      (b.opened { name, kind }).stamp module? n := by
  have hslots : (b.stamp module? n).slots = b.slots := rfl
  simp only [apply, link_stamp, hslots, opened, attach, layout, layoutAll, offsets]
  simp only [stamp, push, Array.append_singleton]

end stamp

end Builder

namespace Nest

open Builder (Edits)

variable {done : List Node} {scopes : List OpenScope} {node : Node}

/-- The builder that has laid out finished nodes at the top level, and the scopes behind them. -/
def arrange (done : List Node) : List OpenScope → Builder
  | [] => { slots := (layoutAll 0 done).toArray, roots := (offsets 0 done).toArray }
  | .ofModule :: outer => (arrange done outer).push .ofModule
  | .ofImport :: outer => (arrange done outer).push .ofImport
  | .ofNode node :: outer => (arrange done outer).opened node

/-- The module as the builder holds it, whose nodes are in slots. -/
def outerModule? (nest : Nest) : Option Module :=
  nest.module?.map fun m => { m with nodes := [] }

/-- The nodes that are finished at the top level. -/
def finished (nest : Nest) : List Node :=
  nest.module?.elim [] (·.nodes)

/-- The state of the builder that has read the same lines. -/
def builder (nest : Nest) (linesSeen : Nat) : Builder :=
  (arrange nest.finished nest.scopes).stamp nest.outerModule? linesSeen

theorem isSome_innermost?_arrange (done : List Node) (scopes : List OpenScope) :
    (arrange done scopes).innermost?.isSome = holdsNode scopes := by
  induction scopes with
  | nil => rfl
  | cons scope outer ih =>
    cases scope with
    | ofModule =>
      simpa only [arrange, holdsNode, Builder.innermost?_push_of_none .ofModule rfl] using ih
    | ofImport =>
      simpa only [arrange, holdsNode, Builder.innermost?_push_of_none .ofImport rfl] using ih
    | ofNode node => simp only [arrange, holdsNode, Builder.innermost?_opened, Option.isSome_some]

theorem arrange_edit {f : Node → Node} {g : Slot → Slot} (h : Edits f g) (done : List Node)
    (scopes : List OpenScope) :
    arrange done (edit f scopes) = (arrange done scopes).onInnermost g := by
  induction scopes with
  | nil => rfl
  | cons scope outer ih =>
    cases scope with
    | ofModule => simp only [edit, arrange, ih, Builder.onInnermost_push .ofModule rfl]
    | ofImport => simp only [edit, arrange, ih, Builder.onInnermost_push .ofImport rfl]
    | ofNode node => simp only [edit, arrange, Builder.opened_edit h]

theorem attach_arrange (h : holdsNode scopes = true) :
    (arrange done scopes).attach node =
      arrange done
        (edit (fun parent => { parent with children := parent.children ++ [node] }) scopes) := by
  induction scopes with
  | nil => cases h
  | cons scope outer ih =>
    cases scope with
    | ofModule => simp only [edit, arrange, Builder.attach_push .ofModule rfl, ih h]
    | ofImport => simp only [edit, arrange, Builder.attach_push .ofImport rfl, ih h]
    | ofNode parent => simp only [edit, arrange, Builder.attach_opened]

theorem attach_arrange_top (h : holdsNode scopes = false) :
    (arrange done scopes).attach node = arrange (done ++ [node]) scopes := by
  induction scopes with
  | nil =>
    rw [Builder.attach, Builder.link_of_none rfl]
    simp [arrange, layoutAll_append, offsets_append, layoutAll, offsets, length_layoutAll]
  | cons scope outer ih =>
    cases scope with
    | ofModule => simp only [arrange, Builder.attach_push .ofModule rfl, ih h]
    | ofImport => simp only [arrange, Builder.attach_push .ofImport rfl, ih h]
    | ofNode parent => cases h

variable {nest : Nest} {n : Nat}

theorem position_builder (nest : Nest) (n : Nat) : (nest.builder n).position = nest.position := by
  have hi : (nest.builder n).innermost? = (arrange nest.finished nest.scopes).innermost? := rfl
  simp only [Builder.position, position, hi, isSome_innermost?_arrange]
  congr 1
  exact Option.isSome_map

theorem onModule_builder {f : Module → Module} (hnodes : ∀ m, (f m).nodes = m.nodes)
    (hf : ∀ m, f { m with nodes := [] } = { f m with nodes := [] }) :
    (nest.builder n).onModule f = (nest.onModule f).builder n := by
  cases hm : nest.module? <;>
    simp [builder, Builder.onModule, Builder.stamp, onModule, finished, outerModule?, hm, hnodes,
      hf]

theorem onInnermost_builder {f : Node → Node} {g : Slot → Slot} (h : Edits f g) :
    (nest.builder n).onInnermost g = (nest.onInnermost f).builder n := by
  rw [builder, Builder.onInnermost_stamp, ← arrange_edit h]
  rfl

theorem push_builder (scope : Scope) (openScope : OpenScope)
    (h : ∀ done outer, arrange done (openScope :: outer) = (arrange done outer).push scope) :
    (nest.builder n).push scope = (nest.push openScope).builder n := by
  rw [builder, builder, push, h]
  rfl

theorem attach_builder (nest : Nest) (n : Nat) (hm : nest.module?.isSome) (node : Node) :
    ((arrange nest.finished nest.scopes).attach node).stamp nest.outerModule? n =
      (nest.add node).builder n := by
  cases h : holdsNode nest.scopes with
  | true =>
    rw [attach_arrange h, add, if_pos h]
    rfl
  | false =>
    obtain ⟨m, hm⟩ := Option.isSome_iff_exists.mp hm
    rw [attach_arrange_top h, add, if_neg (Bool.eq_false_iff.mp h)]
    simp only [builder, onModule, finished, outerModule?, hm, Option.elim_some, Option.map_some]

theorem close_builder (hm : nest.module?.isSome) :
    (nest.builder n).apply .close = nest.pop.builder n := by
  obtain ⟨module?, scopes⟩ := nest
  cases scopes with
  | nil => rfl
  | cons scope outer =>
    cases scope with
    | ofModule => rfl
    | ofImport => rfl
    | ofNode node => exact attach_builder ⟨module?, outer⟩ n hm node

/-- An admitted statement takes the builder of a nest to the builder of the next nest. -/
theorem apply_builder {statement : Statement} (h : nest.position.admits statement = true) :
    (nest.builder n).apply statement = (nest.apply statement).builder n := by
  have hm : nest.module?.isSome = !statement.isModule := Position.moduleOpen_of_admits h
  cases statement with
  | openModule name =>
    have hm : nest.module? = none := Option.not_isSome_iff_eq_none.mp (Bool.eq_false_iff.mp hm)
    simp only [builder, apply, push, arrange, finished, outerModule?, hm]
    rfl
  | setNamespace uri => exact onModule_builder (fun _ => rfl) (fun _ => rfl)
  | setPrefix name => exact onModule_builder (fun _ => rfl) (fun _ => rfl)
  | openImport name =>
    have himport : (nest.builder n).onModule (·.addImport name) =
        (nest.onModule fun m => { m with imports := m.imports ++ [name] }).builder n :=
      onModule_builder (fun _ => rfl) (fun _ => rfl)
    rw [Builder.apply, himport]
    exact push_builder .ofImport .ofImport (fun _ _ => rfl)
  | openNode kind name => exact Builder.apply_openNode_stamp _ _ _ kind name
  | setType name => exact onInnermost_builder ⟨fun _ _ => rfl, fun _ => rfl, fun _ => rfl⟩
  | setMandatory value => exact onInnermost_builder ⟨fun _ _ => rfl, fun _ => rfl, fun _ => rfl⟩
  | setDescription text => exact onInnermost_builder ⟨fun _ _ => rfl, fun _ => rfl, fun _ => rfl⟩
  | close => exact close_builder hm

theorem feed_builder (nest : Nest) (n : Nat) (raw : String) :
    (nest.builder n).feed raw = (nest.feed raw).builder (n + 1) := by
  have hcount : (nest.builder n).count = nest.builder (n + 1) := rfl
  rw [Builder.feed, Builder.read?, position_builder, hcount, feed]
  cases hs : (Statement.significant? raw).bind nest.position.read? with
  | none => rfl
  | some statement =>
    obtain ⟨line, hline, hread⟩ := Option.bind_eq_some_iff.mp hs
    exact apply_builder (Option.filter_eq_some_iff.mp hread).2

theorem feedAll_builder (nest : Nest) (n : Nat) (lines : List String) :
    Builder.feedAll (nest.builder n) lines = (nest.feedAll lines).builder (n + lines.length) := by
  induction lines generalizing nest n with
  | nil => rfl
  | cons raw rest ih =>
    rw [Builder.feedAll, List.foldl_cons, feed_builder]
    exact (ih (nest.feed raw) (n + 1)).trans (by
      rw [List.length_cons, Nat.add_comm rest.length, ← Nat.add_assoc]
      rfl)

theorem length_edit (f : Node → Node) (scopes : List OpenScope) :
    (edit f scopes).length = scopes.length := by
  induction scopes with
  | nil => rfl
  | cons scope outer ih => cases scope <;> simp only [edit, List.length_cons, ih]

section Nodes

variable {α : Type} {f : Module → α} (hf : ∀ (m : Module) nodes, f { m with nodes } = f m)

include hf

/-- What nodes have no part in stays the same when a node is added. -/
theorem map_module?_add (nest : Nest) (node : Node) :
    (nest.add node).module?.map f = nest.module?.map f := by
  rw [add]
  split
  · rfl
  · rw [onModule, Option.map_map]
    exact Option.map_congr fun m _ => hf m _

theorem map_module?_pop (nest : Nest) : nest.pop.module?.map f = nest.module?.map f := by
  rw [pop]
  split
  · rfl
  · exact map_module?_add hf _ _
  · rfl

theorem map_module?_popAll (nest : Nest) : nest.popAll.module?.map f = nest.module?.map f := by
  rw [popAll]
  generalize nest.scopes = closed
  induction closed generalizing nest with
  | nil => rfl
  | cons scope rest ih => exact (ih nest.pop).trans (map_module?_pop hf nest)

end Nodes

theorem isSome_module?_add (nest : Nest) (node : Node) :
    (nest.add node).module?.isSome = nest.module?.isSome := by
  have hunit := map_module?_add (f := fun _ => ()) (fun _ _ => rfl) nest node
  simpa only [Option.isSome_map] using congrArg Option.isSome hunit

theorem length_scopes_add (nest : Nest) (node : Node) :
    (nest.add node).scopes.length = nest.scopes.length := by
  rw [add]
  split
  · exact length_edit _ _
  · rfl

theorem isSome_module?_pop (nest : Nest) : nest.pop.module?.isSome = nest.module?.isSome := by
  have hunit := map_module?_pop (f := fun _ => ()) (fun _ _ => rfl) nest
  simpa only [Option.isSome_map] using congrArg Option.isSome hunit

theorem length_scopes_pop (nest : Nest) : nest.pop.scopes.length = nest.scopes.length - 1 := by
  rw [pop]
  split
  · simp only [*, List.length_nil]
  · simp only [*, length_scopes_add, List.length_cons, Nat.add_sub_cancel]
  · simp only [*, List.length_cons, Nat.add_sub_cancel]

theorem isSome_module?_popAll (nest : Nest) :
    nest.popAll.module?.isSome = nest.module?.isSome := by
  have hunit := map_module?_popAll (f := fun _ => ()) (fun _ _ => rfl) nest
  simpa only [Option.isSome_map] using congrArg Option.isSome hunit

/-- Scopes that are still open make no difference to the finished module. -/
theorem finish_builder_closing (n : Nat) (closed : List OpenScope) (nest : Nest)
    (hm : nest.module?.isSome) (hlength : nest.scopes.length = closed.length) :
    ∃ m, closed.foldl (fun nest _ => nest.pop) nest = ⟨some m, []⟩ ∧
      (nest.builder n).finish = ((⟨some m, []⟩ : Nest).builder n).finish := by
  -- The nest pops what is open; the builder drops its scopes, which `finish` does not look at.
  induction closed generalizing nest with
  | nil =>
    obtain ⟨module?, scopes⟩ := nest
    obtain ⟨m, rfl⟩ := Option.isSome_iff_exists.mp hm
    obtain rfl := List.eq_nil_of_length_eq_zero hlength
    exact ⟨m, rfl, rfl⟩
  | cons scope rest ih =>
    have hpop := length_scopes_pop nest
    obtain ⟨m, hfold, hfinish⟩ := ih nest.pop (by rwa [isSome_module?_pop])
      (by rw [hpop, hlength, List.length_cons, Nat.add_sub_cancel])
    refine ⟨m, hfold, ?_⟩
    rw [← hfinish, ← close_builder hm]
    rfl

theorem finish_builder_closed (n : Nat) (m : Module) :
    ((⟨some m, []⟩ : Nest).builder n).finish = some m := by
  have hread := filterMap_completeFrom_layoutAll 0 [] m.nodes
  have hsize : (layoutAll 0 m.nodes).toArray.size = Node.sizes m.nodes := length_layoutAll 0 m.nodes
  simp only [List.append_nil, List.length_nil, Nat.add_zero, Nat.zero_add] at hread
  simp only [Builder.finish, builder, Builder.stamp, arrange, finished, outerModule?,
    Option.map_some, Option.elim_some, completeAll_eq, hsize, hread]

theorem finish_builder (nest : Nest) (n : Nat) : (nest.builder n).finish = nest.finish := by
  cases hm : nest.module? with
  | none =>
    have hp : nest.popAll.module? = none := by
      rw [← Option.not_isSome_iff_eq_none, isSome_module?_popAll, hm]
      exact Bool.false_ne_true
    rw [finish, hp]
    simp only [Builder.finish, builder, Builder.stamp, outerModule?, hm, Option.map_none]
  | some m =>
    obtain ⟨closed, hfold, hfinish⟩ :=
      finish_builder_closing n nest.scopes nest (by rw [hm]; rfl) rfl
    rw [hfinish, finish_builder_closed, finish, popAll, hfold]

end Nest

theorem finish_feedAll (lines : List String) :
    (Builder.feedAll {} lines).finish = (Nest.feedAll {} lines).finish := by
  rw [← Nest.finish_builder _ (0 + lines.length), ← Nest.feedAll_builder]
  rfl

end YangCheck.Outline
