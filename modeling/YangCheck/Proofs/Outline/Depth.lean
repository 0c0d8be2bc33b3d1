import YangCheck.Proofs.Statement.Admission
import YangCheck.Outline.Builder

namespace YangCheck.Outline.Builder

variable (b : Builder)

theorem scopes_onInnermost (f : Slot → Slot) : (b.onInnermost f).scopes = b.scopes := by
  rw [onInnermost]
  split <;> rfl

theorem module?_onInnermost (f : Slot → Slot) : (b.onInnermost f).module? = b.module? := by
  rw [onInnermost]
  split <;> rfl

theorem scopes_link (slot : Nat) : (b.link slot).scopes = b.scopes := by
  rw [link]
  split
  · exact scopes_onInnermost b _
  · rfl

theorem module?_link (slot : Nat) : (b.link slot).module? = b.module? := by
  rw [link]
  split
  · exact module?_onInnermost b _
  · rfl

theorem depth_apply (statement : Statement) :
    (b.apply statement).depth =
      if statement.opens then b.depth + 1 else if statement = .close then b.depth - 1
      else b.depth := by
  cases statement with
  | openNode kind name =>
    simp [apply, depth, push, scopes_link, Statement.opens]
  | close => exact List.length_tail
  | setType name => exact congrArg List.length (scopes_onInnermost b _)
  | setMandatory value => exact congrArg List.length (scopes_onInnermost b _)
  | setDescription text => exact congrArg List.length (scopes_onInnermost b _)
  | _ => rfl

theorem isSome_module?_apply (statement : Statement) :
    (b.apply statement).module?.isSome = (b.module?.isSome || statement.isModule) := by
  have hmap : ∀ f : Module → Module, (b.onModule f).module?.isSome = b.module?.isSome := fun f =>
    Option.isSome_map
  cases statement with
  | openModule name => exact (Bool.or_true _).symm
  | openNode kind name =>
    simp [apply, push, module?_link, Statement.isModule]
  | setType name => simp [apply, module?_onInnermost, Statement.isModule]
  | setMandatory value => simp [apply, module?_onInnermost, Statement.isModule]
  | setDescription text => simp [apply, module?_onInnermost, Statement.isModule]
  | close => exact (Bool.or_false _).symm
  | _ => exact (hmap _).trans (Bool.or_false _).symm

theorem isSome_module?_feed (raw : String) :
    (b.feed raw).module?.isSome =
      (b.module?.isSome || (Statement.significant? raw).any Statement.opensModule) := by
  cases hopen : b.module?.isSome with
  | true =>
    rw [feed]
    cases b.read? raw with
    | none => exact hopen
    | some statement =>
      rw [isSome_module?_apply, Bool.true_or]
      exact Bool.or_eq_true_iff.mpr (.inl hopen)
  | false =>
    have hclosed : b.position.moduleOpen = false := hopen
    rw [Bool.false_or, feed, read?]
    cases Statement.significant? raw with
    | none => exact hopen
    | some line =>
      rw [Option.bind_some, Option.any_some, ← Position.isSome_read?_of_not_moduleOpen hclosed]
      cases hread : b.position.read? line with
      | none => exact hopen
      | some statement =>
        have hadmits := (Option.filter_eq_some_iff.mp hread).2
        rw [Position.admits_of_not_moduleOpen hclosed] at hadmits
        rw [isSome_module?_apply, hadmits, Bool.or_true]
        rfl

end YangCheck.Outline.Builder
