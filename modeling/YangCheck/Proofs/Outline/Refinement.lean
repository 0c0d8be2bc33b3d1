import YangCheck.Proofs.Outline.Header

namespace YangCheck.Outline

namespace Nest

theorem isSome_module?_feedAll (nest : Nest) (lines : List String) :
    (nest.feedAll lines).module?.isSome =
      (nest.module?.isSome ||
        lines.any fun raw => (Statement.significant? raw).any Statement.opensModule) := by
  have hname := congrArg Option.isSome (name_feedAll nest lines)
  have hheader : ∀ raw, (headerName? raw).isSome =
      (Statement.significant? raw).any Statement.opensModule := by
    intro raw
    rw [headerName?, Option.isSome_bind]
    rfl
  simpa only [Option.isSome_map, Option.isSome_or, List.isSome_findSome?, hheader] using hname

theorem isSome_finish (nest : Nest) : nest.finish.isSome = nest.module?.isSome :=
  isSome_module?_popAll nest

end Nest

/-- A builder gives exactly the module of the nest of owned scopes that reads the same lines, and
none exactly when no line is a module header. -/
theorem finish_feedAll_eq_nest (lines : List String) :
    (Builder.feedAll {} lines).finish = (Nest.feedAll {} lines).finish ∧
      ((Builder.feedAll {} lines).finish = none ↔
        ∀ raw ∈ lines, (Statement.significant? raw).any Statement.opensModule = false) := by
  refine ⟨finish_feedAll lines, ?_⟩
  rw [finish_feedAll, ← Option.not_isSome_iff_eq_none, Nest.isSome_finish,
    Nest.isSome_module?_feedAll]
  simp

end YangCheck.Outline
