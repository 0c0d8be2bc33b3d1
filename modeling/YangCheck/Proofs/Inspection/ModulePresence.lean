import YangCheck.Proofs.Lint.Checker
import YangCheck.Proofs.Outline.Refinement

namespace YangCheck

namespace Lint

theorem exists_missingModule_iff (lines : List String) :
    (∃ d ∈ (checkLines lines).errors, d.kind = .missingModule) ↔ hasHeader lines = false := by
  rw [checkLines, Checker.finish_feedAll_eq, Checker.finalFindings_feedAll]
  constructor
  · rintro ⟨d, hd, hkind⟩
    simp only [List.mem_toArray, List.mem_append, List.mem_ite_nil_left, List.mem_ite_nil_right,
      List.mem_singleton] at hd
    rcases hd with hd | (⟨hnone, rfl⟩ | ⟨-, rfl⟩) | ⟨-, rfl⟩
    · exact absurd hkind (kind_ne_missingModule_of_mem_lineFindings (List.mem_filter.mp hd).1)
    · exact Bool.not_eq_true _ ▸ hnone
    · cases hkind
    · cases hkind
  · intro hnone
    refine ⟨.ofFile .missingModule Kind.missingModule.message, ?_, rfl⟩
    simp [hnone]

end Lint

theorem Module.isSome_ofLines (lines : List String) :
    (Module.ofLines lines).isSome = Lint.hasHeader lines := by
  rw [ofLines, Outline.finish_feedAll, Outline.Nest.isSome_finish,
    Outline.Nest.isSome_module?_feedAll]
  rfl

/-- Two passes that know nothing of each other: one remembers whether it has seen a module header,
the other builds what it admits. -/
theorem Lint.exists_missingModule_iff_ofLines (lines : List String) :
    (∃ d ∈ (checkLines lines).errors, d.kind = .missingModule) ↔ Module.ofLines lines = none := by
  rw [exists_missingModule_iff, ← Module.isSome_ofLines, Option.isSome_eq_false_iff,
    Option.isNone_iff_eq_none]

theorem findSome?_headerName? (lines : List String) :
    lines.findSome? Outline.Nest.headerName? =
      ((lines.filterMap Statement.significant?).find? Statement.opensModule).bind
        Statement.module? := by
  induction lines with
  | nil => rfl
  | cons raw rest ih =>
    rw [List.findSome?_cons, ih, Outline.Nest.headerName?]
    cases hline : Statement.significant? raw with
    | none =>
      rw [List.filterMap_cons_none hline]
      rfl
    | some line =>
      rw [List.filterMap_cons_some hline, List.find?_cons, Option.bind_some, Statement.opensModule]
      cases hm : Statement.module? line with
      | none => rfl
      | some name => exact hm.symm

/-- The checker finds that a module is missing exactly where none is built. One that is built has
the name of the first module header among the lines that are neither blank nor comments, whatever
stands in front of it and behind it. -/
theorem missingModule_iff_ofSource_eq_none (source : String) :
    ((∃ d ∈ (Lint.checkSource source).errors, d.kind = .missingModule) ↔
      Module.ofSource source = none) ∧
    (Module.ofSource source).map Module.name =
      (((Text.lines source).filterMap Statement.significant?).find? Statement.opensModule).bind
        Statement.module? := by
  refine ⟨Lint.exists_missingModule_iff_ofLines (Text.lines source), ?_⟩
  rw [← findSome?_headerName?]
  exact Outline.name_finish_feedAll (Text.lines source)

end YangCheck
