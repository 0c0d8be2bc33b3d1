import YangCheck.Proofs.Outline.Simulation

namespace YangCheck.Outline

namespace Nest

theorem name_onModule {f : Module → Module} (hf : ∀ m, (f m).name = m.name) (nest : Nest) :
    (nest.onModule f).module?.map Module.name = nest.module?.map Module.name := by
  rw [onModule, Option.map_map]
  exact Option.map_congr fun m _ => hf m

theorem name_apply {statement : Statement} (h : statement.isModule = false) (nest : Nest) :
    (nest.apply statement).module?.map Module.name = nest.module?.map Module.name := by
  cases statement with
  | openModule name => cases h
  | setNamespace uri =>
    apply name_onModule ?_ nest
    exact fun _ => rfl
  | setPrefix name =>
    apply name_onModule ?_ nest
    exact fun _ => rfl
  | openImport name =>
    apply name_onModule ?_ nest
    exact fun _ => rfl
  | close => exact map_module?_pop (fun _ _ => rfl) nest
  | _ => rfl

/-- The name that a line gives to the module, where it is a module header. -/
def headerName? (raw : String) : Option String :=
  (Statement.significant? raw).bind Statement.module?

theorem name_feed_of_isSome {nest : Nest} (h : nest.module?.isSome = true) (raw : String) :
    (nest.feed raw).module?.map Module.name = nest.module?.map Module.name := by
  rw [feed]
  cases hread : (Statement.significant? raw).bind nest.position.read? with
  | none => rfl
  | some statement =>
    obtain ⟨line, -, hline⟩ := Option.bind_eq_some_iff.mp hread
    have hadmits := (Option.filter_eq_some_iff.mp hline).2
    have hopen : nest.position.moduleOpen = true := h
    rw [Position.moduleOpen_of_admits hadmits, Bool.not_eq_true'] at hopen
    exact name_apply hopen nest

theorem name_feed_of_none {nest : Nest} (h : nest.module? = none) (raw : String) :
    (nest.feed raw).module?.map Module.name = headerName? raw := by
  have hopen : nest.position.moduleOpen = false := by
    rw [position, h]
    rfl
  rw [feed, headerName?]
  cases Statement.significant? raw with
  | none =>
    rw [Option.bind_none, Option.bind_none, h]
    rfl
  | some line =>
    rw [Option.bind_some, Option.bind_some]
    cases hm : Statement.module? line with
    | none =>
      have hskipped := Position.isSome_read?_of_not_moduleOpen hopen line
      rw [Statement.opensModule, hm, Option.isSome_none, Option.isSome_eq_false_iff,
        Option.isNone_iff_eq_none] at hskipped
      rw [hskipped, h]
      rfl
    | some name =>
      have hread : nest.position.read? line = some (.openModule name) :=
        Option.filter_eq_some_iff.mpr ⟨Statement.ofChars?_of_module? hm,
          Position.admits_of_not_moduleOpen hopen _⟩
      rw [hread]
      rfl

/-- Where no module is open yet, the first header names it; later ones change nothing. -/
theorem name_feedAll (nest : Nest) (lines : List String) :
    (nest.feedAll lines).module?.map Module.name =
      (nest.module?.map Module.name).or (lines.findSome? headerName?) := by
  induction lines generalizing nest with
  | nil => exact Option.or_none.symm
  | cons raw rest ih =>
    refine (ih (nest.feed raw)).trans ?_
    rw [List.findSome?_cons]
    cases hm : nest.module? with
    | some m =>
      have hsome : nest.module?.isSome = true := by
        rw [hm]
        rfl
      rw [name_feed_of_isSome hsome, hm]
      rfl
    | none =>
      rw [name_feed_of_none hm]
      cases headerName? raw <;> rfl

end Nest

theorem name_finish_feedAll (lines : List String) :
    (Builder.feedAll {} lines).finish.map Module.name = lines.findSome? Nest.headerName? := by
  rw [finish_feedAll, Nest.finish, Nest.map_module?_popAll fun _ _ => rfl, Nest.name_feedAll]
  rfl

end YangCheck.Outline
