import YangCheck.Proofs.Outline.Depth

namespace YangCheck

namespace Statement

/-- The statement that a raw line makes, whether or not it is admitted. -/
def ofRaw? (raw : String) : Option Statement :=
  (significant? raw).bind ofChars?

def namespaceUri? : Statement → Option String
  | .setNamespace uri => some uri
  | _ => none

def prefixName? : Statement → Option String
  | .setPrefix name => some name
  | _ => none

def importName? : Statement → Option String
  | .openImport name => some name
  | _ => none

/-- Whether a statement is about the module as a whole and not about its tree of nodes. -/
def isAboutModule : Statement → Bool
  | .openModule _ | .setNamespace _ | .setPrefix _ | .openImport _ => true
  | .openNode _ _ | .setType _ | .setMandatory _ | .setDescription _ | .close => false

theorem any_isModule_ofRaw? (raw : String) :
    (ofRaw? raw).any isModule = (significant? raw).any opensModule := by
  rw [ofRaw?]
  cases significant? raw with
  | none => rfl
  | some line =>
    rw [Option.bind_some, Option.any_some]
    cases hsaid : ofChars? line with
    | some statement => exact isModule_of_ofChars? hsaid
    | none =>
      cases hm : module? line with
      | none => rw [Option.any_none, opensModule, hm, Option.isSome_none]
      | some name => cases hsaid.symm.trans (ofChars?_of_module? hm)

theorem filterMap_ofRaw?_filter (lines : List String) :
    (lines.filter fun raw => (ofRaw? raw).any isAboutModule).filterMap ofRaw? =
      (lines.filterMap ofRaw?).filter isAboutModule := by
  rw [List.filterMap_filter, List.filter_filterMap]
  congr 1
  funext raw
  cases ofRaw? raw with
  | none => rfl
  | some statement => rw [Option.any_some, Option.filter_some]

end Statement

namespace Module

/-- What a statement behind the header tells of the module. -/
def note (m : Module) : Statement → Module
  | .setNamespace uri => { m with namespaceUri := some uri }
  | .setPrefix name => { m with prefixName := some name }
  | .openImport name => m.addImport name
  | _ => m

theorem note_of_not_isAboutModule {statement : Statement} (h : statement.isAboutModule = false)
    (m : Module) : m.note statement = m := by
  cases statement with
  | openNode kind name => rfl
  | setType name => rfl
  | setMandatory value => rfl
  | setDescription text => rfl
  | close => rfl
  | _ => cases h

theorem getLast?_cons_or (value : String) (values : List String) (old : Option String) :
    (value :: values).getLast?.or old = values.getLast?.or (some value) := by
  rw [List.getLast?_cons]
  cases values.getLast? <;> rfl

/-- The last namespace and the last prefix stay; every import is added. -/
theorem foldl_note (m : Module) (statements : List Statement) :
    statements.foldl note m =
      { m with
        namespaceUri := (statements.filterMap Statement.namespaceUri?).getLast?.or m.namespaceUri
        prefixName := (statements.filterMap Statement.prefixName?).getLast?.or m.prefixName
        imports := m.imports ++ statements.filterMap Statement.importName? } := by
  induction statements generalizing m with
  | nil => simp
  | cons statement rest ih =>
    rw [List.foldl_cons, ih]
    cases statement with
    | setNamespace uri =>
      have hcons : (Statement.setNamespace uri :: rest).filterMap Statement.namespaceUri? =
          uri :: rest.filterMap Statement.namespaceUri? := rfl
      rw [hcons, getLast?_cons_or]
      rfl
    | setPrefix name =>
      have hcons : (Statement.setPrefix name :: rest).filterMap Statement.prefixName? =
          name :: rest.filterMap Statement.prefixName? := rfl
      rw [hcons, getLast?_cons_or]
      rfl
    | openImport name =>
      have hcons : (Statement.openImport name :: rest).filterMap Statement.importName? =
          name :: rest.filterMap Statement.importName? := rfl
      rw [hcons, List.append_cons]
      rfl
    | _ => rfl

theorem foldl_note_filter (m : Module) (statements : List Statement) :
    (statements.filter Statement.isAboutModule).foldl note m = statements.foldl note m := by
  rw [List.foldl_filter]
  congr 1
  funext m statement
  cases h : statement.isAboutModule with
  | true => rfl
  | false => exact (note_of_not_isAboutModule h m).symm

end Module

namespace Outline.Builder

variable {b : Builder} {m : Module} {raw : String}

theorem module?_apply {statement : Statement} (h : statement.isModule = false) (b : Builder) :
    (b.apply statement).module? = b.module?.map (·.note statement) := by
  have hsame : b.module? = b.module?.map fun m => m := Option.map_id'.symm
  cases statement with
  | openModule name => cases h
  | setNamespace uri => rfl
  | setPrefix name => rfl
  | openImport name => rfl
  | openNode kind name => exact (module?_link b _).trans hsame
  | setType name => exact (module?_onInnermost b _).trans hsame
  | setMandatory value => exact (module?_onInnermost b _).trans hsame
  | setDescription text => exact (module?_onInnermost b _).trans hsame
  | close => exact hsame

/-- Once a module is open the gate turns away only what tells nothing of it. -/
theorem note_of_not_admits {statement : Statement} (hopen : b.module? = some m)
    (h : b.position.admits statement = false) : m.note statement = m := by
  have hmodule : b.position.moduleOpen = true := Option.isSome_of_eq_some hopen
  cases statement with
  | setNamespace uri =>
    rw [Position.admits_of_moduleOpen hmodule rfl] at h
    cases h
  | setPrefix name =>
    rw [Position.admits_of_moduleOpen hmodule rfl] at h
    cases h
  | openImport name =>
    rw [Position.admits_of_moduleOpen hmodule rfl] at h
    cases h
  | _ => rfl

theorem module?_feed (h : b.module? = some m) (raw : String) :
    (b.feed raw).module? = some ((Statement.ofRaw? raw).elim m m.note) := by
  rw [feed, read?, Statement.ofRaw?]
  cases Statement.significant? raw with
  | none => exact h
  | some line =>
    rw [Option.bind_some, Option.bind_some, Position.read?]
    cases Statement.ofChars? line with
    | none => exact h
    | some statement =>
      cases hadmits : b.position.admits statement with
      | false =>
        rw [Option.filter_some, if_neg (by simp [hadmits]), Option.elim_some,
          note_of_not_admits h hadmits]
        exact h
      | true =>
        have hopen : b.position.moduleOpen = true := Option.isSome_of_eq_some h
        have hmodule : statement.isModule = false := by
          rw [Position.moduleOpen_of_admits hadmits, Bool.not_eq_true'] at hopen
          exact hopen
        have hcount : b.count.module? = some m := h
        rw [Option.filter_some, if_pos hadmits]
        dsimp only
        rw [module?_apply hmodule, hcount]
        rfl

theorem module?_feedAll (h : b.module? = some m) (lines : List String) :
    (b.feedAll lines).module? = some ((lines.filterMap Statement.ofRaw?).foldl Module.note m) := by
  induction lines generalizing b m with
  | nil => exact h
  | cons raw rest ih =>
    refine (ih (module?_feed h raw)).trans ?_
    cases hsaid : Statement.ofRaw? raw with
    | none => rw [List.filterMap_cons_none hsaid, Option.elim_none]
    | some statement => rw [List.filterMap_cons_some hsaid, Option.elim_some, List.foldl_cons]

theorem module?_feedAll_of_none (h : b.module? = none) {lines : List String}
    (hlines : ∀ raw ∈ lines, (Statement.ofRaw? raw).any Statement.isModule = false) :
    (b.feedAll lines).module? = none := by
  induction lines generalizing b with
  | nil => exact h
  | cons raw rest ih =>
    refine ih ?_ fun line hline => hlines line (List.mem_cons_of_mem raw hline)
    rw [← Option.isSome_eq_false_iff.trans Option.isNone_iff_eq_none, isSome_module?_feed,
      ← Statement.any_isModule_ofRaw?, hlines raw List.mem_cons_self, h]
    rfl

theorem module?_feed_header {name : String} (h : b.module? = none)
    (hheader : Statement.ofRaw? raw = some (.openModule name)) :
    (b.feed raw).module? = some { name } := by
  have hopen : b.position.moduleOpen = false := Option.isSome_eq_false_iff.mpr (by simp [h])
  obtain ⟨line, hline, hsaid⟩ := Option.bind_eq_some_iff.mp hheader
  have hread : b.read? raw = some (.openModule name) := by
    rw [read?, hline]
    exact Option.filter_eq_some_iff.mpr ⟨hsaid, Position.admits_of_not_moduleOpen hopen _⟩
  rw [feed, hread]
  rfl

theorem exists_finish_header {front : List String} {header name : String}
    (hfront : ∀ raw ∈ front, (Statement.ofRaw? raw).any Statement.isModule = false)
    (hheader : Statement.ofRaw? header = some (.openModule name)) (rest : List String) :
    ∃ nodes, (feedAll {} (front ++ header :: rest)).finish =
      some { (rest.filterMap Statement.ofRaw?).foldl Module.note { name } with nodes } := by
  have hnone : (feedAll {} front).module? = none := module?_feedAll_of_none rfl hfront
  have hopened : ((feedAll {} front).feed header).module? = some { name } :=
    module?_feed_header hnone hheader
  have hmodule := module?_feedAll hopened rest
  have hrun : feedAll {} (front ++ header :: rest) =
      ((feedAll {} front).feed header).feedAll rest := List.foldl_append
  rw [hrun, finish, hmodule]
  exact ⟨_, rfl⟩

end Outline.Builder

/-- A module is named by the first module header. Of the lines behind that header its namespace is
the last one set, its prefix the last one set, and its imports are all import headers in their
order, whatever nodes and imports are open, closed once too often or declared a second time around
them. So these four stay as they are when all other lines behind the header are left out. -/
theorem metadata_of_lines_behind_header {front : List String} {header name : String}
    (hfront : ∀ raw ∈ front, (Statement.ofRaw? raw).any Statement.isModule = false)
    (hheader : Statement.ofRaw? header = some (.openModule name)) (rest : List String) :
    let said := rest.filterMap Statement.ofRaw?
    let kept := rest.filter fun raw => (Statement.ofRaw? raw).any Statement.isAboutModule
    ∃ m, Module.ofLines (front ++ header :: rest) = some m ∧ m.name = name ∧
      m.namespaceUri = (said.filterMap Statement.namespaceUri?).getLast? ∧
      m.prefixName = (said.filterMap Statement.prefixName?).getLast? ∧
      m.imports = said.filterMap Statement.importName? ∧
      ∃ bare, Module.ofLines (front ++ header :: kept) = some bare ∧ bare.name = m.name ∧
        bare.namespaceUri = m.namespaceUri ∧ bare.prefixName = m.prefixName ∧
        bare.imports = m.imports := by
  intro said kept
  obtain ⟨nodes, hfinish⟩ := Outline.Builder.exists_finish_header hfront hheader rest
  obtain ⟨nodes', hkept⟩ := Outline.Builder.exists_finish_header hfront hheader kept
  rw [Statement.filterMap_ofRaw?_filter, Module.foldl_note_filter] at hkept
  have hnote := Module.foldl_note { name } said
  simp only [Option.or_none, List.nil_append] at hnote
  rw [hnote] at hfinish hkept
  exact ⟨_, hfinish, rfl, rfl, rfl, rfl, _, hkept, rfl, rfl, rfl, rfl⟩

/-- Lines that open an import in a leaf, close too much, and open the module a second time. -/
def scatteredLines : List String :=
  ["leaf a \x7b", "import i \x7b", "namespace \"urn:1\";", "\x7d", "\x7d", "\x7d", "\x7d",
    "module n \x7b", "namespace \"urn:2\";", "type t;", "prefix p;", "import j \x7b"]

theorem metadata_of_scatteredLines :
    (Statement.ofRaw? "prefix q;").any Statement.isModule = false ∧
    Statement.ofRaw? "module m \x7b" = some (.openModule "m") ∧
    ∃ m, Module.ofLines (["prefix q;"] ++ "module m \x7b" :: scatteredLines) = some m ∧
      m.name = "m" ∧ m.namespaceUri = some "urn:2" ∧ m.prefixName = some "p" ∧
      m.imports = ["i", "j"] := by
  have hfront : ∀ raw ∈ ["prefix q;"], (Statement.ofRaw? raw).any Statement.isModule = false := by
    decide
  have hheader : Statement.ofRaw? "module m \x7b" = some (.openModule "m") := by decide
  obtain ⟨m, hm, hname, hnamespace, hprefix, himports, -⟩ :=
    metadata_of_lines_behind_header hfront hheader scatteredLines
  exact ⟨hfront _ List.mem_cons_self, hheader, m, hm, hname, hnamespace.trans (by decide),
    hprefix.trans (by decide), himports.trans (by decide)⟩

end YangCheck
