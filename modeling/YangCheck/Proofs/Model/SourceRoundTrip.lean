import YangCheck.Proofs.Model.WellFormed

namespace YangCheck

open Text

namespace Statement

variable {statement : Statement}

theorem head_keyword (statement : Statement) :
    (statement.keyword.toList.head?.any fun c => !isBlank c && c != '/') = true := by
  cases statement with
  | openNode kind name => cases kind <;> simp only [keyword, NodeKind.keyword] <;> decide
  | _ => simp only [keyword]; decide

theorem head_line (statement : Statement) :
    ∃ c rest, statement.line.toList = c :: rest ∧ isBlank c = false ∧ c ≠ '/' := by
  obtain ⟨after, hline⟩ : ∃ after, statement.line.toList = statement.keyword.toList ++ after := by
    by_cases hclose : statement = .close
    · subst statement
      exact ⟨[], rfl⟩
    · exact ⟨_, line_of_ne_close hclose⟩
  have hhead := head_keyword statement
  cases hkeyword : statement.keyword.toList with
  | nil => simp [hkeyword] at hhead
  | cons c rest => exact ⟨c, rest ++ after, by rw [hline, hkeyword]; rfl, by simp_all⟩

theorem last_line (statement : Statement) :
    ∃ front c, statement.line.toList = front ++ [c] ∧ isBlank c = false := by
  rw [line]
  split
  · exact ⟨statement.render.toList ++ [' '], '{', by simp, rfl⟩
  · split
    · subst statement
      exact ⟨[], '}', rfl, rfl⟩
    · exact ⟨statement.render.toList, ';', by simp, rfl⟩

theorem significant?_line (statement : Statement) :
    significant? statement.line = some statement.line.toList := by
  obtain ⟨c, rest, hline, hblank, hslash⟩ := head_line statement
  obtain ⟨front, last, hlast, hlastBlank⟩ := last_line statement
  have htrim : trim statement.line.toList = statement.line.toList := by
    apply trim_of_ends
    · intro d hd
      rw [hline] at hd
      obtain rfl := Option.some.inj hd
      exact hblank
    · intro d hd
      rw [hlast, List.getLast?_concat] at hd
      obtain rfl := Option.some.inj hd
      exact hlastBlank
  rw [significant?, htrim, hline]
  split
  · contradiction
  · simp_all
  · rfl

theorem isLine_line (h : statement.isWellFormed = true) : IsLine statement.line.toList := by
  have hkeyword := isLine_of_isWord (isWord_keyword statement)
  by_cases hclose : statement = .close
  · subst statement
    exact hkeyword
  have happend : ∀ {a b : List Char}, IsLine a → IsLine b → IsLine (a ++ b) := fun ha hb =>
    isLine_append.mpr ⟨ha, hb⟩
  have hmarks : IsLine [' ', '{'] ∧ IsLine [';'] ∧ IsLine ['"', ';'] ∧ IsLine ['"'] ∧
    IsLine [' '] := by simp [IsLine]
  obtain ⟨hbrace, hsemicolon, hquoted, hquote, hspace⟩ := hmarks
  rw [line_of_ne_close hclose]
  apply happend hkeyword
  refine happend hspace ?_
  cases statement with
  | close => exact absurd rfl hclose
  | setNamespace uri => exact happend (happend hquote (isQuotable_iff.mp h).2) hquoted
  | setDescription text => exact happend (happend hquote (isQuotable_iff.mp h).2) hquoted
  | setMandatory value =>
    have hvalue : isWord (toString value) = true := by cases value <;> decide
    exact happend (isLine_of_isWord hvalue) hsemicolon
  | setPrefix name => exact happend (isLine_of_isWord h) hsemicolon
  | setType name => exact happend (isLine_of_isWord h) hsemicolon
  | _ => exact happend (isLine_of_isWord h) hbrace

end Statement

namespace Outline.Nest

variable {nest : Nest}

theorem feed_line {statement : Statement} (hs : statement.isWellFormed = true)
    (ha : nest.position.admits statement = true) :
    nest.feed statement.line = nest.apply statement := by
  have hread := Statement.ofChars?_line (Statement.isSpeakable_of_isWellFormed hs)
  simp only [feed, Statement.significant?_line, Option.bind_some, Position.read?, hread,
    Option.filter_some, ha, if_true]

/-- Takes statements, each from its own line. -/
def say (nest : Nest) (statements : List Statement) : Nest :=
  nest.feedAll (statements.map Statement.line)

theorem say_append (nest : Nest) (front back : List Statement) :
    nest.say (front ++ back) = (nest.say front).say back := by
  rw [say, List.map_append]
  exact List.foldl_append

theorem say_cons {statement : Statement} (hm : nest.module?.isSome)
    (hs : statement.isWellFormed = true) (hmodule : statement.isModule = false)
    (hedit : (!statement.editsNode || holdsNode nest.scopes) = true) (rest : List Statement) :
    nest.say (statement :: rest) = (nest.apply statement).say rest := by
  have ha : nest.position.admits statement = true :=
    (Position.admits_of_moduleOpen hm hmodule).trans hedit
  have hfeed := feed_line hs ha
  rw [← hfeed]
  rfl

theorem say_close (hm : nest.module?.isSome) (rest : List Statement) :
    nest.say (.close :: rest) = nest.pop.say rest :=
  say_cons hm rfl rfl rfl rest

theorem onModule_onModule (nest : Nest) (f g : Module → Module) :
    (nest.onModule f).onModule g = nest.onModule fun m => g (f m) := by
  simp only [onModule, Option.map_map]
  rfl

/-- Nodes that are finished inside an open node become its children. -/
theorem foldl_add_ofNode (nest : Nest) (parent : Node) (nodes : List Node) :
    nodes.foldl add (nest.push (.ofNode parent)) =
      nest.push (.ofNode { parent with children := parent.children ++ nodes }) := by
  induction nodes generalizing parent with
  | nil =>
    cases parent
    simp only [List.append_nil, List.foldl_nil]
  | cons node rest ih =>
    rw [List.foldl_cons, ← List.singleton_append, ← List.append_assoc]
    exact ih { parent with children := parent.children ++ [node] }

theorem foldl_add_top (h : holdsNode nest.scopes = false) (nodes : List Node) :
    nodes.foldl add nest = nest.onModule fun m => { m with nodes := m.nodes ++ nodes } := by
  induction nodes generalizing nest with
  | nil => simp [onModule]
  | cons node rest ih =>
    have hadd : nest.add node = nest.onModule fun m => { m with nodes := m.nodes ++ [node] } := by
      rw [add, if_neg (by rw [h]; exact Bool.false_ne_true)]
    have hscopes : holdsNode (nest.add node).scopes = false := by rwa [hadd]
    rw [List.foldl_cons, ih hscopes, hadd, onModule_onModule]
    simp

theorem say_settings (hm : nest.module?.isSome) {name : String} {kind : NodeKind}
    {dataType : Option String} {mandatory : Option Bool} {description : Option String}
    (htype : dataType.all isWord = true) (hdescription : description.all isQuotable = true) :
    (nest.push (.ofNode { name, kind })).say (dataType.toList.map .setType ++
      mandatory.toList.map .setMandatory ++ description.toList.map .setDescription) =
      nest.push (.ofNode { name, kind, dataType, mandatory, description }) := by
  have hset : ∀ (node : Node) {statement : Statement}, statement.isWellFormed = true →
      statement.editsNode = true →
      (nest.push (.ofNode node)).say [statement] = (nest.push (.ofNode node)).apply statement := by
    intro node statement hs he
    have hmodule : statement.isModule = false := by
      cases statement with
      | openModule name => cases he
      | _ => rfl
    have hopen : (nest.push (.ofNode node)).module?.isSome := hm
    exact say_cons hopen hs hmodule (Bool.or_true _) []
  rw [say_append, say_append]
  have h₁ : (nest.push (.ofNode { name, kind })).say (dataType.toList.map .setType) =
      nest.push (.ofNode { name, kind, dataType }) := by
    cases dataType with
    | none => rfl
    | some type => exact hset _ htype rfl
  have h₂ : (nest.push (.ofNode { name, kind, dataType })).say
      (mandatory.toList.map .setMandatory) =
      nest.push (.ofNode { name, kind, dataType, mandatory }) := by
    cases mandatory with
    | none => rfl
    | some value => exact hset _ rfl rfl
  have h₃ : (nest.push (.ofNode { name, kind, dataType, mandatory })).say
      (description.toList.map .setDescription) =
      nest.push (.ofNode { name, kind, dataType, mandatory, description }) := by
    cases description with
    | none => rfl
    | some text => exact hset _ hdescription rfl
  rw [h₁, h₂, h₃]

mutual

/-- The lines of a node add that node to whatever is open. -/
theorem say_statements (nest : Nest) (hm : nest.module?.isSome) :
    (node : Node) → node.isWellFormed = true → nest.say node.statements = nest.add node
  | ⟨name, kind, dataType, mandatory, description, children⟩, h => by
    simp only [Node.isWellFormed, Bool.and_eq_true_iff] at h
    obtain ⟨⟨⟨hname, htype⟩, hdescription⟩, hchildren⟩ := h
    -- Below the header the node is open with what has been said of it so far.
    have hopen : nest.apply (.openNode kind name) = nest.push (.ofNode { name, kind }) := rfl
    have hheader : (Statement.openNode kind name).isWellFormed = true := hname
    have hinside : ∀ node, (nest.push (.ofNode node)).module?.isSome := fun _ => hm
    rw [Node.statements, say_cons hm hheader rfl rfl, say_append, say_append, hopen,
      say_settings hm htype hdescription,
      say_statementsOfAll _ (hinside _) children hchildren, foldl_add_ofNode,
      say_close (hinside _)]
    rfl

theorem say_statementsOfAll (nest : Nest) (hm : nest.module?.isSome) :
    (nodes : List Node) → Node.areWellFormed nodes = true →
      nest.say (Node.statementsOfAll nodes) = nodes.foldl add nest
  | [], _ => rfl
  | node :: rest, h => by
    obtain ⟨hnode, hrest⟩ := Bool.and_eq_true_iff.mp h
    have hadd := (isSome_module?_add nest node).trans hm
    rw [Node.statementsOfAll, say_append, say_statements nest hm node hnode,
      say_statementsOfAll _ hadd rest hrest]
    rfl

end

theorem say_imports (hm : nest.module?.isSome) {imports : List String}
    (h : imports.all isWord = true) :
    nest.say (imports.flatMap fun name => [.openImport name, .close]) =
      nest.onModule fun m => { m with imports := m.imports ++ imports } := by
  induction imports generalizing nest with
  | nil => simp [onModule, say, feedAll]
  | cons name rest ih =>
    obtain ⟨hname, hrest⟩ := Bool.and_eq_true_iff.mp h
    have hopen : (nest.apply (.openImport name)).module?.isSome :=
      Option.isSome_map.trans hm
    have hheader : (Statement.openImport name).isWellFormed = true := hname
    have hclosed : (nest.apply (.openImport name)).pop.say [] =
      nest.onModule fun m => { m with imports := m.imports ++ [name] } := rfl
    have hadded : ((nest.apply (.openImport name)).pop.say []).module?.isSome :=
      Option.isSome_map.trans hm
    rw [List.flatMap_cons, say_append, say_cons hm hheader rfl rfl, say_close hopen,
      ih hadded hrest, hclosed, onModule_onModule]
    simp

theorem say_module {m : Module} (h : m.isWellFormed = true) :
    Nest.say {} m.statements = { module? := some m } := by
  obtain ⟨name, namespaceUri, prefixName, imports, nodes⟩ := m
  simp only [Module.isWellFormed, Bool.and_eq_true] at h
  obtain ⟨⟨⟨⟨hname, hnamespace⟩, hprefix⟩, himports⟩, hnodes⟩ := h
  let inside (m : Module) : Nest := { module? := some m, scopes := [.ofModule] }
  have hopen : ∀ m, (inside m).module?.isSome := fun _ => rfl
  have h₁ (rest : List Statement) : Nest.say {} (.openModule name :: rest) =
      (inside { name }).say rest := by
    have hs : (Statement.openModule name).isWellFormed = true := hname
    have ha : ({} : Position).admits (.openModule name) = true :=
      Position.admits_of_not_moduleOpen rfl _
    have hfeed : Nest.feed {} (Statement.openModule name).line = inside { name } :=
      feed_line hs ha
    rw [← hfeed]
    rfl
  have h₂ : (inside { name }).say (namespaceUri.toList.map .setNamespace) =
      inside { name, namespaceUri } := by
    cases namespaceUri with
    | none => rfl
    | some uri =>
      have hs : (Statement.setNamespace uri).isWellFormed = true := hnamespace
      exact say_cons (hopen _) hs rfl rfl []
  have h₃ : (inside { name, namespaceUri }).say (prefixName.toList.map .setPrefix) =
      inside { name, namespaceUri, prefixName } := by
    cases prefixName with
    | none => rfl
    | some word =>
      have hs : (Statement.setPrefix word).isWellFormed = true := hprefix
      exact say_cons (hopen _) hs rfl rfl []
  have h₄ : (inside { name, namespaceUri, prefixName }).say
      (imports.flatMap fun name => [.openImport name, .close]) =
      inside { name, namespaceUri, prefixName, imports } := say_imports (hopen _) himports
  have h₅ : (inside { name, namespaceUri, prefixName, imports }).say
      (Node.statementsOfAll nodes) = inside { name, namespaceUri, prefixName, imports, nodes } :=
    (say_statementsOfAll _ (hopen _) nodes hnodes).trans (foldl_add_top rfl nodes)
  rw [Module.statements, h₁, say_append, say_append, say_append, say_append, h₂, h₃, h₄, h₅,
    say_close (hopen _)]
  rfl

end Outline.Nest

theorem Statement.all_toList {α : Type} (make : α → Statement) (value? : Option α) :
    (value?.toList.map make).all isWellFormed = value?.all fun a => (make a).isWellFormed := by
  cases value? with
  | none => rfl
  | some a => simp

namespace Node

mutual

theorem all_statements : (node : Node) →
    node.statements.all Statement.isWellFormed = node.isWellFormed
  | ⟨name, kind, dataType, mandatory, description, children⟩ => by
    rw [statements, isWellFormed, List.all_cons, List.all_append, List.all_append, List.all_append,
      List.all_append, Statement.all_toList, Statement.all_toList, Statement.all_toList,
      all_statementsOfAll children]
    simp [Statement.isWellFormed, Bool.and_assoc]

theorem all_statementsOfAll : (nodes : List Node) →
    (statementsOfAll nodes).all Statement.isWellFormed = areWellFormed nodes
  | [] => rfl
  | node :: rest => by
    rw [statementsOfAll, List.all_append, all_statements node, all_statementsOfAll rest]
    rfl

end

end Node

namespace Module

theorem all_statements (m : Module) :
    m.statements.all Statement.isWellFormed = m.isWellFormed := by
  rw [statements, isWellFormed, List.all_cons, List.all_append, List.all_append, List.all_append,
    List.all_append, Statement.all_toList, Statement.all_toList, List.all_flatMap,
    Node.all_statementsOfAll]
  simp [Statement.isWellFormed, Bool.and_assoc]

theorem lines_source {m : Module} (h : m.isWellFormed = true) :
    lines m.source = m.sourceLines := by
  apply lines_join
  intro line hline
  obtain ⟨statement, hstatement, rfl⟩ := List.mem_map.mp hline
  have hall := List.all_eq_true.mp ((all_statements m).trans h)
  exact Statement.isLine_line (hall statement hstatement)

theorem ofSource_source {m : Module} (h : m.isWellFormed = true) :
    ofSource m.source = some m := by
  rw [ofSource, ofLines, lines_source h, Outline.finish_feedAll]
  have hsay : Outline.Nest.feedAll {} m.sourceLines = { module? := some m } :=
    Outline.Nest.say_module h
  rw [hsay]
  rfl

/-- The modules that texts declare are the well-formed ones, and each is declared by its own text,
so that one more round changes nothing. -/
theorem ofSource_image :
    (∀ text m, ofSource text = some m → m.isWellFormed = true) ∧
      (∀ m : Module, m.isWellFormed = true → ofSource m.source = some m) ∧
      ∀ text m, ofSource text = some m → ofSource m.source = some m := by
  have himage : ∀ text m, ofSource text = some m → m.isWellFormed = true :=
    fun _ _ => isWellFormed_of_ofSource
  exact ⟨himage, fun _ => ofSource_source, fun text m h => ofSource_source (himage text m h)⟩

/-- A module whose words are made of the marks that end statements. -/
def ofMarks : Module where
  name := "\x7b;\x7d"
  namespaceUri := some " // \x7b \x7d ; "
  prefixName := some ";\"//\x7b"
  imports := ["\x7d", "\x7b\x7b", "//"]
  nodes :=
    [{ name := "\x7d;", kind := .container, description := some "\x7d",
       children := [{ name := "\x7b", kind := .leafList, dataType := some ";;",
                      mandatory := some true }] },
     { name := "leaf", kind := .leaf, dataType := some "\"\"" }]

theorem ofSource_source_ofMarks :
    ofMarks.isWellFormed = true ∧ ofSource ofMarks.source = some ofMarks := by
  have h : ofMarks.isWellFormed = true := by decide
  exact ⟨h, ofSource_image.2.1 ofMarks h⟩

end Module

end YangCheck
