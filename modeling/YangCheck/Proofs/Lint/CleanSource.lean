import Mathlib.Algebra.BigOperators.Group.List.Basic
import Mathlib.Algebra.Ring.Int.Defs
import YangCheck.Proofs.Lint.StatementLine

namespace YangCheck

open Text

/-- How many more scopes are open behind the line that says a statement. -/
def Statement.weight (statement : Statement) : Int :=
  if statement.opens then 1 else if statement = .close then -1 else 0

def Statement.totalWeight (statements : List Statement) : Int :=
  (statements.map weight).sum

namespace Statement

variable {statements : List Statement}

theorem totalWeight_append (front back : List Statement) :
    totalWeight (front ++ back) = totalWeight front + totalWeight back := by
  rw [totalWeight, List.map_append, List.sum_append]
  rfl

theorem totalWeight_cons (statement : Statement) (rest : List Statement) :
    totalWeight (statement :: rest) = statement.weight + totalWeight rest := by
  rw [totalWeight, List.map_cons, List.sum_cons]
  rfl

theorem totalWeight_toList {α : Type} {make : α → Statement} (h : ∀ a, (make a).weight = 0)
    (value? : Option α) : totalWeight (value?.toList.map make) = 0 := by
  cases value? with
  | none => rfl
  | some a => exact (Int.add_zero _).trans (h a)

theorem braceSurplus_lines (h : ∀ statement ∈ statements, statement.IsPlain) :
    Lint.braceSurplus (statements.map line) = totalWeight statements := by
  induction statements with
  | nil => rfl
  | cons statement rest ih =>
    obtain ⟨hopen, hclose⟩ := count_braces_line (h statement List.mem_cons_self)
    have hweight : ((statement.line.toList.count '{' : Nat) : Int) -
        statement.line.toList.count '}' = statement.weight := by
      rw [hopen, hclose, weight]
      cases statement <;> rfl
    rw [List.map_cons, Lint.braceSurplus_cons, if_pos (isSignificant_line statement), hweight,
      ih fun s hs => h s (List.mem_cons_of_mem statement hs), totalWeight_cons]

theorem quoteCount_lines (h : ∀ statement ∈ statements, statement.IsPlain) :
    Lint.quoteCount (statements.map line) % 2 = 0 := by
  induction statements with
  | nil => rfl
  | cons statement rest ih =>
    have heven := bareQuotes_line (h statement List.mem_cons_self)
    have hrest := ih fun s hs => h s (List.mem_cons_of_mem statement hs)
    rw [List.map_cons, Lint.quoteCount_cons, if_pos (isSignificant_line statement)]
    omega

/-- What is found on the lines of statements is found on the line of one of them. -/
theorem exists_of_isOn {hit : Lint.Hit} (h : hit.IsOn (statements.map line)) :
    ∃ statement ∈ statements, hit.kind ∈ Lint.findings statement.line.toList := by
  obtain ⟨before, raw, -, hraw, -, hrule⟩ := h
  obtain ⟨statement, hs, rfl⟩ := List.mem_map.mp (List.mem_of_getElem? hraw)
  rw [trim_of_significant? (significant?_line statement)] at hrule
  exact ⟨statement, hs, List.mem_filter.mpr ⟨Lint.Kind.mem_all hit.kind, hrule⟩⟩

end Statement

namespace Node

open Statement

mutual

/-- Each header of a node is closed behind its children. -/
theorem totalWeight_statements : (node : Node) → totalWeight node.statements = 0
  | ⟨name, kind, dataType, mandatory, description, children⟩ => by
    rw [statements, totalWeight_cons, totalWeight_append, totalWeight_append, totalWeight_append,
      totalWeight_append, totalWeight_toList fun _ => rfl, totalWeight_toList fun _ => rfl,
      totalWeight_toList fun _ => rfl, totalWeight_statementsOfAll children]
    rfl

theorem totalWeight_statementsOfAll :
    (nodes : List Node) → totalWeight (statementsOfAll nodes) = 0
  | [] => rfl
  | node :: rest => by
    rw [statementsOfAll, totalWeight_append, totalWeight_statements node,
      totalWeight_statementsOfAll rest]
    rfl

end

end Node

namespace Module

open Statement

theorem totalWeight_imports (imports : List String) :
    totalWeight (imports.flatMap fun name => [.openImport name, .close]) = 0 := by
  induction imports with
  | nil => rfl
  | cons name rest ih =>
    rw [List.flatMap_cons, totalWeight_append, ih]
    rfl

theorem totalWeight_statements (m : Module) : totalWeight m.statements = 0 := by
  rw [statements, totalWeight_cons, totalWeight_append, totalWeight_append, totalWeight_append,
    totalWeight_append, totalWeight_toList fun _ => rfl, totalWeight_toList fun _ => rfl,
    totalWeight_imports, Node.totalWeight_statementsOfAll]
  rfl

theorem hasHeader_sourceLines {m : Module} (h : isWord m.name = true) :
    Lint.hasHeader m.sourceLines = true := by
  have hread : ofChars? (Statement.openModule m.name).line.toList = some (.openModule m.name) :=
    ofChars?_line h
  have hopens : opensModule (Statement.openModule m.name).line.toList = true :=
    (isModule_of_ofChars? hread).symm
  rw [sourceLines, statements, List.map_cons, Lint.hasHeader, List.any_cons, significant?_line,
    Option.any_some, hopens, Bool.true_or]

end Module

open Lint in
/-- No error is found in the text of a module whose words and texts hold no stray marks, and no
warning either where no word holds a semicolon or the keyword of a description and no text holds two
semicolons in a row. All lines of the text are checked. -/
theorem source_is_clean {m : Module} (hwords : ∀ word ∈ m.words, isPlainWord word = true)
    (htexts : ∀ text ∈ m.texts, isPlainText text = true) :
    (checkSource m.source).errors = #[] ∧
    ((∀ word ∈ m.words, ';' ∉ word.toList ∧ ¬"description".toList <:+: word.toList) →
      (∀ text ∈ m.texts, ¬";;".toList <:+: text.toList) →
      (checkSource m.source).warnings = #[]) ∧
    (checkSource m.source).linesChecked = m.sourceLines.length := by
  have hplain : ∀ statement ∈ m.statements, statement.IsPlain := fun statement hs =>
    { words := fun word hword => hwords word (Module.mem_words hs hword)
      texts := fun text htext => htexts text (Module.mem_texts hs htext) }
  have hformed : m.isWellFormed = true := by
    rw [← Module.all_statements, List.all_eq_true]
    exact fun statement hs => Statement.isWellFormed_of_isPlain (hplain statement hs)
  have hname : isWord m.name = true :=
    (Bool.and_eq_true_iff.mp (hwords m.name List.mem_cons_self)).1
  rw [checkSource, Module.lines_source hformed]
  have hatEnd : (Checker.feedAll {} m.sourceLines).finalFindings = [] := by
    refine (finalFindings_eq_nil m.sourceLines).mpr ⟨Module.hasHeader_sourceLines hname, ?_, ?_⟩
    · exact (Statement.braceSurplus_lines hplain).trans m.totalWeight_statements
    · exact Statement.quoteCount_lines hplain
  refine ⟨?_, ?_, linesChecked_checkLines m.sourceLines⟩
  · rw [← Array.toList_eq_nil_iff, errors_checkLines, hatEnd, List.append_nil, List.map_eq_nil_iff,
      List.filter_eq_nil_iff]
    intro hit hmem
    obtain ⟨statement, -, hfound⟩ := Statement.exists_of_isOn (mem_hits.mp hmem)
    rw [Statement.severity_of_mem_findings_line hfound]
    decide
  · intro hquiet hsingle
    rw [← Array.toList_eq_nil_iff, warnings_checkLines, List.map_eq_nil_iff,
      List.filter_eq_nil_iff]
    intro hit hmem
    obtain ⟨statement, hs, hfound⟩ := Statement.exists_of_isOn (mem_hits.mp hmem)
    rw [Statement.findings_line_eq_nil (fun word hword => hquiet word (Module.mem_words hs hword))
      fun text htext => hsingle text (Module.mem_texts hs htext)] at hfound
    cases hfound

/-- A module whose words and texts are the keywords that the rules look for. -/
def Module.ofKeywords : Module where
  name := "type"
  namespaceUri := some "urn:type; // prefix"
  prefixName := some "prefix"
  imports := ["namespace", "//"]
  nodes :=
    [{ name := "namespace", kind := .container, description := some "type\\n; description ",
       children := [{ name := "leaf\\", kind := .leafList, dataType := some "prefix",
                      mandatory := some true }] }]

theorem source_is_clean_ofKeywords :
    (∀ word ∈ Module.ofKeywords.words, isPlainWord word = true) ∧
    (∀ text ∈ Module.ofKeywords.texts, isPlainText text = true) ∧
    (∀ word ∈ Module.ofKeywords.words,
      ';' ∉ word.toList ∧ ¬"description".toList <:+: word.toList) ∧
    (∀ text ∈ Module.ofKeywords.texts, ¬";;".toList <:+: text.toList) ∧
    (Lint.checkSource Module.ofKeywords.source).errors = #[] ∧
    (Lint.checkSource Module.ofKeywords.source).warnings = #[] ∧
    (Lint.checkSource Module.ofKeywords.source).linesChecked = 15 := by
  have hwords : ∀ word ∈ Module.ofKeywords.words, isPlainWord word = true := by decide
  have htexts : ∀ text ∈ Module.ofKeywords.texts, isPlainText text = true := by decide
  have hquiet : ∀ word ∈ Module.ofKeywords.words,
      ';' ∉ word.toList ∧ ¬"description".toList <:+: word.toList := by
    simp only [← occurs_iff]
    decide
  have hsingle : ∀ text ∈ Module.ofKeywords.texts, ¬";;".toList <:+: text.toList := by
    simp only [← occurs_iff]
    decide
  obtain ⟨herrors, hwarnings, hlines⟩ := source_is_clean hwords htexts
  exact ⟨hwords, htexts, hquiet, hsingle, herrors, hwarnings hquiet hsingle, hlines⟩

end YangCheck
