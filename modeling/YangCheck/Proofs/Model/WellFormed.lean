import YangCheck.Proofs.Outline.Simulation
import YangCheck.Proofs.Statement.RoundTrip
import YangCheck.Proofs.Text.Lines

namespace YangCheck

open Text

/-- Whether the text of a statement can stand in a line of a file. -/
def Statement.isWellFormed : Statement → Bool
  | .openModule name | .setPrefix name | .openImport name | .openNode _ name | .setType name =>
    isWord name
  | .setNamespace text | .setDescription text => isQuotable text
  | .setMandatory _ | .close => true

theorem Text.isQuotable_iff {text : String} :
    isQuotable text = true ↔ Text.isSpeakable text = true ∧ IsLine text.toList := by
  simp only [isQuotable, Text.isSpeakable, IsLine, Bool.and_eq_true_iff, List.all_eq_true,
    bne_iff_ne]
  grind

theorem Text.isLine_of_isWord {text : String} (h : isWord text = true) : IsLine text.toList := by
  intro c hc
  have hblank := isBlank_of_isWord h hc
  constructor <;> rintro rfl <;> revert hblank <;> decide

namespace Statement

variable {statement : Statement}

theorem isSpeakable_of_isWellFormed (h : statement.isWellFormed = true) :
    statement.isSpeakable = true := by
  cases statement with
  | setNamespace uri => exact (isQuotable_iff.mp h).1
  | setDescription text => exact (isQuotable_iff.mp h).1
  | _ => exact h

theorem isQuotable_of_quotedSetting? {keyword text : String} {line : List Char}
    (hline : IsLine line) (h : quotedSetting? keyword line = some text) :
    isQuotable text = true := by
  obtain ⟨rest, harg, hrest⟩ := Option.bind_eq_some_iff.mp h
  obtain ⟨hs, hmem⟩ := isSpeakable_of_quotedText? hrest
  exact isQuotable_iff.mpr ⟨hs, fun c hc => hline c ((suffix_of_argument? harg).mem (hmem c hc))⟩

theorem isWellFormed_of_reads {line : List Char} (hline : IsLine line)
    (h : Reads line statement) : statement.isWellFormed = true := by
  cases statement with
  | setNamespace uri => exact isQuotable_of_quotedSetting? hline h
  | setDescription text => exact isQuotable_of_quotedSetting? hline h
  | _ => exact isSpeakable_of_reads h

end Statement

theorem Text.isLine_trim {s : List Char} (h : IsLine s) : IsLine (trim s) := by
  intro c hc
  rw [trim, List.mem_reverse] at hc
  have hback := List.mem_reverse.mp ((List.dropWhile_suffix _).mem hc)
  exact h c ((List.dropWhile_suffix _).mem hback)

theorem Statement.isLine_of_significant? {raw : String} {line : List Char}
    (hraw : IsLine raw.toList) (h : significant? raw = some line) : IsLine line := by
  rw [← trim_of_significant? h]
  exact isLine_trim hraw

namespace Node

theorem areWellFormed_append (nodes more : List Node) :
    areWellFormed (nodes ++ more) = (areWellFormed nodes && areWellFormed more) := by
  induction nodes with
  | nil => simp [areWellFormed]
  | cons node rest ih => simp only [List.cons_append, areWellFormed, ih, Bool.and_assoc]

theorem isWellFormed_eq (node : Node) :
    node.isWellFormed = (isWord node.name && node.dataType.all isWord &&
      node.description.all isQuotable && areWellFormed node.children) := by
  cases node
  simp only [isWellFormed]

end Node

namespace Outline

def OpenScope.isWellFormed : OpenScope → Bool
  | .ofNode node => node.isWellFormed
  | _ => true

namespace Nest

def isWellFormed (nest : Nest) : Bool :=
  nest.module?.all Module.isWellFormed && nest.scopes.all OpenScope.isWellFormed

variable {nest : Nest}

theorem isWellFormed_iff {nest : Nest} : nest.isWellFormed = true ↔
    nest.module?.all Module.isWellFormed = true ∧
      nest.scopes.all OpenScope.isWellFormed = true := by
  rw [isWellFormed, Bool.and_eq_true_iff]

theorem isWellFormed_edit {f : Node → Node}
    (hf : ∀ node, node.isWellFormed = true → (f node).isWellFormed = true)
    {scopes : List OpenScope} (h : scopes.all OpenScope.isWellFormed = true) :
    (edit f scopes).all OpenScope.isWellFormed = true := by
  induction scopes with
  | nil => rfl
  | cons scope outer ih =>
    obtain ⟨hscope, houter⟩ := Bool.and_eq_true_iff.mp h
    cases scope with
    | ofNode node => exact Bool.and_eq_true_iff.mpr ⟨hf node hscope, houter⟩
    | _ => exact ih houter

theorem isWellFormed_onModule {f : Module → Module}
    (hf : ∀ m, m.isWellFormed = true → (f m).isWellFormed = true)
    (h : nest.isWellFormed = true) : (nest.onModule f).isWellFormed = true := by
  obtain ⟨hm, hs⟩ := isWellFormed_iff.mp h
  refine isWellFormed_iff.mpr ⟨?_, hs⟩
  simp only [onModule, Option.all_map]
  cases hmod : nest.module? with
  | none => rfl
  | some m =>
    rw [hmod] at hm
    exact hf m hm

theorem isWellFormed_onInnermost {f : Node → Node}
    (hf : ∀ node, node.isWellFormed = true → (f node).isWellFormed = true)
    (h : nest.isWellFormed = true) : (nest.onInnermost f).isWellFormed = true := by
  obtain ⟨hm, hs⟩ := isWellFormed_iff.mp h
  exact isWellFormed_iff.mpr ⟨hm, isWellFormed_edit hf hs⟩

theorem isWellFormed_push {scope : OpenScope} (hscope : scope.isWellFormed = true)
    (h : nest.isWellFormed = true) : (nest.push scope).isWellFormed = true := by
  obtain ⟨hm, hs⟩ := isWellFormed_iff.mp h
  exact isWellFormed_iff.mpr ⟨hm, Bool.and_eq_true_iff.mpr ⟨hscope, hs⟩⟩

theorem isWellFormed_add {node : Node} (hnode : node.isWellFormed = true)
    (h : nest.isWellFormed = true) : (nest.add node).isWellFormed = true := by
  rw [add]
  split
  · apply isWellFormed_onInnermost ?_ h
    intro parent hparent
    simp_all [Node.isWellFormed_eq parent, Node.isWellFormed, Node.areWellFormed_append,
      Node.areWellFormed]
  · apply isWellFormed_onModule ?_ h
    intro m hm
    simp_all [Module.isWellFormed, Node.areWellFormed_append, Node.areWellFormed]

theorem isWellFormed_pop (h : nest.isWellFormed = true) : nest.pop.isWellFormed = true := by
  obtain ⟨hm, hs⟩ := isWellFormed_iff.mp h
  rw [pop]
  split
  · exact h
  · rename_i node outer hscopes
    rw [hscopes] at hs
    obtain ⟨hnode, houter⟩ := Bool.and_eq_true_iff.mp hs
    exact isWellFormed_add hnode (isWellFormed_iff.mpr ⟨hm, houter⟩)
  · rename_i scope outer _ hscopes
    rw [hscopes] at hs
    exact isWellFormed_iff.mpr ⟨hm, (Bool.and_eq_true_iff.mp hs).2⟩

theorem isWellFormed_apply {statement : Statement} (hs : statement.isWellFormed = true)
    (h : nest.isWellFormed = true) : (nest.apply statement).isWellFormed = true := by
  cases statement with
  | openModule name =>
    apply isWellFormed_push rfl
    refine isWellFormed_iff.mpr ⟨?_, (isWellFormed_iff.mp h).2⟩
    have hname : isWord name = true := hs
    simp [Module.isWellFormed, Node.areWellFormed, hname]
  | setNamespace uri =>
    apply isWellFormed_onModule ?_ h
    intro m hm
    simp_all [Module.isWellFormed, Statement.isWellFormed]
  | setPrefix name =>
    apply isWellFormed_onModule ?_ h
    intro m hm
    simp_all [Module.isWellFormed, Statement.isWellFormed]
  | openImport name =>
    apply isWellFormed_push rfl
    apply isWellFormed_onModule ?_ h
    intro m hm
    simp_all [Module.isWellFormed, Statement.isWellFormed]
  | openNode kind name =>
    apply isWellFormed_push ?_ h
    have hname : isWord name = true := hs
    simp [OpenScope.isWellFormed, Node.isWellFormed, Node.areWellFormed, hname]
  | setType name =>
    apply isWellFormed_onInnermost ?_ h
    intro node hnode
    simp_all [Node.isWellFormed_eq node, Node.isWellFormed, Statement.isWellFormed]
  | setMandatory value =>
    apply isWellFormed_onInnermost ?_ h
    intro node hnode
    simp_all [Node.isWellFormed_eq node, Node.isWellFormed]
  | setDescription text =>
    apply isWellFormed_onInnermost ?_ h
    intro node hnode
    simp_all [Node.isWellFormed_eq node, Node.isWellFormed, Statement.isWellFormed]
  | close => exact isWellFormed_pop h

theorem isWellFormed_feed {raw : String} (hraw : IsLine raw.toList)
    (h : nest.isWellFormed = true) : (nest.feed raw).isWellFormed = true := by
  rw [feed]
  cases hread : (Statement.significant? raw).bind nest.position.read? with
  | none => exact h
  | some statement =>
    obtain ⟨line, hline, hread⟩ := Option.bind_eq_some_iff.mp hread
    have hreads := Statement.reads_of_ofChars? (Option.filter_eq_some_iff.mp hread).1
    have hone := Statement.isLine_of_significant? hraw hline
    exact isWellFormed_apply (Statement.isWellFormed_of_reads hone hreads) h

theorem isWellFormed_feedAll {lines : List String} (hlines : ∀ raw ∈ lines, IsLine raw.toList)
    (h : nest.isWellFormed = true) : (nest.feedAll lines).isWellFormed = true := by
  induction lines generalizing nest with
  | nil => exact h
  | cons raw rest ih =>
    exact ih (fun line hline => hlines line (List.mem_cons_of_mem raw hline))
      (isWellFormed_feed (hlines raw List.mem_cons_self) h)

theorem isWellFormed_popAll (h : nest.isWellFormed = true) :
    nest.popAll.isWellFormed = true := by
  rw [popAll]
  generalize nest.scopes = closed
  induction closed generalizing nest with
  | nil => exact h
  | cons scope rest ih => exact ih (isWellFormed_pop h)

end Nest

end Outline

theorem Module.isWellFormed_of_ofSource {source : String} {m : Module}
    (h : Module.ofSource source = some m) : m.isWellFormed = true := by
  rw [ofSource, ofLines, Outline.finish_feedAll] at h
  have hlines : ∀ raw ∈ lines source, IsLine raw.toList := fun _ => isLine_of_mem_lines
  have hempty : ({} : Outline.Nest).isWellFormed = true := rfl
  have hnest := Outline.Nest.isWellFormed_popAll
    (Outline.Nest.isWellFormed_feedAll hlines hempty)
  have hm : (Outline.Nest.feedAll {} (lines source)).popAll.module? = some m := h
  have hall := (Outline.Nest.isWellFormed_iff.mp hnest).1
  rw [hm] at hall
  exact hall

end YangCheck
