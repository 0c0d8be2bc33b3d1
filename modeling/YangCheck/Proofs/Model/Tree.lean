import Mathlib.Data.List.Forall2
import YangCheck.Model.Skeleton
import YangCheck.Proofs.Model.Json
import YangCheck.Proofs.Model.SourceRoundTrip
import YangCheck.Proofs.Model.Words
import YangCheck.Proofs.Outline.Preorder

namespace YangCheck

open Text

theorem NodeKind.isWord_keyword (kind : NodeKind) : isWord kind.keyword = true := by
  cases kind <;> decide

namespace Node

theorem toList_indent (depth : Nat) : (indent depth).toList = List.replicate (2 * depth) ' ' := by
  rw [indent, String.toList_ofList]

/-- What the line of a node says behind its name. -/
def details (node : Node) : List String :=
  node.dataType.toList ++ node.mandatory.toList.map ("mandatory=" ++ toString ·) ++
    node.description.toList.map ("\"" ++ · ++ "\"")

theorem label_eq (node : Node) :
    node.label = node.kind.keyword ++ " " ++ node.name ++
      String.join (node.details.map (" " ++ ·)) := by
  obtain ⟨name, kind, dataType, mandatory, description, children⟩ := node
  cases dataType <;> cases mandatory <;> cases description <;>
    simp [label, details, ← String.append_assoc] <;> rfl

end Node

namespace TreeRow

variable {keyword name details : String}

theorem head?_join (details : List String) {c : Char}
    (h : (String.join (details.map (" " ++ ·))).toList.head? = some c) : c = ' ' := by
  cases details with
  | nil => cases h
  | cons detail rest =>
    rw [List.map_cons, String.join_cons, String.append_assoc, String.toList_append] at h
    exact (Option.some.inj h).symm

theorem ofLine_row (depth : Nat) (hkeyword : isWord keyword = true) (hname : isWord name = true)
    (hdetails : ∀ c, details.toList.head? = some c → c = ' ') :
    ofLine (Node.indent depth ++ keyword ++ " " ++ name ++ details) =
      ⟨2 * depth, keyword, name⟩ := by
  have hline : (Node.indent depth ++ keyword ++ " " ++ name ++ details).toList =
      List.replicate (2 * depth) ' ' ++
        (keyword.toList ++ (' ' :: (name.toList ++ details.toList))) := by
    simp [Node.toList_indent]
  have hspaces : ∀ c ∈ List.replicate (2 * depth) ' ', isBlank c = true := by
    intro c hc
    rw [List.eq_of_mem_replicate hc]
    rfl
  have hblank : ∀ c, (' ' :: (name.toList ++ details.toList)).head? = some c →
      isBlank c = true := by
    intro c hc
    cases hc
    rfl
  have hback : ∀ c, details.toList.head? = some c → isBlank c = true := by
    intro c hc
    rw [hdetails c hc]
    rfl
  have hkeywordBlank {c : Char} (hc : c ∈ keyword.toList) := isBlank_of_isWord hkeyword hc
  have hnameBlank {c : Char} (hc : c ∈ name.toList) := isBlank_of_isWord hname hc
  have hbody : skipBlanks (List.replicate (2 * depth) ' ' ++
        (keyword.toList ++ (' ' :: (name.toList ++ details.toList)))) =
      keyword.toList ++ (' ' :: (name.toList ++ details.toList)) := by
    rw [skipBlanks_append hspaces]
    exact skipBlanks_append_word (toList_ne_nil_of_isWord hkeyword) (fun c => hkeywordBlank) _
  have hskip : skipBlanks (' ' :: (name.toList ++ details.toList)) =
      name.toList ++ details.toList := by
    rw [← List.singleton_append, skipBlanks_append (by simp [isBlank])]
    exact skipBlanks_append_word (toList_ne_nil_of_isWord hname) (fun c => hnameBlank) _
  rw [ofLine, hline, hbody, firstWord_append (fun c => hkeywordBlank) hblank,
    afterWord_append (fun c => hkeywordBlank) hblank, hskip,
    firstWord_append (fun c => hnameBlank) hback]
  simp

theorem ofLine_label (depth : Nat) {node : Node} (h : isWord node.name = true) :
    ofLine (Node.indent depth ++ node.label) = ⟨2 * depth, node.kind.keyword, node.name⟩ := by
  have hrow := ofLine_row depth node.kind.isWord_keyword h (fun _ => head?_join node.details)
  simpa only [Node.label_eq, String.append_assoc] using hrow

theorem level?_ofLine (depth : Nat) {node : Node} (h : isWord node.name = true) :
    (ofLine (Node.indent depth ++ node.label)).level? = some (depth, node.bare) := by
  rw [ofLine_label depth h, level?, NodeKind.ofKeyword?_keyword]
  simp [Node.bare]

theorem import?_ofLine (depth : Nat) {node : Node} (h : isWord node.name = true) :
    (ofLine (Node.indent depth ++ node.label)).import? = none := by
  have hkind : node.kind.keyword ≠ "import" := by cases node.kind <;> decide
  rw [ofLine_label depth h, import?, if_neg hkind]

theorem ofLine_import (h : isWord name = true) : ofLine ("  import " ++ name) =
    ⟨2, "import", name⟩ := by
  have hmarks : Node.indent 1 ++ "import" ++ " " = "  import " := by decide
  have hrow : ofLine (Node.indent 1 ++ "import" ++ " " ++ name ++ "") = ⟨2, "import", name⟩ :=
    ofLine_row 1 (by decide) h (by simp)
  rwa [hmarks, String.append_empty] at hrow

end TreeRow

namespace Node

section lists

variable {depth : Nat}

mutual

theorem map_snd_levels (depth : Nat) : (node : Node) →
    (levels depth node).map Prod.snd = preorder node
  | ⟨_, _, _, _, _, children⟩ => by
    rw [levels, preorder, List.map_cons, map_snd_levelsOfAll (depth + 1) children]

theorem map_snd_levelsOfAll (depth : Nat) : (nodes : List Node) →
    (levelsOfAll depth nodes).map Prod.snd = preorderOfAll nodes
  | [] => rfl
  | node :: rest => by
    rw [levelsOfAll, preorderOfAll, List.map_append, map_snd_levels depth node,
      map_snd_levelsOfAll depth rest]

end

mutual

theorem treeLines_eq (depth : Nat) : (node : Node) →
    treeLines depth node = (levels depth node).map fun entry => indent entry.1 ++ entry.2.label
  | ⟨_, _, _, _, _, children⟩ => by
    rw [treeLines, levels, List.map_cons, treeLinesAll_eq (depth + 1) children]
    rfl

theorem treeLinesAll_eq (depth : Nat) : (nodes : List Node) →
    treeLinesAll depth nodes =
      (levelsOfAll depth nodes).map fun entry => indent entry.1 ++ entry.2.label
  | [] => rfl
  | node :: rest => by
    rw [treeLinesAll, levelsOfAll, List.map_append, treeLines_eq depth node,
      treeLinesAll_eq depth rest]

end

mutual

theorem isWellFormed_of_mem_preorder : {node : Node} → node.isWellFormed = true →
    ∀ below ∈ preorder node, below.isWellFormed = true
  | ⟨_, _, _, _, _, children⟩, h => by
    intro below hbelow
    rw [preorder] at hbelow
    rcases List.mem_cons.mp hbelow with rfl | hchild
    · exact h
    · rw [isWellFormed_eq] at h
      exact isWellFormed_of_mem_preorderOfAll (Bool.and_eq_true_iff.mp h).2 below hchild

theorem isWellFormed_of_mem_preorderOfAll : {nodes : List Node} → areWellFormed nodes = true →
    ∀ below ∈ preorderOfAll nodes, below.isWellFormed = true
  | [], _ => by
    intro below hbelow
    cases hbelow
  | node :: rest, h => by
    intro below hbelow
    obtain ⟨hnode, hrest⟩ := Bool.and_eq_true_iff.mp h
    rw [preorderOfAll] at hbelow
    rcases List.mem_append.mp hbelow with hmem | hmem
    · exact isWellFormed_of_mem_preorder hnode below hmem
    · exact isWellFormed_of_mem_preorderOfAll hrest below hmem

end

/-! A forest is found again from its nodes in preorder and their depths. -/

/-- Whether what comes next is no deeper than a depth. -/
def ReturnsTo (depth : Nat) (entries : List (Nat × Node)) : Prop :=
  ∀ entry, entries.head? = some entry → entry.1 ≤ depth

theorem ReturnsTo.mono {deeper : Nat} {entries : List (Nat × Node)} (h : ReturnsTo depth entries)
    (hle : depth ≤ deeper) : ReturnsTo deeper entries :=
  fun entry hentry => Nat.le_trans (h entry hentry) hle

theorem returnsTo_append {nodes : List Node} {entries : List (Nat × Node)}
    (h : ReturnsTo depth entries) : ReturnsTo depth (nodes.map (depth, ·) ++ entries) := by
  cases nodes with
  | nil => exact h
  | cons node rest =>
    intro entry hentry
    cases hentry
    exact Nat.le_refl depth

/-- All that is one level deeper lies below a node, and nothing behind it does. -/
theorem gather_cons {name : String} {kind : NodeKind} {children : List Node}
    {rest entries : List (Nat × Node)} (hentries : ReturnsTo depth entries)
    (h : gather rest = children.map (depth + 1, ·) ++ entries) :
    gather ((depth, { name, kind }) :: rest) =
      (depth, { name, kind, children }) :: entries := by
  have hbelow : ∀ entry ∈ children.map (depth + 1, ·), decide (depth < entry.1) = true := by
    intro entry hentry
    obtain ⟨child, -, rfl⟩ := List.mem_map.mp hentry
    exact decide_eq_true (Nat.lt_succ_self depth)
  rw [gather, h, List.takeWhile_append_of_pos hbelow, List.dropWhile_append_of_pos hbelow]
  cases entries with
  | nil => simp [Function.comp_def]
  | cons entry entries =>
    have hback : ¬ depth < entry.1 := Nat.not_lt.mpr (hentries entry rfl)
    simp [hback, Function.comp_def]

mutual

theorem gather_levels (depth : Nat) : (node : Node) → {rest : List (Nat × Node)} →
    ReturnsTo depth (gather rest) →
    gather ((levels depth node).map (Prod.map id bare) ++ rest) =
      (depth, node.skeleton) :: gather rest
  | ⟨name, kind, dataType, mandatory, description, children⟩, rest, h => by
    rw [levels, List.map_cons, List.cons_append, skeleton]
    apply gather_cons h
    exact gather_levelsOfAll (depth + 1) children (h.mono (Nat.le_succ depth))

theorem gather_levelsOfAll (depth : Nat) : (nodes : List Node) → {rest : List (Nat × Node)} →
    ReturnsTo depth (gather rest) →
    gather ((levelsOfAll depth nodes).map (Prod.map id bare) ++ rest) =
      (skeletons nodes).map (depth, ·) ++ gather rest
  | [], _, _ => rfl
  | node :: others, rest, h => by
    -- The reader works from the right, so the siblings are known when it comes to the node.
    have hothers := gather_levelsOfAll depth others h
    have hback : ReturnsTo depth
        (gather ((levelsOfAll depth others).map (Prod.map id bare) ++ rest)) := by
      rw [hothers]
      exact returnsTo_append h
    rw [levelsOfAll, List.map_append, List.append_assoc, gather_levels depth node hback, hothers]
    rfl

end

end lists

theorem skeletons_eq_gather (depth : Nat) (nodes : List Node) :
    (gather ((levelsOfAll depth nodes).map (Prod.map id bare))).map Prod.snd =
      skeletons nodes := by
  have hempty : ReturnsTo depth (gather []) := fun _ h => nomatch h
  have hgather := gather_levelsOfAll depth nodes hempty
  rw [List.append_nil] at hgather
  rw [hgather, gather, List.append_nil, List.map_map]
  exact List.map_id _

theorem isWord_name {node : Node} (h : node.isWellFormed = true) : isWord node.name = true := by
  rw [isWellFormed_eq] at h
  simp only [Bool.and_eq_true_iff] at h
  exact h.1.1.1

theorem isWellFormed_of_mem_levelsOfAll {nodes : List Node} (h : areWellFormed nodes = true)
    {depth : Nat} {entry : Nat × Node} (hentry : entry ∈ levelsOfAll depth nodes) :
    entry.2.isWellFormed = true := by
  apply isWellFormed_of_mem_preorderOfAll h
  rw [← map_snd_levelsOfAll depth]
  exact List.mem_map_of_mem hentry

theorem filterMap_level?_treeLinesAll (depth : Nat) {nodes : List Node}
    (h : areWellFormed nodes = true) :
    ((treeLinesAll depth nodes).map TreeRow.ofLine).filterMap TreeRow.level? =
      (levelsOfAll depth nodes).map (Prod.map id bare) := by
  rw [treeLinesAll_eq, List.map_map, List.filterMap_map, ← List.filterMap_eq_map]
  apply List.filterMap_congr
  intro entry hentry
  have hname := isWord_name (isWellFormed_of_mem_levelsOfAll h hentry)
  rw [Function.comp_apply, Function.comp_apply, TreeRow.level?_ofLine entry.1 hname]
  rfl

theorem filterMap_import?_treeLinesAll (depth : Nat) {nodes : List Node}
    (h : areWellFormed nodes = true) :
    ((treeLinesAll depth nodes).map TreeRow.ofLine).filterMap TreeRow.import? = [] := by
  rw [treeLinesAll_eq, List.map_map, List.filterMap_map, List.filterMap_eq_nil_iff]
  intro entry hentry
  have hname := isWord_name (isWellFormed_of_mem_levelsOfAll h hentry)
  rw [Function.comp_apply, Function.comp_apply, TreeRow.import?_ofLine entry.1 hname]

/-- A line shows a node at a depth where it starts with two spaces for each level and no more, the
kind, a space and the name, and another space parts the name from all that follows. -/
def IsShownBy (depth : Nat) (node : Node) (line : String) : Prop :=
  ∃ behind : List Char,
    line.toList = List.replicate (2 * depth) ' ' ++
      (node.kind.keyword.toList ++ ' ' :: (node.name.toList ++ behind)) ∧
    (line.toList.takeWhile (· == ' ')).length = 2 * depth ∧
    ∀ c, behind.head? = some c → c = ' '

theorem isShownBy_line (depth : Nat) (node : Node) :
    node.IsShownBy depth (indent depth ++ node.label) := by
  have hline : (indent depth ++ node.label).toList = List.replicate (2 * depth) ' ' ++
      (node.kind.keyword.toList ++
        ' ' :: (node.name.toList ++ (String.join (node.details.map (" " ++ ·))).toList)) := by
    simp [label_eq, toList_indent]
  refine ⟨_, hline, ?_, fun _ => TreeRow.head?_join node.details⟩
  have hspaces : ∀ c ∈ List.replicate (2 * depth) ' ', (c == ' ') = true := by
    intro c hc
    rw [List.eq_of_mem_replicate hc]
    rfl
  rw [hline, List.takeWhile_append_of_pos hspaces]
  cases node.kind <;> simp [NodeKind.keyword]

theorem isLine_details {node : Node} (h : node.isWellFormed = true) :
    ∀ detail ∈ node.details, IsLine detail.toList := by
  rw [isWellFormed_eq] at h
  simp only [Bool.and_eq_true_iff, Option.all_eq_true] at h
  obtain ⟨⟨⟨-, htype⟩, hdescription⟩, -⟩ := h
  intro detail hdetail
  simp only [details, List.mem_append, Option.mem_toList, List.mem_map] at hdetail
  rcases hdetail with (hdata | ⟨value, -, rfl⟩) | ⟨text, htext, rfl⟩
  · exact isLine_of_isWord (htype detail hdata)
  · have hword : isWord ("mandatory=" ++ toString value) = true := by cases value <;> decide
    exact isLine_of_isWord hword
  · have hquoted := (isQuotable_iff.mp (hdescription text htext)).2
    simp only [String.toList_append, isLine_append]
    exact ⟨⟨by simp [IsLine], hquoted⟩, by simp [IsLine]⟩

theorem isLine_line (depth : Nat) {node : Node} (h : node.isWellFormed = true) :
    IsLine (indent depth ++ node.label).toList := by
  have hdetails : IsLine (String.join (node.details.map (" " ++ ·))).toList := by
    rw [String.toList_join]
    intro c hc
    obtain ⟨piece, hpiece, hc⟩ := List.mem_flatMap.mp hc
    obtain ⟨detail, hdetail, rfl⟩ := List.mem_map.mp hpiece
    have hspace : IsLine (" " ++ detail).toList := by
      rw [String.toList_append, isLine_append]
      exact ⟨by simp [IsLine], isLine_details h detail hdetail⟩
    exact hspace c hc
  rw [label_eq]
  simp only [String.toList_append, isLine_append, toList_indent]
  refine ⟨?_, ⟨⟨isLine_of_isWord node.kind.isWord_keyword, by simp [IsLine]⟩,
    isLine_of_isWord (isWord_name h)⟩, hdetails⟩
  intro c hc
  rw [List.eq_of_mem_replicate hc]
  decide

end Node

namespace Module

variable {m : Module}

theorem exists_label (h : m.isWellFormed = true) :
    ∃ behind : String, m.label = "module " ++ m.name ++ behind ∧ IsLine behind.toList ∧
      ∀ c, behind.toList.head? = some c → c = ' ' := by
  simp only [isWellFormed, Bool.and_eq_true_iff, Option.all_eq_true] at h
  obtain ⟨⟨⟨⟨-, hnamespace⟩, hprefixName⟩, -⟩, -⟩ := h
  have hmarks : IsLine " (namespace ".toList ∧ IsLine ", prefix ".toList ∧ IsLine ")".toList ∧
      IsLine " (prefix ".toList := by simp [IsLine]
  obtain ⟨hopen, hcomma, hclose, hshort⟩ := hmarks
  have huri : ∀ uri, m.namespaceUri = some uri → IsLine uri.toList := fun uri heq =>
    (isQuotable_iff.mp (hnamespace uri heq)).2
  have hname : ∀ name, m.prefixName = some name → IsLine name.toList := fun name heq =>
    isLine_of_isWord (hprefixName name heq)
  obtain ⟨name, namespaceUri, prefixName, imports, nodes⟩ := m
  cases namespaceUri with
  | none =>
    cases prefixName with
    | none => exact ⟨"", rfl, isLine_nil, by simp⟩
    | some short =>
      refine ⟨" (prefix " ++ short ++ ")", rfl, ?_, by simp⟩
      simp only [String.toList_append, isLine_append]
      exact ⟨⟨hshort, hname short rfl⟩, hclose⟩
  | some uri =>
    cases prefixName with
    | none =>
      refine ⟨" (namespace " ++ uri ++ ")", rfl, ?_, by simp⟩
      simp only [String.toList_append, isLine_append]
      exact ⟨⟨hopen, huri uri rfl⟩, hclose⟩
    | some short =>
      refine ⟨" (namespace " ++ uri ++ ", prefix " ++ short ++ ")", rfl, ?_, by simp⟩
      simp only [String.toList_append, isLine_append]
      exact ⟨⟨⟨⟨hopen, huri uri rfl⟩, hcomma⟩, hname short rfl⟩, hclose⟩

theorem isWord_names (h : m.isWellFormed = true) :
    isWord m.name = true ∧ (∀ name ∈ m.imports, isWord name = true) ∧
      Node.areWellFormed m.nodes = true := by
  simp only [isWellFormed, Bool.and_eq_true_iff, List.all_eq_true] at h
  exact ⟨h.1.1.1.1, h.1.2, h.2⟩

theorem isLine_of_mem_treeLines (h : m.isWellFormed = true) :
    ∀ line ∈ m.treeLines, IsLine line.toList := by
  obtain ⟨hname, himports, hnodes⟩ := isWord_names h
  obtain ⟨behind, hlabel, hbehind, -⟩ := exists_label h
  intro line hline
  rw [treeLines, Node.treeLinesAll_eq] at hline
  rcases List.mem_cons.mp hline with rfl | hline
  · rw [hlabel, String.toList_append, String.toList_append, isLine_append, isLine_append]
    exact ⟨⟨by simp [IsLine], isLine_of_isWord hname⟩, hbehind⟩
  rcases List.mem_append.mp hline with himport | hnode
  · obtain ⟨name, hmem, rfl⟩ := List.mem_map.mp himport
    rw [String.toList_append, isLine_append]
    exact ⟨by simp [IsLine], isLine_of_isWord (himports name hmem)⟩
  · obtain ⟨entry, hmem, rfl⟩ := List.mem_map.mp hnode
    exact Node.isLine_line entry.1 (Node.isWellFormed_of_mem_levelsOfAll hnodes hmem)

theorem lines_renderTree (h : m.isWellFormed = true) : lines m.renderTree = m.treeLines :=
  lines_join (isLine_of_mem_treeLines h)

theorem ofTree?_renderTree (h : m.isWellFormed = true) :
    ofTree? m.renderTree = some m.skeleton := by
  obtain ⟨hname, himports, hnodes⟩ := isWord_names h
  obtain ⟨behind, hlabel, -, hbehind⟩ := exists_label h
  have hheader : TreeRow.ofLine m.label = ⟨0, "module", m.name⟩ := by
    have hmarks : Node.indent 0 ++ "module" ++ " " = "module " := by decide
    have hrow := TreeRow.ofLine_row 0 (by decide : isWord "module" = true) hname hbehind
    rwa [hmarks, ← hlabel] at hrow
  have hrows : (m.imports.map ("  import " ++ ·)).map TreeRow.ofLine =
      m.imports.map (TreeRow.mk 2 "import") := by
    rw [List.map_map]
    exact List.map_congr_left fun name hmem => TreeRow.ofLine_import (himports name hmem)
  have hnames : (m.imports.map (TreeRow.mk 2 "import")).filterMap TreeRow.import? = m.imports := by
    rw [List.filterMap_map]
    exact List.filterMap_some
  have hnone : (m.imports.map (TreeRow.mk 2 "import")).filterMap TreeRow.level? = [] := by
    rw [List.filterMap_map, List.filterMap_eq_nil_iff]
    exact fun _ _ => rfl
  rw [ofTree?, lines_renderTree h, treeLines, List.cons_append, List.map_cons, List.map_append,
    hheader, hrows]
  simp only [List.filterMap_append, hnames, hnone, List.nil_append, List.append_nil,
    Node.filterMap_level?_treeLinesAll 1 hnodes, Node.filterMap_import?_treeLinesAll 1 hnodes,
    Node.skeletons_eq_gather]
  rfl

/-- The indented list of a module that a text declares has one line for the module, for each import
and for each node, in this order and all of them closed. The nodes stand in preorder, each two
spaces in for each level and with its kind and its name, so that the tree can be read back. -/
theorem tree_text_mirrors_nodes {source : String} {m : Module} (h : ofSource source = some m) :
    ∃ (header : String) (nodeLines : List String),
      let all := header :: (m.imports.map ("  import " ++ ·) ++ nodeLines)
      m.renderTree = String.join (all.map (· ++ "\n")) ∧
        (∀ line ∈ all, '\n' ∉ line.toList) ∧
        all.length = 1 + m.imports.length + m.nodeCount ∧
        "module ".toList ++ m.name.toList <+: header.toList ∧
        List.Forall₂ (fun entry line => Node.IsShownBy entry.1 entry.2 line)
          (Node.levelsOfAll 1 m.nodes) nodeLines ∧
        (Node.levelsOfAll 1 m.nodes).map Prod.snd = Node.preorderOfAll m.nodes ∧
        ofTree? m.renderTree = some m.skeleton := by
  have hwell := isWellFormed_of_ofSource h
  have hlines := isLine_of_mem_treeLines hwell
  obtain ⟨behind, hlabel, -, -⟩ := exists_label hwell
  have hpreorder := Node.map_snd_levelsOfAll 1 m.nodes
  have hcount : (Node.treeLinesAll 1 m.nodes).length = m.nodeCount := by
    rw [Node.treeLinesAll_eq, List.length_map, ← List.length_map Prod.snd, hpreorder,
      Node.length_preorderOfAll]
    rfl
  refine ⟨m.label, Node.treeLinesAll 1 m.nodes, rfl, ?_, ?_, ?_, ?_, hpreorder,
    ofTree?_renderTree hwell⟩
  · intro line hline hmem
    exact (hlines line hline '\n' hmem).1 rfl
  · rw [List.length_cons, List.length_append, List.length_map, hcount]
    omega
  · rw [hlabel, String.toList_append, String.toList_append]
    exact List.prefix_append _ _
  · rw [Node.treeLinesAll_eq, List.forall₂_map_right_iff, List.forall₂_same]
    exact fun entry _ => Node.isShownBy_line entry.1 entry.2

/-- A module whose names and descriptions look like parts of other lines. -/
def disguised : Module where
  name := "import"
  prefixName := some "p"
  imports := ["leaf"]
  nodes :=
    [{ name := "container", kind := .container, description := some "  leaf x",
       children := [{ name := "list", kind := .leaf, dataType := some "module",
                      mandatory := some true }] },
     { name := "leaf", kind := .leafList }]

theorem tree_text_mirrors_disguised :
    ofSource disguised.source = some disguised ∧
      disguised.renderTree = "module import (prefix p)\n  import leaf\n" ++
        "  container container \"  leaf x\"\n    leaf list module mandatory=true\n" ++
        "  leaf-list leaf\n" ∧
      (∃ nodeLines : List String,
        List.Forall₂ (fun entry line => Node.IsShownBy entry.1 entry.2 line)
          (Node.levelsOfAll 1 disguised.nodes) nodeLines) ∧
      ofTree? disguised.renderTree = some disguised.skeleton := by
  have h : ofSource disguised.source = some disguised := ofSource_source (by decide)
  obtain ⟨_, nodeLines, _, _, _, _, hshown, _, hread⟩ := tree_text_mirrors_nodes h
  exact ⟨h, by decide, ⟨nodeLines, hshown⟩, hread⟩

end Module

end YangCheck
