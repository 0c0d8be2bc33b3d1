import Mathlib.Data.List.Basic
import YangCheck.Proofs.Json.Record

namespace YangCheck

namespace NodeKind

theorem ofKeyword?_keyword (kind : NodeKind) : ofKeyword? kind.keyword = some kind := by
  cases kind <;> decide

theorem ofJson?_keyword (nesting : Nat) (kind : NodeKind) :
    ofJson? nesting (Json.ofString kind.keyword) = some kind := by
  rw [Json.ofString, ofJson?, Json.unescape?_escape, String.ofList_toList, Option.bind_some,
    ofKeyword?_keyword]

end NodeKind

namespace Json

theorem optional?_text (value : Option String) :
    optional? text? (value.map ofString) = some value :=
  optional?_map text?_ofString (fun _ => nofun) value

theorem optional?_flag (value : Option Bool) : optional? flag? (value.map bool) = some value := by
  apply optional?_map
  · exact fun _ => rfl
  · exact fun _ => nofun

theorem texts?_map_ofString (texts : List String) :
    texts? (some (.array (texts.map ofString))) = some texts := by
  rw [texts?, mapM_map (k := id) fun s _ => text?_ofString s, List.map_id]

end Json

namespace Node

/-- The value of a field that is left out where there are no nodes. -/
def listField (nodes : List Node) : Option Json :=
  if nodes.isEmpty then none else some (.array (toJsons nodes))

/-- The fields of a node, whether they have a value or not. -/
def fields (node : Node) : List (String × Option Json) :=
  [("name", some (Json.ofString node.name)),
    ("kind", some (Json.ofString node.kind.keyword)),
    ("type", node.dataType.map Json.ofString),
    ("mandatory", node.mandatory.map Json.bool),
    ("description", node.description.map Json.ofString),
    ("children", listField node.children)]

theorem toJson_eq_present (node : Node) :
    node.toJson = Json.ofFields (Json.present node.fields) := by
  obtain ⟨name, kind, dataType, mandatory, description, children⟩ := node
  cases dataType <;> cases mandatory <;> cases description <;> cases children <;> rfl

theorem keys_toJson (node : Node) :
    node.toJson.keys = ["name", "kind"] ++ (if node.dataType.isSome then ["type"] else []) ++
      (if node.mandatory.isSome then ["mandatory"] else []) ++
      (if node.description.isSome then ["description"] else []) ++
      (if node.children.isEmpty then [] else ["children"]) := by
  rw [toJson_eq_present, Json.keys_present]
  obtain ⟨name, kind, dataType, mandatory, description, children⟩ := node
  cases dataType <;> cases mandatory <;> cases description <;> cases children <;> rfl

theorem record?_toJson (node : Node) :
    node.toJson.record? ["name", "kind", "type", "mandatory", "description", "children"] =
      some (node.fields.map Prod.snd) := by
  have hnodup : (node.fields.map Prod.fst).Nodup := by
    change ["name", "kind", "type", "mandatory", "description", "children"].Nodup
    decide
  rw [toJson_eq_present]
  exact Json.record?_present hnodup

/-- Only its children nest anything into a node. -/
theorem nesting_toJson (node : Node) :
    node.toJson.nesting = (listField node.children).elim 0 Json.nesting + 1 := by
  have hflag : (node.mandatory.map Json.bool).elim 0 Json.nesting = 0 := by
    cases node.mandatory <;> rfl
  rw [toJson_eq_present, Json.nesting_present]
  simp only [fields, List.map_cons, List.map_nil, List.foldr_cons, List.foldr_nil,
    Json.nesting_text, hflag, Option.elim_some, Json.nesting_ofString, Nat.zero_max, Nat.max_zero]

section lists

variable {nodes : List Node} (h : ∀ nesting, (toJsons nodes).mapM (ofJson? nesting) =
  if Json.nestingOfAll (toJsons nodes) ≤ nesting then some nodes else none)

include h

theorem listOfJson?_array (nesting : Nat) :
    listOfJson? nesting (some (.array (toJsons nodes))) =
      if (Json.array (toJsons nodes)).nesting ≤ nesting then some nodes else none := by
  rw [Json.nesting]
  cases nesting with
  | zero => rfl
  | succ nesting => simp only [listOfJson?, h, Nat.add_le_add_iff_right]

theorem listOfJson?_listField (nesting : Nat) :
    listOfJson? nesting (listField nodes) =
      if (listField nodes).elim 0 Json.nesting ≤ nesting then some nodes else none := by
  cases nodes with
  | nil =>
    have hnone : listField [] = none := rfl
    rw [hnone, listOfJson?, Option.elim_none, if_pos (Nat.zero_le _)]
  | cons node rest => exact listOfJson?_array h nesting

end lists

mutual

theorem ofJson?_toJson : (node : Node) → (nesting : Nat) →
    ofJson? nesting node.toJson = if node.toJson.nesting ≤ nesting then some node else none
  | ⟨name, kind, dataType, mandatory, description, children⟩, nesting => by
    have hlist := listOfJson?_listField (mapM_ofJson?_toJsons children)
    rw [nesting_toJson]
    cases nesting with
    | zero => rfl
    | succ nesting =>
      rw [ofJson?, record?_toJson]
      simp only [fields, List.map_cons, List.map_nil, Option.bind_eq_bind, Option.bind_some,
        Json.text?_ofString, NodeKind.ofJson?_keyword, Json.optional?_text, Json.optional?_flag,
        hlist, Nat.add_le_add_iff_right]
      split <;> rfl

theorem mapM_ofJson?_toJsons : (nodes : List Node) → (nesting : Nat) →
    (toJsons nodes).mapM (ofJson? nesting) =
      if Json.nestingOfAll (toJsons nodes) ≤ nesting then some nodes else none
  | [], _ => rfl
  | node :: rest, nesting => by
    rw [toJsons, List.mapM_cons, ofJson?_toJson node, mapM_ofJson?_toJsons rest, Json.nestingOfAll]
    simp only [Nat.max_le]
    by_cases hnode : node.toJson.nesting ≤ nesting
    · by_cases hrest : Json.nestingOfAll (toJsons rest) ≤ nesting
      · simp [hnode, hrest]
      · simp [hnode, hrest]
    · simp [hnode]

end

mutual

theorem isSpelled_toJson : (node : Node) → node.toJson.IsSpelled
  | ⟨name, kind, dataType, mandatory, description, children⟩ => by
    have hchildren := allSpelled_toJsons children
    rw [toJson_eq_present]
    refine Json.isSpelled_present fun field hfield value hvalue => ?_
    simp only [fields, List.mem_cons, List.not_mem_nil, or_false] at hfield
    rcases hfield with rfl | rfl | rfl | rfl | rfl | rfl
    · cases hvalue
      exact Json.isSpelled_ofString _
    · cases hvalue
      exact Json.isSpelled_ofString _
    · exact Json.isSpelled_of_text hvalue
    · obtain ⟨flag, -, rfl⟩ := Option.map_eq_some_iff.mp hvalue
      trivial
    · exact Json.isSpelled_of_text hvalue
    · cases children with
      | nil => cases hvalue
      | cons child rest =>
        cases hvalue
        exact hchildren

theorem allSpelled_toJsons : (nodes : List Node) → Json.AllSpelled (toJsons nodes)
  | [] => trivial
  | node :: rest => ⟨isSpelled_toJson node, allSpelled_toJsons rest⟩

end

theorem toJsons_injective : Function.Injective toJsons := by
  intro nodes nodes' h
  have hread := mapM_ofJson?_toJsons nodes (Json.nestingOfAll (toJsons nodes))
  have hread' := mapM_ofJson?_toJsons nodes' (Json.nestingOfAll (toJsons nodes'))
  rw [if_pos (Nat.le_refl _)] at hread hread'
  rw [h, hread'] at hread
  exact (Option.some.inj hread).symm

end Node

namespace Module

def fields (m : Module) : List (String × Option Json) :=
  [("name", some (Json.ofString m.name)),
    ("namespace", m.namespaceUri.map Json.ofString),
    ("prefix", m.prefixName.map Json.ofString),
    ("imports", some (.array (m.imports.map Json.ofString))),
    ("nodes", some (.array (Node.toJsons m.nodes)))]

theorem toJson_eq_present (m : Module) : m.toJson = Json.ofFields (Json.present m.fields) := by
  obtain ⟨name, namespaceUri, prefixName, imports, nodes⟩ := m
  cases namespaceUri <;> cases prefixName <;> rfl

theorem keys_toJson (m : Module) :
    m.toJson.keys = ["name"] ++ (if m.namespaceUri.isSome then ["namespace"] else []) ++
      (if m.prefixName.isSome then ["prefix"] else []) ++ ["imports", "nodes"] := by
  rw [toJson_eq_present, Json.keys_present]
  obtain ⟨name, namespaceUri, prefixName, imports, nodes⟩ := m
  cases namespaceUri <;> cases prefixName <;> rfl

theorem record?_toJson (m : Module) :
    m.toJson.record? ["name", "namespace", "prefix", "imports", "nodes"] =
      some (m.fields.map Prod.snd) := by
  have hnodup : (m.fields.map Prod.fst).Nodup := by
    change ["name", "namespace", "prefix", "imports", "nodes"].Nodup
    decide
  rw [toJson_eq_present]
  exact Json.record?_present hnodup

theorem nesting_toJson (m : Module) :
    m.toJson.nesting = (Json.array (Node.toJsons m.nodes)).nesting + 1 := by
  rw [toJson_eq_present, Json.nesting_present]
  simp only [fields, List.map_cons, List.map_nil, List.foldr_cons, List.foldr_nil,
    Json.nesting_text, Option.elim_some, Json.nesting_ofString, Json.nesting,
    Json.nestingOfAll_map_ofString]
  omega

theorem ofJson?_toJson (m : Module) :
    ofJson? m.toJson = if m.toJson.nesting ≤ Json.maxNesting then some m else none := by
  have hlist := Node.listOfJson?_array (Node.mapM_ofJson?_toJsons m.nodes) (Json.maxNesting - 1)
  have hlevel : (Json.array (Node.toJsons m.nodes)).nesting + 1 ≤ Json.maxNesting ↔
      (Json.array (Node.toJsons m.nodes)).nesting ≤ Json.maxNesting - 1 := by
    rw [Json.maxNesting]
    omega
  rw [ofJson?, record?_toJson, nesting_toJson]
  simp only [fields, List.map_cons, List.map_nil, Option.bind_eq_bind, Option.bind_some,
    Json.text?_ofString, Json.optional?_text, Json.texts?_map_ofString, hlist, hlevel]
  split <;> rfl

/-- Different modules are given by different values, however deep they are. -/
theorem toJson_injective : Function.Injective toJson := by
  intro m m' h
  have hread := record?_toJson m
  rw [h, record?_toJson] at hread
  have htexts := List.map_injective_iff.mpr Json.ofString_injective
  have htext := Option.map_injective Json.ofString_injective
  simp only [fields, List.map_cons, List.map_nil, Option.some.injEq, List.cons.injEq, and_true,
    Json.array.injEq, Json.ofString_injective.eq_iff, htexts.eq_iff, htext.eq_iff,
    Node.toJsons_injective.eq_iff] at hread
  obtain ⟨hname, huri, hprefix, himports, hnodes⟩ := hread
  cases m
  cases m'
  rw [Module.mk.injEq]
  exact ⟨hname.symm, huri.symm, hprefix.symm, himports.symm, hnodes.symm⟩

theorem isSpelled_toJson (m : Module) : m.toJson.IsSpelled := by
  rw [toJson_eq_present]
  refine Json.isSpelled_present fun field hfield value hvalue => ?_
  simp only [fields, List.mem_cons, List.not_mem_nil, or_false] at hfield
  rcases hfield with rfl | rfl | rfl | rfl | rfl
  · cases hvalue
    exact Json.isSpelled_ofString _
  · exact Json.isSpelled_of_text hvalue
  · exact Json.isSpelled_of_text hvalue
  · cases hvalue
    refine Json.allSpelled_of_forall fun item hitem => ?_
    obtain ⟨s, -, rfl⟩ := List.mem_map.mp hitem
    exact Json.isSpelled_ofString s
  · cases hvalue
    exact Node.allSpelled_toJsons m.nodes

theorem parse?_compact_toJson (m : Module) : Json.parse? m.toJson.compact = some m.toJson :=
  Json.parse?_compact m.isSpelled_toJson

theorem parse?_pretty_toJson (m : Module) : Json.parse? m.toJson.pretty = some m.toJson :=
  Json.parse?_pretty m.isSpelled_toJson

/-- A module is read back from its text, with or without blanks, exactly where the text is not
nested deeper than the reader goes. Different modules have different texts in any case, although
fields without a value and empty children are left out of them. -/
theorem json_text_round_trip (m : Module) :
    ofText? m.toJson.compact = (if m.toJson.nesting ≤ Json.maxNesting then some m else none) ∧
      ofText? m.toJson.pretty = (if m.toJson.nesting ≤ Json.maxNesting then some m else none) ∧
      (∀ m' : Module, m.toJson.compact = m'.toJson.compact → m = m') ∧
      (∀ m' : Module, m.toJson.pretty = m'.toJson.pretty → m = m') ∧
      Json.parse? m.toJson.compact = some m.toJson ∧
      Json.parse? m.toJson.pretty = some m.toJson ∧
      m.toJson.keys = ["name"] ++ (if m.namespaceUri.isSome then ["namespace"] else []) ++
        (if m.prefixName.isSome then ["prefix"] else []) ++ ["imports", "nodes"] ∧
      ∀ node : Node,
        node.toJson.keys = ["name", "kind"] ++ (if node.dataType.isSome then ["type"] else []) ++
          (if node.mandatory.isSome then ["mandatory"] else []) ++
          (if node.description.isSome then ["description"] else []) ++
          (if node.children.isEmpty then [] else ["children"]) := by
  have hcompact := m.parse?_compact_toJson
  have hpretty := m.parse?_pretty_toJson
  refine ⟨?_, ?_, ?_, ?_, hcompact, hpretty, m.keys_toJson, Node.keys_toJson⟩
  · rw [ofText?, hcompact, Option.bind_some, ofJson?_toJson]
  · rw [ofText?, hpretty, Option.bind_some, ofJson?_toJson]
  · intro m' h
    rw [h, parse?_compact_toJson] at hcompact
    exact toJson_injective (Option.some.inj hcompact).symm
  · intro m' h
    rw [h, parse?_pretty_toJson] at hpretty
    exact toJson_injective (Option.some.inj hpretty).symm

end Module

end YangCheck
