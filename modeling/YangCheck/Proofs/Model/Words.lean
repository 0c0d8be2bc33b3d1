import YangCheck.Proofs.Model.WellFormed

namespace YangCheck

open Text

namespace Node

mutual

/-- A node and all below it, each in front of its children. -/
def preorder : Node → List Node
  | ⟨name, kind, dataType, mandatory, description, children⟩ =>
    ⟨name, kind, dataType, mandatory, description, children⟩ :: preorderOfAll children

def preorderOfAll : List Node → List Node
  | [] => []
  | node :: rest => preorder node ++ preorderOfAll rest

end

def words (node : Node) : List String :=
  node.name :: node.dataType.toList

def texts (node : Node) : List String :=
  node.description.toList

end Node

namespace Module

/-- The names and types, and the prefix, wherever they stand in a module. -/
def words (m : Module) : List String :=
  m.name :: (m.prefixName.toList ++ m.imports ++ (Node.preorderOfAll m.nodes).flatMap Node.words)

/-- The namespace and the descriptions. -/
def texts (m : Module) : List String :=
  m.namespaceUri.toList ++ (Node.preorderOfAll m.nodes).flatMap Node.texts

end Module

namespace Statement

def words : Statement → List String
  | .openModule name | .setPrefix name | .openImport name | .openNode _ name | .setType name =>
    [name]
  | .setNamespace _ | .setMandatory _ | .setDescription _ | .close => []

def texts : Statement → List String
  | .setNamespace text | .setDescription text => [text]
  | _ => []

end Statement

/-- The statements that declare a node, without its children and its end. -/
def Node.declaration (node : Node) : List Statement :=
  .openNode node.kind node.name ::
    (node.dataType.toList.map .setType ++ node.mandatory.toList.map .setMandatory ++
      node.description.toList.map .setDescription)

section flatMap

variable {f : Statement → List String}

mutual

theorem Node.flatMap_statements (hf : f .close = []) : (node : Node) →
    node.statements.flatMap f = node.preorder.flatMap fun node => node.declaration.flatMap f
  | ⟨name, kind, dataType, mandatory, description, children⟩ => by
    rw [statements, preorder, List.flatMap_cons, List.flatMap_cons,
      ← flatMap_statementsOfAll hf children, declaration]
    simp only [List.flatMap_cons, List.flatMap_append, List.flatMap_nil, hf, List.append_nil,
      List.append_assoc]

theorem Node.flatMap_statementsOfAll (hf : f .close = []) : (nodes : List Node) →
    (Node.statementsOfAll nodes).flatMap f =
      (Node.preorderOfAll nodes).flatMap fun node => node.declaration.flatMap f
  | [] => rfl
  | node :: rest => by
    rw [statementsOfAll, preorderOfAll, List.flatMap_append, List.flatMap_append,
      flatMap_statements hf node, flatMap_statementsOfAll hf rest]

end

theorem Module.flatMap_statements (hf : f .close = []) (m : Module) :
    m.statements.flatMap f = f (.openModule m.name) ++
      (m.namespaceUri.toList.flatMap (fun uri => f (.setNamespace uri)) ++
        m.prefixName.toList.flatMap (fun name => f (.setPrefix name)) ++
        m.imports.flatMap (fun name => f (.openImport name)) ++
        (Node.preorderOfAll m.nodes).flatMap fun node => node.declaration.flatMap f) := by
  rw [statements, List.flatMap_cons, ← Node.flatMap_statementsOfAll hf]
  simp only [List.flatMap_append, List.flatMap_map, List.flatMap_assoc, List.flatMap_cons,
    List.flatMap_nil, hf, List.append_nil]

end flatMap

theorem Node.flatMap_words_declaration (node : Node) :
    node.declaration.flatMap Statement.words = node.words := by
  obtain ⟨name, kind, dataType, mandatory, description, children⟩ := node
  cases dataType <;> cases mandatory <;> cases description <;> rfl

theorem Node.flatMap_texts_declaration (node : Node) :
    node.declaration.flatMap Statement.texts = node.texts := by
  obtain ⟨name, kind, dataType, mandatory, description, children⟩ := node
  cases dataType <;> cases mandatory <;> cases description <;> rfl

namespace Module

theorem flatMap_words_statements (m : Module) :
    m.statements.flatMap Statement.words = m.words := by
  rw [flatMap_statements rfl, words]
  simp [Statement.words, Node.flatMap_words_declaration]

theorem flatMap_texts_statements (m : Module) :
    m.statements.flatMap Statement.texts = m.texts := by
  have hnone (names : List String) : names.flatMap (fun _ => ([] : List String)) = [] :=
    List.flatMap_eq_nil_iff.mpr fun _ _ => rfl
  rw [flatMap_statements rfl, texts]
  simp [Statement.texts, Node.flatMap_texts_declaration, hnone]

theorem mem_words {m : Module} {statement : Statement} (hs : statement ∈ m.statements)
    {word : String} (h : word ∈ statement.words) : word ∈ m.words :=
  m.flatMap_words_statements ▸ List.mem_flatMap.mpr ⟨statement, hs, h⟩

theorem mem_texts {m : Module} {statement : Statement} (hs : statement ∈ m.statements)
    {text : String} (h : text ∈ statement.texts) : text ∈ m.texts :=
  m.flatMap_texts_statements ▸ List.mem_flatMap.mpr ⟨statement, hs, h⟩

end Module

end YangCheck
