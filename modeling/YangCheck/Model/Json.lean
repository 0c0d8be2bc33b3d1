import YangCheck.Json.Parser
import YangCheck.Model.Basic

namespace YangCheck

/-- A field that is left out where it has no value. -/
def Json.optionalField {α : Type} (name : String) (encode : α → Json) (value : Option α) :
    List (String × Json) :=
  value.elim [] fun a => [(name, encode a)]

/-- A field that may be missing or null. -/
def Json.optional? {α : Type} (decode : Json → Option α) : Option Json → Option (Option α)
  | none => some none
  | some .null => some none
  | some json => (decode json).map some

namespace Node

def ownFields (node : Node) : List (String × Json) :=
  [("name", Json.ofString node.name), ("kind", Json.ofString node.kind.keyword)] ++
    Json.optionalField "type" Json.ofString node.dataType ++
    Json.optionalField "mandatory" Json.bool node.mandatory ++
    Json.optionalField "description" Json.ofString node.description

mutual

/-- Absent fields and empty children are left out. -/
def toJson : Node → Json
  | ⟨name, kind, dataType, mandatory, description, []⟩ =>
    Json.ofFields (ownFields ⟨name, kind, dataType, mandatory, description, []⟩)
  | ⟨name, kind, dataType, mandatory, description, node :: rest⟩ =>
    Json.ofFields (ownFields ⟨name, kind, dataType, mandatory, description, []⟩ ++
      [("children", .array (toJson node :: toJsons rest))])

def toJsons : List Node → List Json
  | [] => []
  | node :: rest => toJson node :: toJsons rest

end

end Node

namespace Module

def toJson (m : Module) : Json :=
  Json.ofFields ([("name", Json.ofString m.name)] ++
    Json.optionalField "namespace" Json.ofString m.namespaceUri ++
    Json.optionalField "prefix" Json.ofString m.prefixName ++
    [("imports", .array (m.imports.map Json.ofString)), ("nodes", .array (Node.toJsons m.nodes))])

end Module

/-- How many arrays and objects may stand inside each other around a value that is read. -/
def Json.maxNesting : Nat := 127

/-- A kind is its keyword, or an object whose only key is the keyword and holds null. -/
def NodeKind.ofJson? (nesting : Nat) : Json → Option NodeKind
  | .string literal => (Json.unescape? literal).bind NodeKind.ofKeyword?
  | .object [(key, .null)] =>
    if nesting = 0 then none else (Json.unescape? key).bind NodeKind.ofKeyword?
  | _ => none

mutual

/-- Reads a node with `nesting` levels left. -/
def Node.ofJson? : Nat → Json → Option Node
  | 0, _ => none
  | nesting + 1, json => do
    match ← json.record? ["name", "kind", "type", "mandatory", "description", "children"] with
    | [some name, some kind, dataType, mandatory, description, children] =>
      return {
        name := ← name.text?
        kind := ← NodeKind.ofJson? nesting kind
        dataType := ← Json.optional? Json.text? dataType
        mandatory := ← Json.optional? Json.flag? mandatory
        description := ← Json.optional? Json.text? description
        children := ← Node.listOfJson? nesting children }
    | _ => none

def Node.listOfJson? : Nat → Option Json → Option (List Node)
  | _, none => some []
  | nesting + 1, some (.array items) => items.mapM (Node.ofJson? nesting)
  | _, some _ => none

end

def Json.texts? : Option Json → Option (List String)
  | none => some []
  | some (.array items) => items.mapM Json.text?
  | some _ => none

namespace Module

def ofJson? (json : Json) : Option Module := do
  match ← json.record? ["name", "namespace", "prefix", "imports", "nodes"] with
  | [some name, namespaceUri, prefixName, imports, nodes] =>
    return {
      name := ← name.text?
      namespaceUri := ← Json.optional? Json.text? namespaceUri
      prefixName := ← Json.optional? Json.text? prefixName
      imports := ← Json.texts? imports
      nodes := ← Node.listOfJson? (Json.maxNesting - 1) nodes }
  | _ => none

def ofText? (text : String) : Option Module :=
  (Json.parse? text).bind ofJson?

end Module

end YangCheck
