import YangCheck.Statement.Basic
import YangCheck.Text.Blank

/-! A module as YANG text, one statement a line, and which modules can be written so. -/

namespace YangCheck

namespace Node

mutual

/-- The statements that declare a node and all below it. -/
def statements : Node → List Statement
  | ⟨name, kind, dataType, mandatory, description, children⟩ =>
    .openNode kind name ::
      (dataType.toList.map .setType ++ mandatory.toList.map .setMandatory ++
        description.toList.map .setDescription ++ statementsOfAll children ++ [.close])

def statementsOfAll : List Node → List Statement
  | [] => []
  | node :: rest => statements node ++ statementsOfAll rest

end

end Node

namespace Module

def statements (m : Module) : List Statement :=
  .openModule m.name ::
    (m.namespaceUri.toList.map .setNamespace ++ m.prefixName.toList.map .setPrefix ++
      m.imports.flatMap (fun name => [.openImport name, .close]) ++
      Node.statementsOfAll m.nodes ++ [.close])

def sourceLines (m : Module) : List String :=
  m.statements.map Statement.line

def source (m : Module) : String :=
  String.join (m.sourceLines.map (· ++ "\n"))

end Module

/-- Whether a text can stand where a statement takes a word. -/
def Text.isWord (text : String) : Bool :=
  !text.isEmpty && text.toList.all fun c => !isBlank c

/-- Whether a text can stand between quotes on one line. -/
def Text.isQuotable (text : String) : Bool :=
  !text.isEmpty && text.toList.all fun c => c != '"' && c != '\r' && c != '\n'

mutual

/-- Whether the texts of a node, and of all below it, can stand in its statements. -/
def Node.isWellFormed : Node → Bool
  | ⟨name, _, dataType, _, description, children⟩ =>
    Text.isWord name && dataType.all Text.isWord && description.all Text.isQuotable &&
      Node.areWellFormed children

def Node.areWellFormed : List Node → Bool
  | [] => true
  | node :: rest => Node.isWellFormed node && Node.areWellFormed rest

end

def Module.isWellFormed (m : Module) : Bool :=
  Text.isWord m.name && m.namespaceUri.all Text.isQuotable && m.prefixName.all Text.isWord &&
    m.imports.all Text.isWord && Node.areWellFormed m.nodes

end YangCheck
