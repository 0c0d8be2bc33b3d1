import YangCheck.Model.Basic

namespace YangCheck

/-- What one line of a YANG file says. -/
inductive Statement where
  | openModule (name : String)
  | setNamespace (uri : String)
  | setPrefix (name : String)
  | openImport (name : String)
  | openNode (kind : NodeKind) (name : String)
  | setType (name : String)
  | setMandatory (value : Bool)
  | setDescription (text : String)
  | close
deriving DecidableEq, Repr

namespace Statement

def keyword : Statement → String
  | .openModule _ => "module"
  | .setNamespace _ => "namespace"
  | .setPrefix _ => "prefix"
  | .openImport _ => "import"
  | .openNode kind _ => kind.keyword
  | .setType _ => "type"
  | .setMandatory _ => "mandatory"
  | .setDescription _ => "description"
  | .close => "\x7d"

def editsNode : Statement → Bool
  | .setType _ | .setMandatory _ | .setDescription _ => true
  | _ => false

def opens : Statement → Bool
  | .openModule _ | .openImport _ | .openNode _ _ => true
  | _ => false

def isModule : Statement → Bool
  | .openModule _ => true
  | _ => false

/-- The statement without the mark that ends it. -/
def render : Statement → String
  | .openModule name => "module " ++ name
  | .setNamespace uri => "namespace \"" ++ uri ++ "\""
  | .setPrefix name => "prefix " ++ name
  | .openImport name => "import " ++ name
  | .openNode kind name => kind.keyword ++ " " ++ name
  | .setType name => "type " ++ name
  | .setMandatory value => s!"mandatory {value}"
  | .setDescription text => "description \"" ++ text ++ "\""
  | .close => "\x7d"

/-- The whole line that says it. -/
def line (statement : Statement) : String :=
  if statement.opens then statement.render ++ " \x7b"
  else if statement = .close then statement.render
  else statement.render ++ ";"

end Statement

end YangCheck
