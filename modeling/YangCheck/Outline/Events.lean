import YangCheck.Log.Event
import YangCheck.Outline.Builder

namespace YangCheck

open Log

variable [Limits]

def Rejection.event (rejection : Rejection) (line : Nat) (statement : Statement) : Event :=
  let (code, message) : Code × String :=
    match rejection with
    | .beforeModule => (.statementBeforeModule, "Statement before module header ignored")
    | .repeatedModule => (.repeatedModule, "Additional module header ignored")
    | .noOpenNode => (.noOpenNode, "Sub-statement outside any node ignored")
  (Event.codedDebug code s!"{message}: {statement.render}").atLine line

namespace Outline.Builder

def closingEvent (b : Builder) (line : Nat) : Event :=
  match b.scopes with
  | scope :: _ =>
    (Event.debug "Closed construct").addAll
      [("line", toString line), ("construct", scope.keyword)]
  | [] =>
    (Event.codedDebug .surplusBrace "Closing brace with no open construct ignored").atLine line

/-- What is noted of the next raw line. -/
def eventsOn (b : Builder) (raw : String) : List Event :=
  match (Statement.significant? raw).bind Statement.ofChars? with
  | none => []
  | some statement =>
    let line := b.linesSeen + 1
    match b.position.rejection? statement with
    | some rejection => [rejection.event line statement]
    | none =>
      let applied := (Event.debug "Applying statement").addAll
        [("line", toString line), ("statement", statement.render), ("depth", toString b.depth)]
      if statement = .close then [applied, b.closingEvent line] else [applied]

def eventsOver (lines : List String) : List Event :=
  (lines.foldl (fun (state : Builder × Array Event) raw =>
    let noted := state.2 ++ state.1.eventsOn raw
    (state.1.feed raw, noted)) ({}, #[])).2.toList

def finalEvents (b : Builder) : List Event :=
  match b.finish with
  | none => []
  | some m =>
    [(Event.success .treeBuilt "Module tree built").addAll
      [("module", m.name), ("nodes", toString m.nodeCount), ("imports", toString m.imports.length),
        ("lines", toString b.linesSeen), ("unclosed_constructs", toString b.depth)]]

end Outline.Builder

end YangCheck
