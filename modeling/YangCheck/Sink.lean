namespace YangCheck

/-- Takes written bytes, up to a capacity where it has one. -/
structure Sink where
  capacity : Option Nat := none
  written : Array UInt8 := #[]
deriving DecidableEq, Repr

namespace Sink

def fullMessage : String := "sink full"

def bytesOf (text : String) : Array UInt8 :=
  text.toUTF8.data

/-- Writes as many bytes as there is room for; says whether all were taken. -/
def write (sink : Sink) (text : String) : Sink × Bool :=
  let bytes := bytesOf text
  match sink.capacity with
  | none => ({ sink with written := sink.written ++ bytes }, true)
  | some capacity =>
    let room := capacity - sink.written.size
    ({ sink with written := sink.written ++ bytes.take room }, bytes.size ≤ room)

/-- Writes lines until one is not taken. -/
def writeLines (sink : Sink) : List String → Sink × Bool
  | [] => (sink, true)
  | line :: rest =>
    match sink.write (line ++ "\n") with
    | (sink, true) => sink.writeLines rest
    | (sink, false) => (sink, false)

/-- The written text. A character that was cut shows as one replacement character. -/
def text (sink : Sink) : String :=
  let front (dropped : Nat) : Option String :=
    String.fromUTF8? ⟨sink.written.take (sink.written.size - dropped)⟩
  match front 0 with
  | some text => text
  | none =>
    match front 1 <|> front 2 <|> front 3 with
    | some text => text.push '\ufffd'
    | none => ""

end Sink

end YangCheck
