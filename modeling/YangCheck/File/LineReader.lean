import YangCheck.Text.Utf8

namespace YangCheck

/-- Cuts bytes into lines as they come in. A line feed right behind a carriage return belongs to the
end of the line in front. -/
structure LineReader where
  lines : Array ByteArray := #[]
  pending : ByteArray := .empty
  afterReturn : Bool := false

namespace LineReader

def lineFeed : UInt8 := 10

def carriageReturn : UInt8 := 13

def step (r : LineReader) (b : UInt8) : LineReader :=
  match r with
  | ⟨lines, pending, afterReturn⟩ =>
    if b = lineFeed then
      if afterReturn then ⟨lines, pending, false⟩ else ⟨lines.push pending, .empty, false⟩
    else if b = carriageReturn then ⟨lines.push pending, .empty, true⟩
    else ⟨lines, pending.push b, false⟩

def feed (r : LineReader) (chunk : ByteArray) : LineReader :=
  chunk.data.foldl step r

/-- All lines, with the one that no mark ended. -/
def finish (r : LineReader) : List ByteArray :=
  if r.pending.isEmpty then r.lines.toList else (r.lines.push r.pending).toList

def linesOf (chunks : List ByteArray) : List ByteArray :=
  (chunks.foldl feed {}).finish

/-- The texts of the lines up to the first that is not UTF-8, and the fault in that one. -/
def decodeFrom (texts : Array String) : List ByteArray → List String × Option Text.Utf8Fault
  | [] => (texts.toList, none)
  | line :: rest =>
    match Text.decodeUtf8 line with
    | .ok text => decodeFrom (texts.push text) rest
    | .error fault => (texts.toList, some fault)

def decode (chunks : List ByteArray) : List String × Option Text.Utf8Fault :=
  decodeFrom #[] (linesOf chunks)

def chunkSize : Nat := 8192

def chunksOf (content : ByteArray) : List ByteArray :=
  (List.range ((content.size + chunkSize - 1) / chunkSize)).map fun i =>
    content.extract (i * chunkSize) ((i + 1) * chunkSize)

end LineReader

end YangCheck
