namespace YangCheck.Text

/-- Where bytes stop being UTF-8: the index of the first byte of the broken character, and how many
of its bytes were read; none where the bytes ended inside it. -/
structure Utf8Fault where
  index : Nat
  length : Option Nat
deriving DecidableEq, Repr

namespace Utf8Fault

def message (fault : Utf8Fault) : String :=
  match fault.length with
  | some n => s!"invalid utf-8 sequence of {n} bytes from index {fault.index}"
  | none => s!"incomplete utf-8 byte sequence from index {fault.index}"

/-- For a byte that begins a character: how many bytes it is owed, and the range of the first. -/
def owedBy (b : UInt8) : Option (Nat × UInt8 × UInt8) :=
  if b < 0x80 then some (0, 0x80, 0xBF)
  else if b < 0xC2 then none
  else if b < 0xE0 then some (1, 0x80, 0xBF)
  else if b = 0xE0 then some (2, 0xA0, 0xBF)
  else if b = 0xED then some (2, 0x80, 0x9F)
  else if b < 0xF0 then some (2, 0x80, 0xBF)
  else if b = 0xF0 then some (3, 0x90, 0xBF)
  else if b < 0xF4 then some (3, 0x80, 0xBF)
  else if b = 0xF4 then some (3, 0x80, 0x8F)
  else none

/-- Reads on inside the character that began at `start`, after `seen` of its bytes, with `owed` to
come and the next of them between `low` and `high`. -/
def scan (start seen owed : Nat) (low high : UInt8) : List UInt8 → Option Utf8Fault
  | [] => if owed = 0 then none else some ⟨start, none⟩
  | b :: rest =>
    if owed = 0 then
      match owedBy b with
      | none => some ⟨start, some 1⟩
      | some (0, _, _) => scan (start + 1) 0 0 0x80 0xBF rest
      | some (n, l, h) => scan start 1 n l h rest
    else if low ≤ b && b ≤ high then
      if owed = 1 then scan (start + seen + 1) 0 0 0x80 0xBF rest
      else scan start (seen + 1) (owed - 1) 0x80 0xBF rest
    else some ⟨start, some seen⟩

def find? (bytes : List UInt8) : Option Utf8Fault :=
  scan 0 0 0 0x80 0xBF bytes

end Utf8Fault

/-- The text that the bytes spell, or the place where they stop being UTF-8. -/
def decodeUtf8 (bytes : ByteArray) : Except Utf8Fault String :=
  match String.fromUTF8? bytes with
  | some text => .ok text
  | none => .error ((Utf8Fault.find? bytes.data.toList).getD ⟨0, none⟩)

/-- The end of the last whole character within the first `limit` bytes. -/
def boundaryWithin (s : String) : Nat → Nat
  | 0 => 0
  | n + 1 => if String.Pos.Raw.isValid s ⟨n + 1⟩ then n + 1 else boundaryWithin s n

/-- The longest front of `s` made of whole characters and of at most `limit` bytes. -/
def frontWithin (s : String) (limit : Nat) : String :=
  String.Pos.Raw.extract s 0 ⟨boundaryWithin s limit⟩

end YangCheck.Text
