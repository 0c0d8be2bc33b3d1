import YangCheck.File.Policy

/-! The lines of a file that are asked for one at a time. -/

namespace YangCheck

/-- Bytes that are still to be read, in the chunks that they will come in. An empty chunk is the end
of them, as is no chunk. -/
structure LineCursor where
  chunks : List (List UInt8)
  afterReturn : Bool := false

namespace LineCursor

/-- The bytes that can be looked at; none at the end. -/
def atHand (cursor : LineCursor) : List UInt8 :=
  cursor.chunks.headD []

/-- Takes away the first `n` of the bytes at hand. -/
def skip (cursor : LineCursor) (n : Nat) : LineCursor :=
  match cursor.chunks with
  | [] => cursor
  | chunk :: rest =>
    { cursor with chunks := if n < chunk.length then chunk.drop n :: rest else rest }

def forgetReturn (cursor : LineCursor) : LineCursor :=
  { cursor with afterReturn := false }

def isMark (b : UInt8) : Bool :=
  b == LineReader.lineFeed || b == LineReader.carriageReturn

theorem length_skip_lt {cursor : LineCursor} {n : Nat} (hn : 0 < n)
    (h : n ≤ cursor.atHand.length) :
    (cursor.skip n).chunks.flatten.length < cursor.chunks.flatten.length := by
  obtain ⟨chunks, afterReturn⟩ := cursor
  cases chunks with
  | nil => exact absurd h (Nat.not_le.mpr hn)
  | cons chunk rest =>
    have hchunk : n ≤ chunk.length := h
    by_cases hlt : n < chunk.length
    · simp [skip, hlt]
      omega
    · simp [skip, hlt]
      omega

/-- Reads to the end of the line that has begun; none where no line is left. -/
def readLine (cursor : LineCursor) (begun : List UInt8) : Option (List UInt8) × LineCursor :=
  match _h : cursor.atHand with
  | [] => (if begun.isEmpty then none else some begun, cursor)
  | b :: behind =>
    if cursor.afterReturn && b == LineReader.lineFeed then
      (cursor.forgetReturn.skip 1).readLine begun
    else
      let front := (b :: behind).takeWhile (!isMark ·)
      match (b :: behind).dropWhile (!isMark ·) with
      | [] => (cursor.forgetReturn.skip (behind.length + 1)).readLine (begun ++ front)
      | mark :: _ =>
        (some (begun ++ front),
          { cursor.skip (front.length + 1) with
            afterReturn := mark == LineReader.carriageReturn })
termination_by cursor.chunks.flatten.length
decreasing_by
  all_goals
    refine length_skip_lt (Nat.succ_pos _) ?_
    rw [show cursor.forgetReturn.atHand = b :: behind from ‹_›]
    simp

end LineCursor

/-- A file that is read line by line, as far as its first line that is not UTF-8. -/
structure SourceLines where
  path : String
  cursor : LineCursor
  linesRead : Nat := 0
  finished : Bool := false

namespace SourceLines

def ofChunks (path : String) (chunks : List ByteArray) : SourceLines :=
  { path, cursor := { chunks := chunks.map (·.data.toList) } }

/-- What a call gives: a line, the error that ends the reading, or nothing. -/
abbrev Item := Option (Except FileError String)

def next (source : SourceLines) : Item × SourceLines :=
  if source.finished then (none, source)
  else
    match source.cursor.readLine [] with
    | (none, cursor) => (none, { source with cursor, finished := true })
    | (some line, cursor) =>
      match Text.decodeUtf8 line.toByteArray with
      | .ok text => (some (.ok text), { source with cursor, linesRead := source.linesRead + 1 })
      | .error _ =>
        (some (.error (.invalidEncoding source.path)), { source with cursor, finished := true })

/-- What so many calls give, and what is left behind them. -/
def calls (source : SourceLines) : Nat → List Item × SourceLines
  | 0 => ([], source)
  | count + 1 =>
    let (item, later) := source.next
    let (items, last) := later.calls count
    (item :: items, last)

end SourceLines

end YangCheck
