import YangCheck.Sink

namespace YangCheck.Sink

theorem bytesOf_append (a b : String) : bytesOf (a ++ b) = bytesOf a ++ bytesOf b := by
  rw [bytesOf, bytesOf, bytesOf, String.toUTF8, String.toUTF8, String.toUTF8,
    String.toByteArray_append, ByteArray.data_append]

/-- Writes pieces of a text until one is not taken whole. -/
def writeAll (sink : Sink) : List String → Sink × Bool
  | [] => (sink, true)
  | piece :: rest =>
    match sink.write piece with
    | (sink, true) => sink.writeAll rest
    | (sink, false) => (sink, false)

theorem write_empty (sink : Sink) : sink.write "" = (sink, true) := by
  have hempty : bytesOf "" = #[] := rfl
  obtain ⟨capacity, written⟩ := sink
  cases capacity with
  | none => simp [write, hempty]
  | some capacity => simp [write, hempty]

theorem write_append (sink : Sink) (a b : String) :
    sink.write (a ++ b) =
      match sink.write a with
      | (sink, true) => sink.write b
      | (sink, false) => (sink, false) := by
  obtain ⟨capacity, written⟩ := sink
  cases capacity with
  | none => simp only [write, bytesOf_append, Array.append_assoc]
  | some capacity =>
    by_cases hroom : (bytesOf a).size ≤ capacity - written.size
    · have hleft : capacity - written.size - (bytesOf a).size =
          capacity - (written.size + (bytesOf a).size) := Nat.sub_sub ..
      have hfits : (bytesOf a).size + (bytesOf b).size ≤ capacity - written.size ↔
          (bytesOf b).size ≤ capacity - (written.size + (bytesOf a).size) := by omega
      simp [write, bytesOf_append, hroom, hleft, hfits]
    · have hleft : capacity - written.size - (bytesOf a).size = 0 := by omega
      have hfits : capacity - written.size < (bytesOf a).size + (bytesOf b).size := by omega
      simp [write, bytesOf_append, hroom, hleft, hfits]

theorem writeAll_eq (sink : Sink) (pieces : List String) :
    sink.writeAll pieces = sink.write (String.join pieces) := by
  induction pieces generalizing sink with
  | nil => exact sink.write_empty.symm
  | cons piece rest ih =>
    rw [String.join_cons, write_append, writeAll]
    rcases sink.write piece with ⟨sink, _ | _⟩
    · rfl
    · exact ih sink

theorem writeLines_eq (sink : Sink) (lines : List String) :
    sink.writeLines lines = sink.write (String.join (lines.map (· ++ "\n"))) := by
  rw [← writeAll_eq]
  induction lines generalizing sink with
  | nil => rfl
  | cons line rest ih =>
    rw [List.map_cons, writeAll, writeLines]
    rcases sink.write (line ++ "\n") with ⟨sink, _ | _⟩
    · rfl
    · exact ih sink

theorem write_unlimited (text : String) :
    ({} : Sink).write text = ({ written := bytesOf text }, true) := by
  simp [write]

theorem write_capacity (n : Nat) (text : String) :
    ({ capacity := some n } : Sink).write text =
      ({ capacity := some n, written := (bytesOf text).take n },
        decide ((bytesOf text).size ≤ n)) := by
  simp [write]

end YangCheck.Sink
