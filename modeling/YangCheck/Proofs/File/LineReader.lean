import YangCheck.File.LineReader
import YangCheck.Proofs.Text.Utf8

namespace YangCheck

open Text

namespace LineReader

/-- The lines of bytes that are all there. -/
def byteLines (content : ByteArray) : List ByteArray :=
  (cut lineFeed carriageReturn false [] content.data.toList).map List.toByteArray

/-- The chunks that bytes can come in. -/
structure Chunking (content : ByteArray) (chunks : List ByteArray) : Prop where
  nonempty : ∀ chunk ∈ chunks, chunk.data.toList ≠ []
  joined : chunks.flatMap (·.data.toList) = content.data.toList

theorem toByteArray_toList (bytes : ByteArray) : bytes.data.toList.toByteArray = bytes := by
  apply ByteArray.ext
  simp

theorem finish_foldl_step (r : LineReader) (bytes : List UInt8) :
    (bytes.foldl step r).finish = r.lines.toList ++
      (cut lineFeed carriageReturn r.afterReturn r.pending.data.toList.reverse bytes).map
        List.toByteArray := by
  induction bytes generalizing r with
  | nil =>
    have hempty : r.pending.data.toList.reverse.isEmpty = r.pending.isEmpty := by
      rw [List.isEmpty_reverse, Array.isEmpty_toList]
      rfl
    rw [List.foldl_nil, finish, cut, hempty]
    split
    · simp
    · simp [toByteArray_toList]
  | cons b bytes ih =>
    obtain ⟨lines, pending, afterReturn⟩ := r
    rw [List.foldl_cons, ih, step, cut]
    split
    · cases afterReturn with
      | false => simp [toByteArray_toList]
      | true => simp
    · split
      · simp [toByteArray_toList]
      · simp

theorem foldl_feed (r : LineReader) (chunks : List ByteArray) :
    chunks.foldl feed r = (chunks.flatMap (·.data.toList)).foldl step r := by
  induction chunks generalizing r with
  | nil => rfl
  | cons chunk chunks ih =>
    rw [List.foldl_cons, ih, List.flatMap_cons, List.foldl_append, feed, ← Array.foldl_toList]

theorem linesOf_eq {content : ByteArray} {chunks : List ByteArray} (h : Chunking content chunks) :
    linesOf chunks = byteLines content := by
  rw [linesOf, foldl_feed, h.joined, finish_foldl_step]
  rfl

theorem byteLines_toByteArray (text : String) :
    byteLines text.toByteArray = (Text.lines text).map String.toByteArray := by
  have hcut : cut lineFeed carriageReturn false [] (encode text.toList) =
      (cut '\n' '\r' false [] text.toList).map encode := cut_encode false [] text.toList
  rw [byteLines, toByteArray_eq_encode, Text.lines_eq_cut, List.data_toByteArray,
    List.toList_toArray, hcut, List.map_map, List.map_map]
  apply List.map_congr_left
  intro line _
  simp [toByteArray_eq_encode]

/-- Bytes spell a text exactly when each of their lines does. -/
theorem exists_text_iff_byteLines (content : ByteArray) :
    (∃ text : String, content = text.toByteArray) ↔
      ∃ texts : List String, byteLines content = texts.map String.toByteArray := by
  constructor
  · rintro ⟨text, rfl⟩
    exact ⟨Text.lines text, byteLines_toByteArray text⟩
  · rintro ⟨texts, htexts⟩
    have hlines : ∀ line ∈ cut lineFeed carriageReturn false [] content.data.toList,
        ∃ s, line = encode s := by
      intro line hline
      have hmem : line.toByteArray ∈ byteLines content := List.mem_map_of_mem hline
      rw [htexts] at hmem
      obtain ⟨text, -, htext⟩ := List.mem_map.mp hmem
      rw [toByteArray_eq_encode, List.toByteArray_inj] at htext
      exact ⟨text.toList, htext.symm⟩
    obtain ⟨s, hs⟩ := exists_encode_of_cut (fun h => Bool.noConfusion h) hlines
    refine ⟨String.ofList s, ?_⟩
    rw [toByteArray_eq_encode, String.toList_ofList, ← hs]
    exact (toByteArray_toList content).symm

theorem toList_extract (content : ByteArray) (first last : Nat) :
    (content.extract first last).data.toList =
      (content.data.toList.drop first).take (last - first) := by
  rw [ByteArray.data_extract, Array.toList_extract, List.extract_eq_take_drop]

theorem flatMap_range_extract (content : ByteArray) (size count : Nat) :
    ((List.range count).map fun i => content.extract (i * size) ((i + 1) * size)).flatMap
      (·.data.toList) = content.data.toList.take (count * size) := by
  induction count with
  | zero => simp
  | succ count ih =>
    have hwidth : (count + 1) * size - count * size = size := by
      rw [Nat.succ_mul, Nat.add_sub_cancel_left]
    rw [List.range_succ, List.map_append, List.flatMap_append, ih, List.map_singleton,
      List.flatMap_singleton, toList_extract, hwidth, Nat.succ_mul, List.take_add]

theorem chunking_chunksOf (content : ByteArray) : Chunking content (chunksOf content) := by
  constructor
  · intro chunk hchunk hnil
    obtain ⟨i, hi, rfl⟩ := List.mem_map.mp hchunk
    have hcount := List.mem_range.mp hi
    have hsize : content.data.toList.length = content.size := Array.length_toList
    rw [toList_extract, List.take_eq_nil_iff, List.drop_eq_nil_iff, hsize] at hnil
    simp only [chunkSize] at hcount hnil
    omega
  · have hsize : content.data.toList.length = content.size := Array.length_toList
    rw [chunksOf, flatMap_range_extract]
    apply List.take_of_length_le
    simp only [chunkSize]
    omega

theorem decodeUtf8_error {bytes : ByteArray} (h : String.fromUTF8? bytes = none) :
    ∃ fault, decodeUtf8 bytes = .error fault := by
  rw [decodeUtf8, h]
  exact ⟨_, rfl⟩

theorem decodeFrom_eq (texts : Array String) (ls : List ByteArray) :
    decodeFrom texts ls =
      (texts.toList ++ (decodeFrom #[] ls).1, (decodeFrom #[] ls).2) := by
  induction ls generalizing texts with
  | nil => simp [decodeFrom]
  | cons line rest ih =>
    rw [decodeFrom, decodeFrom]
    cases decodeUtf8 line with
    | ok text =>
      simp only
      rw [ih (texts.push text), ih (#[].push text)]
      simp
    | error fault => simp

theorem decodeFrom_cons (text : String) (rest : List ByteArray) :
    decodeFrom #[] (text.toByteArray :: rest) =
      (text :: (decodeFrom #[] rest).1, (decodeFrom #[] rest).2) := by
  have hdecode : decodeUtf8 text.toByteArray = .ok text := decodeUtf8_eq_ok_iff.mpr rfl
  rw [decodeFrom, hdecode]
  exact decodeFrom_eq _ rest

theorem decodeFrom_append (texts : List String) (rest : List ByteArray) :
    decodeFrom #[] (texts.map String.toByteArray ++ rest) =
      (texts ++ (decodeFrom #[] rest).1, (decodeFrom #[] rest).2) := by
  induction texts with
  | nil => rfl
  | cons text texts ih => rw [List.map_cons, List.cons_append, decodeFrom_cons, ih]; rfl

theorem texts_or_invalid (ls : List ByteArray) :
    (∃ texts : List String, ls = texts.map String.toByteArray) ∨
      ∃ (texts : List String) (bad : ByteArray) (after : List ByteArray),
        ls = texts.map String.toByteArray ++ bad :: after ∧ String.fromUTF8? bad = none := by
  induction ls with
  | nil => exact .inl ⟨[], rfl⟩
  | cons line rest ih =>
    cases hline : String.fromUTF8? line with
    | none => exact .inr ⟨[], line, rest, rfl, hline⟩
    | some text =>
      obtain rfl := fromUTF8?_eq_some_iff.mp hline
      rcases ih with ⟨texts, rfl⟩ | ⟨texts, bad, after, rfl, hbad⟩
      · exact .inl ⟨text :: texts, rfl⟩
      · exact .inr ⟨text :: texts, bad, after, rfl, hbad⟩

theorem exists_invalid_line {content : ByteArray} (h : String.fromUTF8? content = none) :
    ∃ (texts : List String) (bad : ByteArray) (after : List ByteArray),
      byteLines content = texts.map String.toByteArray ++ bad :: after ∧
        String.fromUTF8? bad = none := by
  rcases texts_or_invalid (byteLines content) with htexts | hinvalid
  · obtain ⟨text, rfl⟩ := (exists_text_iff_byteLines content).mpr htexts
    rw [fromUTF8?_eq_some_iff.mpr rfl] at h
    cases h
  · exact hinvalid

end LineReader

end YangCheck
