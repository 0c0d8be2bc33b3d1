import YangCheck.Lint.File
import YangCheck.Outline.File
import YangCheck.Proofs.File.Policy
import YangCheck.Proofs.File.SourceLines

namespace YangCheck

open LineReader

namespace LineReader

variable {content : ByteArray} {chunks : List ByteArray}

theorem decode_eq (h : Chunking content chunks) :
    decode chunks = decodeFrom #[] (byteLines content) := by
  rw [decode, linesOf_eq h]

theorem decode_of_text {text : String} (h : Chunking text.toByteArray chunks) :
    decode chunks = (Text.lines text, none) := by
  have hall := decodeFrom_append (Text.lines text) []
  rw [decode_eq h, byteLines_toByteArray]
  simpa [decodeFrom] using hall

theorem decode_of_invalid (h : Chunking content chunks) {texts : List String} {bad : ByteArray}
    {after : List ByteArray}
    (hlines : byteLines content = texts.map String.toByteArray ++ bad :: after)
    (hbad : String.fromUTF8? bad = none) : ∃ fault, decode chunks = (texts, some fault) := by
  obtain ⟨fault, hfault⟩ := decodeUtf8_error hbad
  refine ⟨fault, ?_⟩
  rw [decode_eq h, hlines, decodeFrom_append, decodeFrom, hfault]
  simp

end LineReader

namespace SourceLines

theorem calls_ofChunks {content : ByteArray} {chunks : List ByteArray}
    (h : Chunking content chunks) (path : String) (count : Nat) :
    ((ofChunks path chunks).calls count).1 =
        answers (decode chunks).1 ((decode chunks).2.map fun _ => .invalidEncoding path) count ∧
      ((ofChunks path chunks).calls count).2.linesRead = min count (decode chunks).1.length := by
  have hready : (ofChunks path chunks).cursor.Ready := by
    intro chunk hchunk
    obtain ⟨bytes, hbytes, rfl⟩ := List.mem_map.mp hchunk
    exact h.nonempty bytes hbytes
  have hleft : ((ofChunks path chunks).cursor.linesLeft []).map List.toByteArray =
      byteLines content := by
    rw [byteLines, ← h.joined, List.flatMap_def]
    rfl
  have hcalls := calls_spec hready rfl count (Prod.ext rfl rfl)
  rw [hleft, ← decode_eq h] at hcalls
  simpa [ofChunks] using hcalls

end SourceLines

section Files

variable [Limits] {disk : Disk} {path : String} {place : List String} {content : ByteArray}

theorem FilePolicy.value_inspect_unrestricted (h : disk.file? path = some (place, content)) :
    (FilePolicy.unrestricted.inspect disk path).value =
      .ok (describe (Path.ofNames place) content, content) := by
  simp [inspect, value_locate h, judge, unrestricted]

theorem FilePolicy.value_read_unrestricted (h : disk.file? path = some (place, content)) :
    (FilePolicy.unrestricted.read disk path).value =
      .ok {
        info := describe (Path.ofNames place) content
        lines := (decode (chunksOf content)).1
        fault := (decode (chunksOf content)).2 } := by
  simp [read, value_inspect_unrestricted h]

theorem Module.value_ofFile (h : disk.file? path = some (place, content)) :
    (Module.ofFile disk path).value =
      match decode (chunksOf content) with
      | (_, some _) => .error (.invalidEncoding (Path.ofNames place))
      | (texts, none) => .ok (Module.ofLines texts) := by
  simp only [ofFile, Log.Traced.value_bind, FilePolicy.value_read_unrestricted h, Source.error?]
  rcases decode (chunksOf content) with ⟨texts, _ | fault⟩ <;> rfl

theorem Lint.value_checkFile (h : disk.file? path = some (place, content)) :
    (checkFile disk path).value =
      match decode (chunksOf content) with
      | (_, some _) => .error (.invalidEncoding (Path.ofNames place))
      | (texts, none) => .ok (Checker.feedAll {} texts).finish := by
  simp only [checkFile, Log.Traced.value_bind, FilePolicy.value_read_unrestricted h, Source.error?]
  rcases decode (chunksOf content) with ⟨texts, _ | fault⟩ <;> rfl

end Files

/-- Bytes that spell a text are read as the lines of that text, whatever chunks they come in, and a
file of them counts as the text, whatever its name and its size. Other bytes are read up to their
first line that is not UTF-8; then comes one error and nothing more, and a file of them fails. -/
theorem streaming_agrees_with_text [Limits] {content : ByteArray} {chunks : List ByteArray}
    (h : Chunking content chunks) :
    (∀ text, String.fromUTF8? content = some text →
      decode chunks = (Text.lines text, none) ∧
      (∀ path count,
        ((SourceLines.ofChunks path chunks).calls count).1 =
          SourceLines.answers (Text.lines text) none count ∧
        ((SourceLines.ofChunks path chunks).calls count).2.linesRead =
          min count (Text.lines text).length) ∧
      ∀ disk path place, Disk.file? disk path = some (place, content) →
        (Module.ofFile disk path).value = .ok (Module.ofSource text) ∧
        (Lint.checkFile disk path).value = .ok (Lint.checkSource text)) ∧
    (String.fromUTF8? content = none →
      ∃ (texts : List String) (bad : ByteArray) (after : List ByteArray),
        byteLines content = texts.map String.toByteArray ++ bad :: after ∧
        String.fromUTF8? bad = none ∧
        (decode chunks).1 = texts ∧ (decode chunks).2.isSome ∧
        (∀ path count,
          ((SourceLines.ofChunks path chunks).calls count).1 =
            SourceLines.answers texts (some (.invalidEncoding path)) count ∧
          ((SourceLines.ofChunks path chunks).calls count).2.linesRead =
            min count texts.length) ∧
        ∀ disk path place, Disk.file? disk path = some (place, content) →
          (Module.ofFile disk path).value = .error (.invalidEncoding (Path.ofNames place)) ∧
          (Lint.checkFile disk path).value =
            .error (.invalidEncoding (Path.ofNames place))) := by
  refine ⟨fun text htext => ?_, fun hnone => ?_⟩
  · obtain rfl := Text.fromUTF8?_eq_some_iff.mp htext
    have hdecode := decode_of_text h
    refine ⟨hdecode, fun path count => ?_, fun disk path place hfile => ?_⟩
    · have hcalls := SourceLines.calls_ofChunks h path count
      rw [hdecode] at hcalls
      exact hcalls
    · have hwhole := decode_of_text (chunking_chunksOf text.toByteArray)
      rw [Module.value_ofFile hfile, Lint.value_checkFile hfile, hwhole]
      exact ⟨rfl, rfl⟩
  · obtain ⟨texts, bad, after, hlines, hbad⟩ := exists_invalid_line hnone
    obtain ⟨fault, hdecode⟩ := decode_of_invalid h hlines hbad
    refine ⟨texts, bad, after, hlines, hbad, by rw [hdecode], by rw [hdecode]; rfl,
      fun path count => ?_, fun disk path place hfile => ?_⟩
    · have hcalls := SourceLines.calls_ofChunks h path count
      rw [hdecode] at hcalls
      exact hcalls
    · obtain ⟨fault', hwhole⟩ := decode_of_invalid (chunking_chunksOf content) hlines hbad
      rw [Module.value_ofFile hfile, Lint.value_checkFile hfile, hwhole]
      exact ⟨rfl, rfl⟩

theorem streaming_of_split_mark :
    (Chunking ⟨#[97, 13, 10, 98]⟩ [⟨#[97, 13]⟩, ⟨#[10, 98]⟩] ∧
      decode [⟨#[97, 13]⟩, ⟨#[10, 98]⟩] = (Text.lines "a\r\nb", none) ∧
      (Module.ofFile { root := [("a", .file ⟨#[97, 13, 10, 98]⟩)] } "a").value =
        .ok (Module.ofSource "a\r\nb")) ∧
    Chunking ⟨#[97, 10, 255]⟩ [⟨#[97]⟩, ⟨#[10, 255]⟩] ∧
      (Module.ofFile { root := [("a", .file ⟨#[97, 10, 255]⟩)] } "a").value =
        .error (.invalidEncoding (Path.ofNames ["a"])) := by
  have hsplit : Chunking ⟨#[97, 13, 10, 98]⟩ [⟨#[97, 13]⟩, ⟨#[10, 98]⟩] := ⟨by decide, by decide⟩
  have hbroken : Chunking ⟨#[97, 10, 255]⟩ [⟨#[97]⟩, ⟨#[10, 255]⟩] := ⟨by decide, by decide⟩
  have htext : String.fromUTF8? ⟨#[97, 13, 10, 98]⟩ = some "a\r\nb" := rfl
  obtain ⟨hdecode, -, hfile⟩ := (streaming_agrees_with_text hsplit).1 "a\r\nb" htext
  obtain ⟨_, _, _, -, -, -, -, -, hfails⟩ := (streaming_agrees_with_text hbroken).2 (by decide)
  refine ⟨⟨hsplit, hdecode, (hfile _ _ ["a"] ?_).1⟩, hbroken, (hfails _ _ ["a"] ?_).1⟩
  · exact Disk.file?_name rfl (by decide) rfl (by decide)
  · exact Disk.file?_name rfl (by decide) rfl (by decide)

end YangCheck
