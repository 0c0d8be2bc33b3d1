import YangCheck.Proofs.Inspection.Modes

namespace YangCheck

open Log Lint

section Lint

variable [Limits] {disk : Disk} {path : String} {error : FileError}

theorem Lint.eq_invalidEncoding_of_checkFile {place : List String} {content : ByteArray}
    (hfile : disk.file? path = some (place, content))
    (h : (checkFile disk path).value = .error error) :
    error = .invalidEncoding (Path.ofNames place) := by
  rw [value_checkFile hfile] at h
  split at h
  · exact (Except.error.inj h).symm
  · cases h

theorem Lint.checkFile_of_validateFile_error {sink : Sink}
    (h : (validateFile disk path sink).value.1 = .error (.file error)) :
    (checkFile disk path).value = .error error := by
  rw [value_validateFile] at h
  dsimp only at h
  split at h
  · exact verdict_eq_file_iff.mp h
  · cases h

end Lint

namespace Inspection

variable [Limits] {disk : Disk} {policy : FilePolicy} {mode : Mode} {path : String}
  {place : List String} {content : ByteArray} {sink : Sink} {error : FileError}

theorem eq_invalidEncoding_of_validateHalf (hfile : disk.file? path = some (place, content))
    (h : (validateHalf disk mode path sink).value.1 = .error (.file error)) :
    error = .invalidEncoding (Path.ofNames place) := by
  cases hmode : mode.validates with
  | false =>
    rw [validateHalf, hmode] at h
    cases h
  | true =>
    rw [value_validateHalf hmode] at h
    cases hvalidate : (validateFile disk path sink).value.1 with
    | ok report =>
      rw [hvalidate] at h
      cases h
    | error failure =>
      rw [hvalidate] at h
      cases failure with
      | file failure =>
        cases h
        exact eq_invalidEncoding_of_checkFile hfile (checkFile_of_validateFile_error hvalidate)
      | failed errors => cases h
      | output reason => cases h

theorem eq_invalidEncoding_of_buildHalf (hfile : disk.file? path = some (place, content))
    (h : (buildHalf disk mode path).value = .error (.file error)) :
    error = .invalidEncoding (Path.ofNames place) := by
  cases hmode : mode.builds with
  | false =>
    rw [buildHalf, hmode] at h
    cases h
  | true =>
    rw [buildHalf, if_pos hmode, Traced.value_bind, Module.value_ofFile hfile] at h
    revert h
    rcases LineReader.decode (LineReader.chunksOf content) with ⟨texts, _ | fault⟩
    · intro h
      dsimp only at h
      cases hmodule : Module.ofLines texts with
      | none =>
        rw [hmodule] at h
        cases h
      | some m =>
        rw [hmodule] at h
        cases h
    · intro h
      cases h
      rfl

/-- Once the policy has taken a file, only its encoding is held against it as a file. -/
theorem check_or_invalidEncoding_of_steps (hfile : disk.file? path = some (place, content))
    (h : (steps disk policy mode path sink).value.1 = .error (.file error)) :
    (policy.check disk path).value = .error error ∨
      error = .invalidEncoding (Path.ofNames place) := by
  cases hpolicy : (policy.check disk path).value with
  | error refusal =>
    rw [value_steps_of_refused hpolicy] at h
    cases h
    exact .inl rfl
  | ok info =>
    right
    rw [value_steps_of_taken hpolicy] at h
    cases hvalidate : (validateHalf disk mode path sink).value with
    | mk outcome written =>
      rw [hvalidate] at h
      cases outcome with
      | error failure =>
        cases h
        exact eq_invalidEncoding_of_validateHalf hfile (congrArg Prod.fst hvalidate)
      | ok report =>
        cases hbuild : (buildHalf disk mode path).value with
        | error failure =>
          rw [hbuild] at h
          cases h
          exact eq_invalidEncoding_of_buildHalf hfile hbuild
        | ok m =>
          rw [hbuild] at h
          cases h

end Inspection

end YangCheck
