import YangCheck.File.Policy
import YangCheck.Proofs.File.Disk

namespace YangCheck.FilePolicy

open Log

variable [Limits] {disk : Disk} {path : String} {place : List String} {content : ByteArray}

theorem locate_eq_of_find? {entry : Entry} (h : disk.find? path = some (place, entry)) :
    locate disk path =
      match entry with
      | .file content => return .ok (Path.ofNames place, content)
      | _ => fail (.invalidPath path) "Path is not a file" [("path", path)] := by
  have hexists : disk.exists? path = true := by
    rw [Disk.exists?, h]
    rfl
  have hpath : path.isEmpty = false := by
    rw [← Bool.not_eq_true, String.isEmpty_iff]
    exact (Disk.find?_eq_some_iff.mp h).1.1
  cases entry <;> simp [locate, hpath, hexists, Disk.file?, h]

theorem value_locate (h : disk.file? path = some (place, content)) :
    (locate disk path).value = .ok (Path.ofNames place, content) := by
  rw [locate_eq_of_find? (Disk.file?_eq_some_iff.mp h)]
  rfl

theorem exists_file_of_check {policy : FilePolicy} {info : FileInfo}
    (h : (policy.check disk path).value = .ok info) :
    ∃ place content, disk.file? path = some (place, content) := by
  cases hfile : disk.file? path with
  | some found => exact ⟨found.1, found.2, rfl⟩
  | none =>
    have hfails : ∃ error, (locate disk path).value = .error error := by
      rw [locate, hfile]
      split
      · exact ⟨_, rfl⟩
      · split <;> exact ⟨_, rfl⟩
    obtain ⟨error, herror⟩ := hfails
    simp only [check, inspect, Traced.value_bind, herror] at h
    cases h

theorem value_judge (policy : FilePolicy) (info : FileInfo) :
    (policy.judge info).value =
      if policy.enforceSizeLimit && Limits.maxFileSize < info.size then
        .error (.tooLarge info.size Limits.maxFileSize)
      else if policy.requireYangExtension && !info.isYang then
        .error (.invalidExtension info.extension)
      else .ok () := by
  rw [judge]
  split
  · rfl
  · split <;> rfl

theorem value_check (policy : FilePolicy) (h : disk.file? path = some (place, content)) :
    (policy.check disk path).value =
      (policy.judge (describe (Path.ofNames place) content)).value.map fun _ =>
        describe (Path.ofNames place) content := by
  simp only [check, inspect, Traced.value_bind, value_locate h]
  cases (policy.judge (describe (Path.ofNames place) content)).value <;> rfl

/-- The size comes first: a file that is too large is not refused for its extension. -/
theorem check_eq_invalidExtension_iff (policy : FilePolicy)
    (h : disk.file? path = some (place, content)) {extension : Option String} :
    (policy.check disk path).value = .error (.invalidExtension extension) ↔
      policy.requireYangExtension = true ∧
        ¬ (policy.enforceSizeLimit = true ∧ Limits.maxFileSize < content.size) ∧
        (describe (Path.ofNames place) content).isYang = false ∧
        extension = (Path.extension? (Path.ofNames place)).map Text.lowercase := by
  have hsize : (policy.enforceSizeLimit &&
      Limits.maxFileSize < (describe (Path.ofNames place) content).size) = true ↔
        policy.enforceSizeLimit = true ∧ Limits.maxFileSize < content.size := by
    rw [Bool.and_eq_true, decide_eq_true_iff]
    rfl
  have hextension : (policy.requireYangExtension &&
      !(describe (Path.ofNames place) content).isYang) = true ↔
        policy.requireYangExtension = true ∧
          (describe (Path.ofNames place) content).isYang = false := by
    rw [Bool.and_eq_true, Bool.not_eq_true']
  have hsame : (describe (Path.ofNames place) content).extension =
      (Path.extension? (Path.ofNames place)).map Text.lowercase := rfl
  rw [value_check policy h, value_judge, hsame]
  simp only [hsize, hextension]
  split
  · next hlarge =>
    constructor
    · intro hrefused
      cases hrefused
    · rintro ⟨-, hfits, -⟩
      exact absurd hlarge hfits
  · next hfits =>
    split
    · next hother =>
      constructor
      · intro hrefused
        cases hrefused
        exact ⟨hother.1, hfits, hother.2, rfl⟩
      · rintro ⟨-, -, -, rfl⟩
        rfl
    · next hyang =>
      constructor
      · intro hrefused
        cases hrefused
      · rintro ⟨hrequire, -, hother, -⟩
        exact absurd ⟨hrequire, hother⟩ hyang

end YangCheck.FilePolicy
