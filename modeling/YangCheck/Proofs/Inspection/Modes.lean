import YangCheck.Proofs.Inspection.ModulePresence
import YangCheck.Proofs.Lint.Output

namespace YangCheck

open Log Lint

theorem exists_module_of_checkFile [Limits] {disk : Disk} {path : String} {place : List String}
    {content : ByteArray} (hfile : disk.file? path = some (place, content)) {report : Report}
    (hcheck : (checkFile disk path).value = .ok report) (hvalid : report.hasErrors = false) :
    ∃ m, (Module.ofFile disk path).value = .ok (some m) := by
  rw [value_checkFile hfile] at hcheck
  rw [Module.value_ofFile hfile]
  revert hcheck
  rcases LineReader.decode (LineReader.chunksOf content) with ⟨texts, _ | fault⟩
  · intro hcheck
    obtain rfl := Except.ok.inj hcheck
    have hmodule : Module.ofLines texts ≠ none := by
      intro hnone
      obtain ⟨d, hd, -⟩ := (exists_missingModule_iff_ofLines texts).mpr hnone
      have hempty : (checkLines texts).errors = #[] := by
        rw [checkLines]
        simpa [Report.hasErrors] using hvalid
      rw [hempty] at hd
      exact Array.not_mem_empty d hd
    obtain ⟨m, hm⟩ := Option.ne_none_iff_exists'.mp hmodule
    exact ⟨m, congrArg Except.ok hm⟩
  · intro hcheck
    cases hcheck

theorem Lint.checkFile_of_validateFile [Limits] {disk : Disk} {path : String} {sink : Sink}
    {report : Report} (h : (validateFile disk path sink).value.1 = .ok report) :
    (checkFile disk path).value = .ok report ∧ report.hasErrors = false := by
  rw [value_validateFile] at h
  dsimp only at h
  split at h
  · exact verdict_eq_ok_iff.mp h
  · cases h

namespace Inspection

variable [Limits] {disk : Disk} {policy : FilePolicy} {path : String} {sink : Sink}

theorem value_steps_of_refused {error : FileError}
    (h : (policy.check disk path).value = .error error) (mode : Mode) :
    (steps disk policy mode path sink).value = (.error (.file error), sink) := by
  simp only [steps, Traced.value_bind, h]
  rfl

theorem value_steps_of_taken {info : FileInfo} (h : (policy.check disk path).value = .ok info)
    (mode : Mode) :
    (steps disk policy mode path sink).value =
      match (validateHalf disk mode path sink).value with
      | (.error error, sink) => (.error error, sink)
      | (.ok report, sink) =>
        ((buildHalf disk mode path).value.map fun module? => { path, mode, report, module? },
          sink) := by
  simp only [steps, Traced.value_bind, h]
  rcases (validateHalf disk mode path sink).value with ⟨error | report, written⟩
  · rfl
  · simp only [Traced.value_bind]
    cases (buildHalf disk mode path).value <;> rfl

theorem value_validateHalf {mode : Mode} (h : mode.validates = true) :
    (validateHalf disk mode path sink).value =
      (((validateFile disk path sink).value.1.map some).mapError .ofLint,
        (validateFile disk path sink).value.2) := by
  rw [validateHalf, if_pos h]
  rfl

theorem value_buildHalf {mode : Mode} (h : mode.builds = true) {m : Module}
    (hm : (Module.ofFile disk path).value = .ok (some m)) :
    (buildHalf disk mode path).value = .ok (some m) := by
  rw [buildHalf, if_pos h, Traced.value_bind, hm]
  rfl

variable (disk policy path sink)

/-- A file is refused in every mode, or it fails the check in both modes that check, or it passes in
all modes; what is written does not depend on whether the module is built. -/
theorem value_steps_cases :
    (∃ error, (policy.check disk path).value = .error error ∧
      ∀ mode, (steps disk policy mode path sink).value = (.error (.file error), sink)) ∨
    (∃ info error written, (policy.check disk path).value = .ok info ∧
      (steps disk policy .full path sink).value = (.error (.ofLint error), written) ∧
      (steps disk policy .validateOnly path sink).value = (.error (.ofLint error), written) ∧
      (steps disk policy .buildOnly path sink).value.2 = sink) ∨
    ∃ info report m written, (policy.check disk path).value = .ok info ∧
      (steps disk policy .full path sink).value =
        (.ok { path, mode := .full, report := some report, module? := some m }, written) ∧
      (steps disk policy .validateOnly path sink).value =
        (.ok { path, mode := .validateOnly, report := some report }, written) ∧
      (steps disk policy .buildOnly path sink).value =
        (.ok { path, mode := .buildOnly, module? := some m }, sink) := by
  cases hpolicy : (policy.check disk path).value with
  | error error => exact .inl ⟨error, rfl, value_steps_of_refused hpolicy⟩
  | ok info =>
    right
    obtain ⟨place, content, hfile⟩ := FilePolicy.exists_file_of_check hpolicy
    rcases hvalidate : (validateFile disk path sink).value with ⟨error | report, written⟩
    · refine .inl ⟨info, error, written, rfl, ?_, ?_, ?_⟩
      · rw [value_steps_of_taken hpolicy, value_validateHalf rfl, hvalidate]
        rfl
      · rw [value_steps_of_taken hpolicy, value_validateHalf rfl, hvalidate]
        rfl
      · rw [value_steps_of_taken hpolicy]
        rfl
    · obtain ⟨hchecked, hvalid⟩ := checkFile_of_validateFile (congrArg Prod.fst hvalidate)
      obtain ⟨m, hm⟩ := exists_module_of_checkFile hfile hchecked hvalid
      refine .inr ⟨info, report, m, written, rfl, ?_, ?_, ?_⟩
      · rw [value_steps_of_taken hpolicy, value_validateHalf rfl, hvalidate, value_buildHalf rfl hm]
        rfl
      · rw [value_steps_of_taken hpolicy, value_validateHalf rfl, hvalidate]
        rfl
      · rw [value_steps_of_taken hpolicy, value_buildHalf rfl hm]
        rfl

end Inspection

/-- Whatever the file and the policy, the full mode and the checking mode fail with the same error
or come to the same report, and write the same; a file that passes them builds the same module in
the full mode and in the building mode, which writes nothing. A refused file leaves the sink as it
is in every mode, and the full mode never fails for want of a module. -/
theorem modes_agree [Limits] (disk : Disk) (policy : FilePolicy) (path : String) (id : Nat)
    (sink : Sink) :
    let inspect (mode : Mode) := (Inspection.run disk policy mode path id sink).value
    (∀ error, (inspect .full).1 = .error error ↔ (inspect .validateOnly).1 = .error error) ∧
    (∀ full checked, (inspect .full).1 = .ok full → (inspect .validateOnly).1 = .ok checked →
      (∃ report, full.report = some report ∧ checked.report = some report) ∧
      ∃ m built, full.module? = some m ∧ (inspect .buildOnly).1 = .ok built ∧
        built.module? = some m) ∧
    (inspect .full).2 = (inspect .validateOnly).2 ∧
    (inspect .buildOnly).2 = sink ∧
    (∀ error, (policy.check disk path).value = .error error →
      ∀ mode, inspect mode = (.error (.file error), sink)) ∧
    ∀ reason, (inspect .full).1 ≠ .error (.noResult reason) := by
  intro inspect
  have hsteps : ∀ mode, inspect mode = (Inspection.steps disk policy mode path sink).value :=
    fun _ => rfl
  simp only [hsteps]
  rcases Inspection.value_steps_cases disk policy path sink with
    ⟨error, hpolicy, hall⟩ | ⟨info, error, written, hpolicy, hfull, hchecks, hbuilds⟩ |
      ⟨info, report, m, written, hpolicy, hfull, hchecks, hbuilds⟩
  · refine ⟨?_, ?_, ?_, ?_, ?_, ?_⟩
    · intro e
      rw [hall, hall]
    · intro full checked hf
      rw [hall] at hf
      cases hf
    · rw [hall, hall]
    · rw [hall]
    · intro refusal hr mode
      obtain rfl := Except.error.inj (hpolicy.symm.trans hr)
      exact hall mode
    · intro reason hr
      rw [hall] at hr
      cases hr
  · refine ⟨?_, ?_, ?_, hbuilds, ?_, ?_⟩
    · intro e
      rw [hfull, hchecks]
    · intro full checked hf
      rw [hfull] at hf
      cases hf
    · rw [hfull, hchecks]
    · intro refusal hr
      cases hpolicy.symm.trans hr
    · intro reason hr
      rw [hfull] at hr
      -- No error of the check becomes the error that no module was built.
      cases error <;> cases hr
  · refine ⟨?_, ?_, ?_, ?_, ?_, ?_⟩
    · intro e
      rw [hfull, hchecks]
      constructor
      · intro h
        cases h
      · intro h
        cases h
    · intro full checked hf hc
      rw [hfull] at hf
      rw [hchecks] at hc
      cases hf
      cases hc
      have hbuilt := congrArg Prod.fst hbuilds
      exact ⟨⟨report, rfl, rfl⟩, m, _, rfl, hbuilt, rfl⟩
    · rw [hfull, hchecks]
    · rw [hbuilds]
    · intro refusal hr
      cases hpolicy.symm.trans hr
    · intro reason hr
      rw [hfull] at hr
      cases hr

def smallSource : String :=
  "module m \x7b\n\x7d\n"

/-- A file that declares a module, and a device. -/
def smallDisk : Disk :=
  { root := [("m", .file smallSource.toByteArray), ("d", .device)] }

theorem modes_agree_on_smallDisk :
    (∃ built, (Inspection.run smallDisk .unrestricted .buildOnly "m" 0 {}).value.1 = .ok built ∧
      built.module? = some { name := "m" }) ∧
    ∀ mode, (Inspection.run smallDisk .unrestricted mode "d" 0 {}).value =
      (.error (.file (.invalidPath "d")), {}) := by
  have hfile : smallDisk.file? "m" = some (["m"], smallSource.toByteArray) :=
    Disk.file?_name rfl (by decide) rfl (by decide)
  have hpolicy : (FilePolicy.unrestricted.check smallDisk "m").value =
      .ok (FilePolicy.describe (Path.ofNames ["m"]) smallSource.toByteArray) := by
    rw [FilePolicy.check, Traced.value_bind, FilePolicy.value_inspect_unrestricted hfile]
    rfl
  have hrefused : (FilePolicy.unrestricted.check smallDisk "d").value =
      .error (.invalidPath "d") := by
    have hfind : smallDisk.find? "d" = some (["d"], .device) :=
      Disk.find?_name rfl (by decide) rfl (by simp) (by decide)
    rw [FilePolicy.check, FilePolicy.inspect, FilePolicy.locate_eq_of_find? hfind]
    rfl
  have hlines : LineReader.decode (LineReader.chunksOf smallSource.toByteArray) =
      (["module m \x7b", "\x7d"], none) :=
    LineReader.decode_of_text (LineReader.chunking_chunksOf _)
  have hchecked : (checkFile smallDisk "m").value = .ok { linesChecked := 2 } := by
    rw [value_checkFile hfile, hlines]
    rfl
  have hbuilt : (Module.ofFile smallDisk "m").value = .ok (some { name := "m" }) := by
    rw [Module.value_ofFile hfile, hlines]
    rfl
  have hvalidate : (validateFile smallDisk "m" {}).value.1 = .ok { linesChecked := 2 } := by
    rw [validateFile, Traced.value_bind, hchecked]
    rfl
  have hchecks : (Inspection.run smallDisk .unrestricted .validateOnly "m" 0 {}).value.1 =
      .ok { path := "m", mode := .validateOnly, report := some { linesChecked := 2 } } := by
    rw [Inspection.run, Traced.value_inFile, Inspection.value_steps_of_taken hpolicy,
      Inspection.value_validateHalf rfl, hvalidate]
    rfl
  have hfull : (Inspection.run smallDisk .unrestricted .full "m" 0 {}).value.1 =
      .ok { path := "m", mode := .full, report := some { linesChecked := 2 },
            module? := some { name := "m" } } := by
    rw [Inspection.run, Traced.value_inFile, Inspection.value_steps_of_taken hpolicy,
      Inspection.value_validateHalf rfl, hvalidate, Inspection.value_buildHalf rfl hbuilt]
    rfl
  obtain ⟨-, hsame, -⟩ := modes_agree smallDisk .unrestricted "m" 0 {}
  obtain ⟨-, -, -, -, hall, -⟩ := modes_agree smallDisk .unrestricted "d" 0 {}
  obtain ⟨-, m, built, hm, hbuild, hmodule⟩ := hsame _ _ hfull hchecks
  obtain rfl := Option.some.inj hm
  exact ⟨⟨built, hbuild, hmodule⟩, hall _ hrefused⟩

end YangCheck
