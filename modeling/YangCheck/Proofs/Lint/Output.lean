import YangCheck.Inspection.Basic
import YangCheck.Proofs.File.Streaming
import YangCheck.Proofs.Sink

namespace YangCheck

open Log

namespace Lint

theorem Report.writeTo_eq (report : Report) (sink : Sink) :
    report.writeTo sink = sink.write report.render :=
  sink.writeLines_eq report.lines

/-- What a check of a file shows: its report, or one line where the file cannot be read. -/
def shown : Except FileError Report → String
  | .error error => "✗ Validation failed: " ++ error.message ++ "\n"
  | .ok report => report.render

theorem shown_error (error : FileError) :
    shown (.error error) = "✗ Validation failed: " ++ error.message ++ "\n" := rfl

theorem shown_ok (report : Report) : shown (.ok report) = report.render := rfl

/-- How a check of a file ends, once all that it shows is written. -/
def verdict : Except FileError Report → Except LintError Report
  | .error error => .error (.file error)
  | .ok report => if report.hasErrors then .error (.failed report.errors.size) else .ok report

theorem verdict_ne_output (checked : Except FileError Report) (reason : String) :
    verdict checked ≠ .error (.output reason) := by
  cases checked with
  | error error => exact nofun
  | ok report =>
    rw [verdict]
    split <;> exact nofun

theorem verdict_eq_file_iff {checked : Except FileError Report} {error : FileError} :
    verdict checked = .error (.file error) ↔ checked = .error error := by
  cases checked with
  | error failure => simp [verdict]
  | ok report =>
    rw [verdict]
    split
    · simp
    · simp

theorem verdict_eq_ok_iff {checked : Except FileError Report} {report : Report} :
    verdict checked = .ok report ↔ checked = .ok report ∧ report.hasErrors = false := by
  cases checked with
  | error failure => simp [verdict]
  | ok found =>
    rw [verdict, Except.ok.injEq]
    cases hfound : found.hasErrors with
    | true =>
      constructor
      · intro hfailed
        cases hfailed
      · rintro ⟨rfl, hvalid⟩
        cases hfound.symm.trans hvalid
    | false =>
      constructor
      · intro hpassed
        cases hpassed
        exact ⟨rfl, hfound⟩
      · rintro ⟨rfl, -⟩
        rfl

/-- An error in writing comes before what the check itself has to say. -/
theorem value_validateFile [Limits] (disk : Disk) (path : String) (sink : Sink) :
    (validateFile disk path sink).value =
      (if (sink.write (shown (checkFile disk path).value)).2 then
          verdict (checkFile disk path).value
        else .error (.output Sink.fullMessage),
        (sink.write (shown (checkFile disk path).value)).1) := by
  rw [validateFile, Traced.value_bind]
  cases (checkFile disk path).value with
  | error error =>
    have hwrite : sink.write (shown (.error error)) =
        sink.writeLines ["✗ Validation failed: " ++ error.message] := by
      rw [Sink.writeLines_eq, shown_error, List.map_singleton, String.join_cons, String.join_nil,
        String.append_empty]
    simp only [hwrite]
    generalize sink.writeLines ["✗ Validation failed: " ++ error.message] = out
    rcases out with ⟨sink, _ | _⟩
    · rfl
    · rfl
  | ok report =>
    simp only [shown_ok, ← Report.writeTo_eq, verdict]
    generalize report.writeTo sink = out
    rcases out with ⟨sink, _ | _⟩
    · rfl
    · cases report.hasErrors
      · rfl
      · rfl

end Lint

open Lint

namespace Inspection

variable [Limits] {disk : Disk} {policy : FilePolicy} {path : String} {sink written : Sink}

def startNote (path : String) (mode : Mode) : Note :=
  .event ((Event.info "Starting YANG file processing pipeline").addAll
    [("file", path), ("mode", mode.name)])

/-- An inspection that fails in the check ends there. What is noted shows that nothing is built. -/
theorem steps_of_lintError {info : FileInfo} {error : LintError} (mode : Mode)
    (hmode : mode.validates = true) (hpolicy : (policy.check disk path).value = .ok info)
    (hcheck : (validateFile disk path sink).value = (.error error, written)) :
    (steps disk policy mode path sink).value = (.error (.ofLint error), written) ∧
      (steps disk policy mode path sink).notes =
        startNote path mode :: (policy.check disk path).notes ++
          (validateFile disk path sink).notes := by
  have hhalf : (validateHalf disk mode path sink).value = (.error (.ofLint error), written) := by
    rw [validateHalf, if_pos hmode, Traced.value_bind, hcheck]
    rfl
  have hnotes : (validateHalf disk mode path sink).notes = (validateFile disk path sink).notes := by
    rw [validateHalf, if_pos hmode, Traced.notes_bind]
    exact List.append_nil _
  constructor
  · simp only [steps, Traced.value_bind, hpolicy, hhalf, Traced.value_pure]
  · simp only [steps, Traced.notes_bind, hpolicy, hhalf, hnotes, Traced.notes_pure, List.append_nil]
    rfl

end Inspection

/-- A sink with room for `n` bytes is left with the first `n` bytes of what a sink without bound
takes, whatever pieces they come in, and all is well just where these are all bytes. So it is for a
report, and for a file: its check fails for the output where the output does not fit, whatever else
there is to say, and ends as it does without bound where it fits. An inspection of a file that the
policy takes ends there too, and builds nothing. -/
theorem output_on_bounded_sink [Limits] (n : Nat) :
    (∀ report : Report,
      let whole := (report.writeTo {}).1.written
      report.writeTo {} = ({ written := Sink.bytesOf report.render }, true) ∧
      report.writeTo { capacity := some n } =
        ({ capacity := some n, written := whole.take n }, decide (whole.size ≤ n)) ∧
      ∀ pieces, String.join pieces = report.render →
        Sink.writeAll { capacity := some n } pieces = report.writeTo { capacity := some n }) ∧
    ∀ disk path,
      let checked := (checkFile disk path).value
      let free := (validateFile disk path {}).value
      let bounded := (validateFile disk path { capacity := some n }).value
      free = (verdict checked, { written := Sink.bytesOf (shown checked) }) ∧
      bounded.2.written = free.2.written.take n ∧
      ((∃ reason, bounded.1 = .error (.output reason)) ↔ n < free.2.written.size) ∧
      (free.2.written.size ≤ n → bounded.1 = free.1) ∧
      ∀ policy id info reason, (FilePolicy.check policy disk path).value = .ok info →
        bounded.1 = .error (.output reason) →
        let run := Inspection.run disk policy .full path id { capacity := some n }
        run.value = (.error (.output reason), bounded.2) ∧
        run.notes =
          (Inspection.startNote path .full :: (policy.check disk path).notes ++
            (validateFile disk path { capacity := some n }).notes).map
              (Note.inFile { path, id }) := by
  constructor
  · intro report
    have hwhole : report.writeTo {} = ({ written := Sink.bytesOf report.render }, true) := by
      rw [report.writeTo_eq, Sink.write_unlimited]
    refine ⟨hwhole, ?_, fun pieces hpieces => ?_⟩
    · rw [hwhole, report.writeTo_eq, Sink.write_capacity]
    · rw [Sink.writeAll_eq, hpieces, report.writeTo_eq]
  · intro disk path checked free bounded
    have hfree : free = (verdict checked, { written := Sink.bytesOf (shown checked) }) := by
      have hvalue := value_validateFile disk path {}
      rw [Sink.write_unlimited, if_pos rfl] at hvalue
      exact hvalue
    have hbounded : bounded =
        (if (Sink.bytesOf (shown checked)).size ≤ n then verdict checked
          else .error (.output Sink.fullMessage),
          { capacity := some n, written := (Sink.bytesOf (shown checked)).take n }) := by
      have hvalue := value_validateFile disk path { capacity := some n }
      rw [Sink.write_capacity] at hvalue
      simpa only [decide_eq_true_eq] using hvalue
    refine ⟨hfree, ?_, ?_, ?_, ?_⟩
    · rw [hbounded, hfree]
    · rw [hbounded, hfree, ← Nat.not_le]
      constructor
      · rintro ⟨reason, hreason⟩ hfits
        rw [if_pos hfits] at hreason
        exact verdict_ne_output checked reason hreason
      · intro hfull
        exact ⟨Sink.fullMessage, if_neg hfull⟩
    · intro hfits
      rw [hfree] at hfits ⊢
      rw [hbounded]
      exact if_pos hfits
    · intro policy id info reason hpolicy houtput run
      obtain ⟨hvalue, hnotes⟩ := Inspection.steps_of_lintError .full rfl hpolicy
        (Prod.ext houtput rfl)
      exact ⟨hvalue, congrArg (List.map _) hnotes⟩

def emptyFile : Disk :=
  { root := [("e", .file .empty)] }

/-- The sink is full in the middle of a character: the cross behind the heading has three bytes. -/
theorem output_of_emptyFile :
    (checkFile emptyFile "e").value =
      .ok { errors := #[.ofFile .missingModule Kind.missingModule.message] } ∧
    (FilePolicy.check {} emptyFile "e").value =
      .ok (FilePolicy.describe (Path.ofNames ["e"]) .empty) ∧
    (validateFile emptyFile "e" { capacity := some 17 }).value.2.written =
      (Sink.bytesOf "Errors found:\n  ✗").take 17 ∧
    ∃ reason, (Inspection.run emptyFile {} .full "e" 0 { capacity := some 17 }).value.1 =
      .error (.output reason) := by
  have hfile : emptyFile.file? "e" = some (["e"], .empty) :=
    Disk.file?_name rfl (by decide) rfl (by decide)
  have hdecode : LineReader.decode (LineReader.chunksOf .empty) = ([], none) := by rfl
  have hchecked : (checkFile emptyFile "e").value =
      .ok { errors := #[.ofFile .missingModule Kind.missingModule.message] } := by
    rw [value_checkFile hfile, hdecode]
    rfl
  have hpolicy : (FilePolicy.check {} emptyFile "e").value =
      .ok (FilePolicy.describe (Path.ofNames ["e"]) .empty) := by
    rw [FilePolicy.value_check {} hfile]
    rfl
  obtain ⟨-, hfiles⟩ := output_on_bounded_sink 17
  obtain ⟨hfree, hwritten, houtput, -, hbuilds⟩ := hfiles emptyFile "e"
  rw [hfree, hchecked] at hwritten houtput
  obtain ⟨reason, hreason⟩ := houtput.mpr (by decide)
  obtain ⟨hvalue, -⟩ := hbuilds {} 0 _ reason hpolicy hreason
  exact ⟨hchecked, hpolicy, hwritten.trans (by decide), reason, congrArg Prod.fst hvalue⟩

end YangCheck
