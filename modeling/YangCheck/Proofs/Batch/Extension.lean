import YangCheck.Proofs.Batch.Agreement
import YangCheck.Proofs.File.Link
import YangCheck.Proofs.Inspection.Refusal
import YangCheck.Proofs.Text.Lowercase

namespace YangCheck

open Log

namespace Batch

theorem isYang_describe (path : String) (content : ByteArray) :
    (FilePolicy.describe path content).isYang = hasYangExtension path := by
  rw [FileInfo.isYang, FilePolicy.describe, hasYangExtension_eq]
  cases Path.extension? path with
  | none => rfl
  | some extension =>
    rw [Option.map_some, Option.any_some, Bool.eq_iff_iff, beq_iff_eq, beq_iff_eq,
      Option.some_inj, Text.lowercase_eq_yang_iff]

section Files

variable {disk : Disk} {path : String} {place : List String} {entry : YangCheck.Entry}

theorem hasYangExtension_congr {path path' : String}
    (h : Path.fileName? path = Path.fileName? path') :
    hasYangExtension path = hasYangExtension path' := by
  rw [hasYangExtension, hasYangExtension, Path.extension?, Path.extension?, h]

/-- A path that is no link keeps its extension when all links on the way to it are followed. -/
theorem hasYangExtension_place (hfind : disk.find? path = some (place, entry))
    (hlink : disk.isLink path = false) (hyang : hasYangExtension path = true) :
    hasYangExtension (Path.ofNames place) = true := by
  cases hname : Path.fileName? path with
  | none => simp [hasYangExtension, Path.extension?, hname] at hyang
  | some name =>
    obtain ⟨front, rfl⟩ := Disk.exists_place_eq hfind hlink hname
    rw [← hyang]
    exact hasYangExtension_congr ((Path.fileName?_ofNames hname front).trans hname.symm)

theorem filesAt_of_file {content : ByteArray}
    (h : disk.find? path = some (place, .file content)) (recursive : Bool)
    (below : String → List String) :
    filesAt disk recursive below path = if hasYangExtension path then [path] else [] := by
  have hdirectory : disk.isDirectory path = false := by
    rw [Disk.isDirectory, h]
  rw [filesAt, hdirectory, isYangFile, Disk.file?, h]
  rfl

theorem isYangFile_of_mem_filesBelow {recursive : Bool} {depth : Nat} {directory : String}
    (h : path ∈ filesBelow disk recursive depth directory) : isYangFile disk path = true := by
  induction depth generalizing directory with
  | zero => cases h
  | succ depth ih =>
    rw [filesBelow, List.mem_flatMap] at h
    obtain ⟨name, -, hpath⟩ := h
    rw [filesAt] at hpath
    split at hpath
    · split at hpath
      · exact ih hpath
      · cases hpath
    · split at hpath
      · next hyang =>
        obtain rfl := List.mem_singleton.mp hpath
        exact hyang
      · cases hpath

variable [Limits]

theorem isYangFile_of_mem_collect {config : Config} {directory : String}
    (h : path ∈ collect disk config directory) : isYangFile disk path = true := by
  have hfound := (Path.sortBy_perm id _).mem_iff.mp h
  rw [toList_visit] at hfound
  exact isYangFile_of_mem_filesBelow (List.mem_of_mem_take hfound)

theorem eq_collect_of_discover {config : Config} {directory : String} {files : List String}
    (h : (discover disk config directory).value = .ok files) :
    files = collect disk config directory := by
  cases hdirectory : disk.isDirectory directory with
  | false =>
    rw [discover, Traced.value_bind, if_pos (by simp [hdirectory])] at h
    cases h
  | true =>
    rw [Disk.isDirectory] at hdirectory
    split at hdirectory
    · next hfind =>
      rw [value_discover config hfind] at h
      split at h
      · cases h
      · exact (Except.ok.inj h).symm
    · cases hdirectory

theorem exists_file_of_discover {config : Config} {directory : String} {files : List String}
    (h : (discover disk config directory).value = .ok files) (hpath : path ∈ files) :
    ∃ place content, disk.file? path = some (place, content) ∧
      (disk.isLink path = false → hasYangExtension (Path.ofNames place) = true) := by
  rw [eq_collect_of_discover h] at hpath
  obtain ⟨hfile, hyang⟩ := Bool.and_eq_true_iff.mp (isYangFile_of_mem_collect hpath)
  obtain ⟨⟨place, content⟩, hfile⟩ := Option.isSome_iff_exists.mp hfile
  exact ⟨place, content, hfile, fun hlink =>
    hasYangExtension_place (Disk.file?_eq_some_iff.mp hfile) hlink hyang⟩

end Files

section Run

variable [Limits] {disk : Disk} {config : Config} {directory : String} {files : List String}

/-- The results that the files of a directory can come to: one after another, or in any order in
which workers take their steps. -/
def ComesTo (disk : Disk) (config : Config) (files : List String) (results : Results) : Prop :=
  results = (processInOrder (runFile disk config) config files).value ∨
    ∃ schedule, results = (processInParallel (runFile disk config) config files schedule).value

theorem comesTo_of_run {results : Results}
    (hfiles : (discover disk config directory).value = .ok files)
    (h : (run disk config directory).value = .ok results) : ComesTo disk config files results := by
  rw [run] at h
  split at h
  · simp only [runSequential, Traced.value_bind, hfiles] at h
    exact .inl (Except.ok.inj h).symm
  · simp only [runParallel, Traced.value_bind, hfiles] at h
    exact .inr ⟨_, (Except.ok.inj h).symm⟩

theorem result_runFile (path : String) (id : Nat) :
    (runFile disk config path id).value.result =
      (Inspection.steps disk config.policy config.mode path {}).value.1 := by
  simp only [runFile, Inspection.run, Traced.value_bind, Traced.value_inFile]
  rcases (Inspection.steps disk config.policy config.mode path {}).value with
    ⟨error | inspection, written⟩
  · rfl
  · rfl

theorem steps_of_mem_failures {results : Results} {path : String} {error : InspectionError}
    (hresults : ComesTo disk config files results) (h : (path, error) ∈ results.failures) :
    path ∈ files ∧
      (Inspection.steps disk config.policy config.mode path {}).value.1 = .error error := by
  obtain ⟨hpath, id, hwork⟩ : path ∈ files ∧ ∃ id,
      (runFile disk config path id).value.result = .error error := by
    rcases hresults with rfl | ⟨schedule, rfl⟩
    · exact exists_work_of_mem_failures_processInOrder _ h
    · exact exists_work_of_mem_failures_processInParallel _ h
  exact ⟨hpath, (result_runFile path id).symm.trans hwork⟩

/-- A policy that asks for the extension refuses a file that discovery takes just where the place
that all links lead to is not named so, and the size does not come first; no file is refused so
whose path is no link itself. However the workers take their steps, a batch of the files refuses for
their extension only links. -/
theorem refused_extension_of_discover
    (hfiles : (discover disk config directory).value = .ok files) :
    (∀ path ∈ files, ∃ place content, disk.file? path = some (place, content) ∧
      (∀ policy extension,
        (FilePolicy.check policy disk path).value = .error (.invalidExtension extension) ↔
          policy.requireYangExtension = true ∧
          ¬ (policy.enforceSizeLimit = true ∧ Limits.maxFileSize < content.size) ∧
          hasYangExtension (Path.ofNames place) = false ∧
          extension = (Path.extension? (Path.ofNames place)).map Text.lowercase) ∧
      (disk.isLink path = false → hasYangExtension (Path.ofNames place) = true)) ∧
    (∀ results, (run disk config directory).value = .ok results →
      ComesTo disk config files results) ∧
    ∀ results, ComesTo disk config files results → ∀ path extension,
      (path, .file (.invalidExtension extension)) ∈ results.failures →
        path ∈ files ∧ disk.isLink path = true ∧
        (config.policy.check disk path).value = .error (.invalidExtension extension) := by
  refine ⟨?_, fun results hresults => comesTo_of_run hfiles hresults, ?_⟩
  · intro path hpath
    obtain ⟨place, content, hfile, hlink⟩ := exists_file_of_discover hfiles hpath
    refine ⟨place, content, hfile, fun policy extension => ?_, hlink⟩
    rw [← isYang_describe (Path.ofNames place) content]
    exact FilePolicy.check_eq_invalidExtension_iff policy hfile
  · intro results hresults path extension hmem
    obtain ⟨hpath, hsteps⟩ := steps_of_mem_failures hresults hmem
    obtain ⟨place, content, hfile, hlink⟩ := exists_file_of_discover hfiles hpath
    have hrefused : (config.policy.check disk path).value =
        .error (.invalidExtension extension) := by
      rcases Inspection.check_or_invalidEncoding_of_steps hfile hsteps with hrefused | hencoding
      · exact hrefused
      · cases hencoding
    refine ⟨hpath, ?_, hrefused⟩
    obtain ⟨-, -, hother, -⟩ :=
      (FilePolicy.check_eq_invalidExtension_iff config.policy hfile).mp hrefused
    rw [isYang_describe] at hother
    cases hisLink : disk.isLink path with
    | true => rfl
    | false => cases (hlink hisLink).symm.trans hother

end Run

def linkedEntries : List (String × YangCheck.Entry) :=
  [("x.yang", .link "y.txt"), ("y.txt", .file .empty), ("z.yang", .file .empty)]

def linkedDisk : Disk :=
  { root := [("d", .directory linkedEntries)] }

theorem find?_linkedDisk : linkedDisk.find? "d" = some (["d"], .directory linkedEntries) :=
  Disk.find?_name rfl (by decide) rfl (by simp) (by decide)

theorem find?_linkedDisk_link :
    linkedDisk.find? "d/x.yang" = some (["d", "y.txt"], .file .empty) := by
  have hpath : Path.segments "d/x.yang" = ["d", "x.yang"] := by decide
  have htarget : Path.segments "y.txt" = ["y.txt"] := by decide
  refine Disk.find?_eq_some_iff.mpr ⟨by decide, ?_⟩
  rw [hpath]
  simp [Disk.walk, Disk.maxLinks, Disk.start, Disk.startFrom, Path.isAbsolute, htarget,
    Disk.entryAt?, Disk.lookup?, Disk.named?, linkedDisk, linkedEntries]

theorem find?_linkedDisk_join {name : String} (hname : Path.isName name = true)
    (hentry : Disk.named? linkedEntries name = some (.file .empty))
    (hshort : (Path.join "d" name).utf8ByteSize < Disk.maxPathBytes) :
    linkedDisk.find? (Path.join "d" name) = some (["d", name], .file .empty) :=
  Disk.find?_join find?_linkedDisk hname hentry (by simp) hshort

theorem collect_linkedDisk [Limits] (config : Config) (hlimit : 2 ≤ config.fileLimit) :
    collect linkedDisk config "d" = ["d/x.yang", "d/z.yang"] := by
  have hnames : linkedDisk.names "d" = ["x.yang", "y.txt", "z.yang"] := by
    rw [Disk.names, find?_linkedDisk]
    exact List.mergeSort_of_pairwise (by decide)
  have hlink : Path.join "d" "x.yang" = "d/x.yang" := by decide
  have hbelow : filesBelow linkedDisk config.recursive Disk.maxPathBytes "d" =
      ["d/x.yang", "d/z.yang"] := by
    rw [Disk.maxPathBytes, filesBelow, hnames, List.flatMap_cons, List.flatMap_cons,
      List.flatMap_cons, hlink, filesAt_of_file find?_linkedDisk_link,
      filesAt_of_file (find?_linkedDisk_join (by decide) rfl (by decide)),
      filesAt_of_file (find?_linkedDisk_join (by decide) rfl (by decide)), List.flatMap_nil,
      hasYangExtension_eq, hasYangExtension_eq, hasYangExtension_eq]
    decide
  rw [collect, toList_visit, hbelow, List.take_of_length_le hlimit]
  exact Path.sortBy_eq_of_perm (List.Perm.refl _) (by decide)

theorem discover_linkedDisk :
    (discover linkedDisk { maxThreads := 1 } "d").value = .ok ["d/x.yang", "d/z.yang"] := by
  rw [value_discover _ find?_linkedDisk, collect_linkedDisk _ (by decide)]
  rfl

/-- A link that is named as a YANG file and leads to a text file is found and then refused. -/
theorem link_refused_for_target :
    (discover linkedDisk { maxThreads := 1 } "d").value = .ok ["d/x.yang", "d/z.yang"] ∧
    (FilePolicy.check { requireYangExtension := true } linkedDisk "d/x.yang").value =
      .error (.invalidExtension (some "txt")) := by
  refine ⟨discover_linkedDisk, ?_⟩
  rw [FilePolicy.check_eq_invalidExtension_iff _ (Disk.file?_eq_some_iff.mpr find?_linkedDisk_link)]
  refine ⟨rfl, by decide, ?_, by decide⟩
  rw [isYang_describe, hasYangExtension_eq]
  decide

theorem refused_extension_of_linkedDisk :
    (discover linkedDisk { maxThreads := 1 } "d").value = .ok ["d/x.yang", "d/z.yang"] ∧
    linkedDisk.isLink "d/x.yang" = true ∧
    ∀ policy extension,
      (FilePolicy.check policy linkedDisk "d/z.yang").value ≠
        .error (.invalidExtension extension) := by
  obtain ⟨hchecks, -, -⟩ := refused_extension_of_discover discover_linkedDisk
  refine ⟨discover_linkedDisk, ?_, ?_⟩
  · obtain ⟨place, content, hfile, -, hlink⟩ := hchecks "d/x.yang" (by decide)
    cases (Disk.file?_eq_some_iff.mp hfile).symm.trans find?_linkedDisk_link
    have hother : hasYangExtension (Path.ofNames ["d", "y.txt"]) = false := by
      rw [hasYangExtension_eq]
      decide
    cases hisLink : linkedDisk.isLink "d/x.yang" with
    | true => rfl
    | false => cases (hlink hisLink).symm.trans hother
  · obtain ⟨place, content, hfile, hiff, -⟩ := hchecks "d/z.yang" (by decide)
    have hplace : linkedDisk.find? (Path.join "d" "z.yang") =
        some (["d", "z.yang"], .file .empty) :=
      find?_linkedDisk_join (by decide) rfl (by decide)
    cases (Disk.file?_eq_some_iff.mp hfile).symm.trans hplace
    have hyang : hasYangExtension (Path.ofNames ["d", "z.yang"]) = true := by
      rw [hasYangExtension_eq]
      decide
    intro policy extension hrefused
    obtain ⟨-, -, hother, -⟩ := (hiff policy extension).mp hrefused
    cases hyang.symm.trans hother

end Batch

end YangCheck
