import YangCheck.Proofs.File.Disk

namespace YangCheck.Disk

mutual

/-- Whether an entry is no link to a directory and, where it is a directory, a forest itself. -/
def isTree (disk : Disk) (path : String) : Entry → Bool
  | .file _ => true
  | .device => true
  | .link _ => !disk.isDirectory path
  | .directory entries => isForest disk path entries

/-- Whether all that stands below a directory can be reached by names alone: no two entries have one
name, no link leads to a directory and no path is too long to be opened. -/
def isForest (disk : Disk) (directory : String) : List (String × Entry) → Bool
  | [] => true
  | (name, entry) :: rest =>
    Path.isName name && rest.all (·.1 != name) &&
      (Path.join directory name).utf8ByteSize < maxPathBytes &&
      isTree disk (Path.join directory name) entry && isForest disk directory rest

end

variable {disk : Disk} {directory name : String} {place : List String}
  {entries : List (String × Entry)} {entry : Entry}

theorem isForest_cons {rest : List (String × Entry)} :
    disk.isForest directory ((name, entry) :: rest) = true ↔
      (Path.isName name = true ∧ (∀ other ∈ rest, other.1 ≠ name) ∧
        (Path.join directory name).utf8ByteSize < maxPathBytes ∧
        disk.isTree (Path.join directory name) entry = true) ∧
      disk.isForest directory rest = true := by
  simp only [isForest, Bool.and_eq_true, List.all_eq_true, bne_iff_ne, decide_eq_true_eq, ne_eq,
    and_assoc]

theorem isForest_mem (h : disk.isForest directory entries = true)
    (hentry : (name, entry) ∈ entries) :
    Path.isName name = true ∧ (Path.join directory name).utf8ByteSize < maxPathBytes ∧
      disk.isTree (Path.join directory name) entry = true := by
  induction entries with
  | nil => cases hentry
  | cons first rest ih =>
    obtain ⟨⟨hname, -, hshort, htree⟩, hrest⟩ := isForest_cons.mp h
    rcases List.mem_cons.mp hentry with rfl | hentry
    · exact ⟨hname, hshort, htree⟩
    · exact ih hrest hentry

theorem nodup_names_of_isForest (h : disk.isForest directory entries = true) :
    (entries.map (·.1)).Nodup := by
  induction entries with
  | nil => exact .nil
  | cons first rest ih =>
    obtain ⟨⟨-, hother, -⟩, hrest⟩ := isForest_cons.mp h
    refine List.nodup_cons.mpr ⟨?_, ih hrest⟩
    intro hmem
    obtain ⟨other, hmem, hsame⟩ := List.mem_map.mp hmem
    exact hother other hmem hsame

theorem named?_of_isForest (h : disk.isForest directory entries = true)
    (hentry : (name, entry) ∈ entries) : named? entries name = some entry := by
  induction entries with
  | nil => cases hentry
  | cons first rest ih =>
    obtain ⟨⟨-, hother, -⟩, hrest⟩ := isForest_cons.mp h
    rcases List.mem_cons.mp hentry with rfl | hentry
    · simp [named?]
    · have hne := hother _ hentry
      rw [named?, List.find?_cons_of_neg (by simpa using hne.symm)]
      exact ih hrest hentry

theorem mem_names (h : disk.find? directory = some (place, .directory entries)) :
    name ∈ disk.names directory ↔ ∃ entry, (name, entry) ∈ entries := by
  simp [names, h]

theorem pairwise_names (h : disk.find? directory = some (place, .directory entries))
    (hforest : disk.isForest directory entries = true) :
    (disk.names directory).Pairwise (· < ·) := by
  rw [names, h]
  have hsorted : ((entries.map (·.1)).mergeSort fun a b => !(b < a)).Pairwise
      fun a b => (!decide (b < a)) = true := by
    apply List.pairwise_mergeSort
    · intro a b c hab hbc
      simp only [Bool.not_eq_true', decide_eq_false_iff_not, String.not_lt] at hab hbc ⊢
      exact String.le_trans hab hbc
    · intro a b
      by_cases hab : b < a
      · simp [hab, String.lt_asymm hab]
      · simp [hab]
  have hnodup := (List.mergeSort_perm (entries.map (·.1)) fun a b => !(b < a)).nodup_iff.mpr
    (nodup_names_of_isForest hforest)
  refine (hsorted.and hnodup).imp fun {a b} hab => ?_
  obtain ⟨hle, hne⟩ := hab
  rw [Bool.not_eq_true', decide_eq_false_iff_not, String.not_lt] at hle
  by_contra hlt
  exact hne (String.le_antisymm hle (String.not_lt.mp hlt))

theorem find?_join_of_isForest (h : disk.find? directory = some (place, .directory entries))
    (hforest : disk.isForest directory entries = true) (hentry : (name, entry) ∈ entries)
    (hlink : ∀ target, entry ≠ .link target) :
    disk.find? (Path.join directory name) = some (place ++ [name], entry) := by
  obtain ⟨hname, hshort, -⟩ := isForest_mem hforest hentry
  exact find?_join h hname (named?_of_isForest hforest hentry) hlink hshort

theorem isDirectory_join (h : disk.find? directory = some (place, .directory entries))
    (hforest : disk.isForest directory entries = true) (hentry : (name, entry) ∈ entries) :
    disk.isDirectory (Path.join directory name) = true ↔ ∃ inner, entry = .directory inner := by
  have hfound := find?_join_of_isForest h hforest hentry
  cases entry with
  | link target =>
    obtain ⟨-, -, htree⟩ := isForest_mem hforest hentry
    simpa [isTree] using htree
  | file | directory | device => simp [isDirectory, hfound]

theorem isForest_join {inner : List (String × Entry)}
    (h : disk.find? directory = some (place, .directory entries))
    (hforest : disk.isForest directory entries = true)
    (hinner : (name, .directory inner) ∈ entries) :
    disk.find? (Path.join directory name) = some (place ++ [name], .directory inner) ∧
      disk.isForest (Path.join directory name) inner = true ∧
      directory.utf8ByteSize < (Path.join directory name).utf8ByteSize := by
  obtain ⟨hname, -, htree⟩ := isForest_mem hforest hinner
  exact ⟨find?_join_of_isForest h hforest hinner (by simp), htree,
    Path.utf8ByteSize_join directory hname⟩

end YangCheck.Disk
