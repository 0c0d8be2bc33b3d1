import YangCheck.Batch.Discovery
import YangCheck.Proofs.File.Forest

namespace YangCheck.Batch

open Log

def IsYangName (name : String) : Prop :=
  ∃ stem extension, stem ≠ "" ∧ name = stem ++ "." ++ extension ∧
    extension.toList.map Char.toLower = "yang".toList

/-- Whether an entry at a path is a regular file or a link to one. -/
def leadsToFile (disk : Disk) (path : String) : Entry → Bool
  | .file _ => true
  | .link _ => (disk.file? path).isSome
  | .directory _ | .device => false

/-- The paths of the YANG files of a directory, and with `recursive` of all directories in it. -/
inductive IsYangFileBelow (disk : Disk) (recursive : Bool) :
    (directory : String) → List (String × Entry) → (path : String) → Prop where
  | here {directory : String} {entries : List (String × Entry)} {name : String} {entry : Entry}
      (hentry : (name, entry) ∈ entries)
      (hfile : leadsToFile disk (Path.join directory name) entry = true) (hname : IsYangName name) :
      IsYangFileBelow disk recursive directory entries (Path.join directory name)
  | deeper {directory : String} {entries inner : List (String × Entry)} {name path : String}
      (hrecursive : recursive = true) (hinner : (name, .directory inner) ∈ entries)
      (hbelow : IsYangFileBelow disk recursive (Path.join directory name) inner path) :
      IsYangFileBelow disk recursive directory entries path

/-- The YANG files at a path, which is a file itself or a directory with files below it. -/
def filesAt (disk : Disk) (recursive : Bool) (below : String → List String) (path : String) :
    List String :=
  if disk.isDirectory path then
    if recursive then below path else []
  else if isYangFile disk path then [path]
  else []

/-- The YANG files that `visit` finds where no limit stops it. -/
def filesBelow (disk : Disk) (recursive : Bool) :
    (depth : Nat) → (directory : String) → List String
  | 0, _ => []
  | depth + 1, directory =>
    (disk.names directory).flatMap fun name =>
      filesAt disk recursive (filesBelow disk recursive depth) (Path.join directory name)

theorem toList_foldl_take {limit : Nat} {step : Array String → String → Array String}
    {below : String → List String}
    (hstep : ∀ found name,
      (step found name).toList = found.toList ++ (below name).take (limit - found.size))
    (names : List String) (found : Array String) :
    (names.foldl step found).toList =
      found.toList ++ (names.flatMap below).take (limit - found.size) := by
  induction names generalizing found with
  | nil => simp
  | cons name names ih =>
    have hsize : (step found name).size =
        found.size + min (limit - found.size) (below name).length := by
      rw [← Array.length_toList, hstep, List.length_append, Array.length_toList, List.length_take]
    have hleft : limit - (step found name).size = limit - found.size - (below name).length := by
      omega
    rw [List.foldl_cons, ih, hstep, hleft, List.flatMap_cons, List.take_append, List.append_assoc]

/-- A visit that stops at its limit leaves out only what it would have come by last. -/
theorem toList_visit (disk : Disk) (recursive : Bool) (limit depth : Nat) (directory : String)
    (found : Array String) :
    (visit disk recursive limit depth directory found).toList =
      found.toList ++ (filesBelow disk recursive depth directory).take (limit - found.size) := by
  induction depth generalizing directory found with
  | zero => simp [visit, filesBelow]
  | succ depth ih =>
    rw [visit, filesBelow]
    refine toList_foldl_take (fun found name => ?_) _ _
    dsimp only [filesAt]
    by_cases hfull : limit ≤ found.size
    · rw [if_pos hfull, Nat.sub_eq_zero_of_le hfull, List.take_zero, List.append_nil]
    rw [if_neg hfull]
    split
    · split
      · exact ih _ _
      · simp
    · split
      · have hroom : [Path.join directory name].length ≤ limit - found.size := by
          rw [List.length_singleton]
          omega
        rw [Array.toList_push, List.take_of_length_le hroom]
      · simp

theorem hasYangExtension_eq (path : String) :
    hasYangExtension path = (Path.extension? path).any fun extension =>
      extension.toList.map Char.toLower == "yang".toList := by
  have hlower (extension : String) : (extension.map Char.toLower == "yang") =
      (extension.toList.map Char.toLower == "yang".toList) := by
    rw [Bool.eq_iff_iff, beq_iff_eq, beq_iff_eq, ← String.toList_inj, String.toList_map]
  simp only [hasYangExtension, hlower]

theorem hasYangExtension_join {directory name : String} (hname : Path.isName name = true) :
    hasYangExtension (Path.join directory name) = true ↔ IsYangName name := by
  have hextension (extension : String) :
      Path.extension? (Path.join directory name) = some extension ↔ _ :=
    Path.extension?_eq_some_iff (Path.fileName?_join hname)
  rw [hasYangExtension_eq, Option.any_eq_true]
  simp only [hextension, beq_iff_eq, IsYangName]
  constructor
  · rintro ⟨extension, ⟨stem, hstem, -, rfl⟩, hlower⟩
    exact ⟨stem, extension, hstem, rfl, hlower⟩
  · rintro ⟨stem, extension, hstem, rfl, hlower⟩
    refine ⟨extension, ⟨stem, hstem, ?_, rfl⟩, hlower⟩
    intro hdot
    have hlowerDot : '.' ∈ extension.toList.map Char.toLower :=
      List.mem_map.mpr ⟨'.', hdot, by decide⟩
    rw [hlower] at hlowerDot
    exact absurd hlowerDot (by decide)

section Forest

variable {disk : Disk} {recursive : Bool} {directory name path : String} {place : List String}
  {entries : List (String × Entry)} {entry : Entry}

theorem isYangFile_join (h : disk.find? directory = some (place, .directory entries))
    (hforest : disk.isForest directory entries = true) (hentry : (name, entry) ∈ entries) :
    isYangFile disk (Path.join directory name) = true ↔
      leadsToFile disk (Path.join directory name) entry = true ∧ IsYangName name := by
  obtain ⟨hname, -, -⟩ := Disk.isForest_mem hforest hentry
  have hfound := Disk.find?_join_of_isForest h hforest hentry
  rw [isYangFile, Bool.and_eq_true, hasYangExtension_join hname]
  cases entry with
  | link target => rfl
  | file | directory | device => simp [leadsToFile, Disk.file?, hfound]

theorem mem_filesAt {below : String → List String}
    (h : disk.find? directory = some (place, .directory entries))
    (hforest : disk.isForest directory entries = true) (hentry : (name, entry) ∈ entries)
    (hbelow : ∀ {name inner}, (name, .directory inner) ∈ entries →
      (path ∈ below (Path.join directory name) ↔
        IsYangFileBelow disk recursive (Path.join directory name) inner path)) :
    path ∈ filesAt disk recursive below (Path.join directory name) ↔
      (leadsToFile disk (Path.join directory name) entry = true ∧ IsYangName name ∧
        path = Path.join directory name) ∨
      (recursive = true ∧ ∃ inner, entry = .directory inner ∧
        IsYangFileBelow disk recursive (Path.join directory name) inner path) := by
  have hdirectory := Disk.isDirectory_join h hforest hentry
  have hyang := isYangFile_join h hforest hentry
  rw [filesAt]
  cases entry with
  | directory inner =>
    rw [if_pos (hdirectory.mpr ⟨inner, rfl⟩)]
    cases recursive <;> simp [leadsToFile, hbelow hentry]
  | file | link | device =>
    rw [if_neg (by simp [hdirectory]), List.mem_ite_nil_right, hyang, List.mem_singleton]
    simp [and_assoc]

theorem mem_filesBelow {depth : Nat}
    (h : disk.find? directory = some (place, .directory entries))
    (hforest : disk.isForest directory entries = true)
    (hdepth : Disk.maxPathBytes ≤ depth + directory.utf8ByteSize) :
    path ∈ filesBelow disk recursive depth directory ↔
      IsYangFileBelow disk recursive directory entries path := by
  induction depth generalizing directory place entries with
  | zero =>
    have hshort := (Disk.find?_eq_some_iff.mp h).1.2.2
    omega
  | succ depth ih =>
    have hbelow {name : String} {inner : List (String × Entry)}
        (hinner : (name, .directory inner) ∈ entries) :
        path ∈ filesBelow disk recursive depth (Path.join directory name) ↔
          IsYangFileBelow disk recursive (Path.join directory name) inner path := by
      obtain ⟨hfind, hbelow, hlonger⟩ := Disk.isForest_join h hforest hinner
      exact ih hfind hbelow (by omega)
    rw [filesBelow, List.mem_flatMap]
    constructor
    · rintro ⟨name, hmem, hpath⟩
      obtain ⟨entry, hentry⟩ := (Disk.mem_names h).mp hmem
      obtain ⟨hfile, hname, rfl⟩ | ⟨hrecursive, inner, rfl, hpath⟩ :=
        (mem_filesAt h hforest hentry hbelow).mp hpath
      · exact .here hentry hfile hname
      · exact .deeper hrecursive hentry hpath
    · intro hpath
      cases hpath with
      | here hentry hfile hname =>
        refine ⟨_, (Disk.mem_names h).mpr ⟨_, hentry⟩, ?_⟩
        exact (mem_filesAt h hforest hentry hbelow).mpr (.inl ⟨hfile, hname, rfl⟩)
      | deeper hrecursive hinner hpath =>
        refine ⟨_, (Disk.mem_names h).mpr ⟨_, hinner⟩, ?_⟩
        exact (mem_filesAt h hforest hinner hbelow).mpr (.inr ⟨hrecursive, _, rfl, hpath⟩)

theorem prefix_components (h : IsYangFileBelow disk recursive directory entries path)
    (hdirectory : directory ≠ "") (hforest : disk.isForest directory entries = true) :
    Path.components directory <+: Path.components path := by
  induction h with
  | here hentry _ _ =>
    obtain ⟨hname, -, -⟩ := Disk.isForest_mem hforest hentry
    rw [Path.components_join hdirectory hname]
    exact List.prefix_append _ _
  | deeper _ hinner _ ih =>
    obtain ⟨hname, -, htree⟩ := Disk.isForest_mem hforest hinner
    have hprefix := ih (Path.join_ne_empty _ hname) htree
    rw [Path.components_join hdirectory hname] at hprefix
    exact (List.prefix_append _ _).trans hprefix

theorem prefix_of_mem_filesAt {depth : Nat}
    (h : disk.find? directory = some (place, .directory entries))
    (hforest : disk.isForest directory entries = true)
    (hdepth : Disk.maxPathBytes ≤ depth + 1 + directory.utf8ByteSize)
    (hentry : (name, entry) ∈ entries)
    (hpath : path ∈ filesAt disk recursive (filesBelow disk recursive depth)
      (Path.join directory name)) :
    Path.components directory ++ [name] <+: Path.components path := by
  have hbelow {name : String} {inner : List (String × Entry)}
      (hinner : (name, .directory inner) ∈ entries) :
      path ∈ filesBelow disk recursive depth (Path.join directory name) ↔
        IsYangFileBelow disk recursive (Path.join directory name) inner path := by
    obtain ⟨hfind, hbelow, hlonger⟩ := Disk.isForest_join h hforest hinner
    exact mem_filesBelow hfind hbelow (by omega)
  obtain ⟨hname, -, htree⟩ := Disk.isForest_mem hforest hentry
  rw [← Path.components_join (Disk.find?_eq_some_iff.mp h).1.1 hname]
  obtain ⟨-, -, rfl⟩ | ⟨-, inner, rfl, hpath⟩ := (mem_filesAt h hforest hentry hbelow).mp hpath
  · exact List.prefix_rfl
  · exact prefix_components hpath (Path.join_ne_empty _ hname) htree

theorem pairwise_filesBelow (recursive : Bool) {depth : Nat}
    (h : disk.find? directory = some (place, .directory entries))
    (hforest : disk.isForest directory entries = true)
    (hdepth : Disk.maxPathBytes ≤ depth + directory.utf8ByteSize) :
    (filesBelow disk recursive depth directory).Pairwise fun p q => Path.less p q = true := by
  induction depth generalizing directory place entries with
  | zero => exact .nil
  | succ depth ih =>
    rw [filesBelow, List.pairwise_flatMap]
    constructor
    · intro name hmem
      obtain ⟨entry, hentry⟩ := (Disk.mem_names h).mp hmem
      rw [filesAt]
      split
      · next hdirectory =>
        obtain ⟨inner, rfl⟩ := (Disk.isDirectory_join h hforest hentry).mp hdirectory
        obtain ⟨hfind, hbelow, hlonger⟩ := Disk.isForest_join h hforest hentry
        split
        · exact ih hfind hbelow (by omega)
        · exact .nil
      · split
        · exact List.pairwise_singleton _ _
        · exact .nil
    · -- All paths under one name agree in the components up to that name, so it is the names that
      -- decide: `a` comes with all it holds before `a.yang`.
      refine (Disk.pairwise_names h hforest).imp_of_mem ?_
      intro a b ha hb hab p hp q hq
      obtain ⟨_, hentryA⟩ := (Disk.mem_names h).mp ha
      obtain ⟨_, hentryB⟩ := (Disk.mem_names h).mp hb
      exact Path.less_of_prefix (Disk.isForest_mem hforest hentryA).1
        (Disk.isForest_mem hforest hentryB).1 hab
        (prefix_of_mem_filesAt h hforest (by omega) hentryA hp)
        (prefix_of_mem_filesAt h hforest (by omega) hentryB hq)

variable [Limits]

theorem collect_eq (config : Config) (h : disk.find? directory = some (place, .directory entries))
    (hforest : disk.isForest directory entries = true) :
    collect disk config directory =
      (filesBelow disk config.recursive Disk.maxPathBytes directory).take config.fileLimit := by
  have hsorted := pairwise_filesBelow config.recursive h hforest
    (Nat.le_add_right Disk.maxPathBytes _)
  rw [collect, toList_visit]
  exact Path.sortBy_eq_of_perm (List.Perm.refl _) (hsorted.sublist (List.take_sublist _ _))

theorem value_discover (config : Config)
    (h : disk.find? directory = some (place, .directory entries)) :
    (discover disk config directory).value =
      if collect disk config directory = [] then .error (.noFilesFound directory)
      else .ok (collect disk config directory) := by
  have hdirectory : disk.isDirectory directory = true := by
    rw [Disk.isDirectory, h]
  rw [discover, Traced.value_bind, if_neg (by simp [hdirectory])]
  dsimp only
  by_cases hempty : collect disk config directory = []
  · rw [hempty]
    split <;> rfl
  · simp only [List.isEmpty_iff, if_neg hempty]
    split <;> rfl

theorem pairwise_discover {config : Config} {files : List String}
    (h : disk.find? directory = some (place, .directory entries))
    (hforest : disk.isForest directory entries = true)
    (hfound : (discover disk config directory).value = .ok files) :
    files.Pairwise fun p q => Path.less p q = true := by
  rw [value_discover config h, collect_eq config h hforest] at hfound
  split at hfound
  · cases hfound
  · cases hfound
    have hsorted := pairwise_filesBelow config.recursive h hforest
      (Nat.le_add_right Disk.maxPathBytes _)
    exact hsorted.sublist (List.take_sublist _ _)

end Forest

end YangCheck.Batch
