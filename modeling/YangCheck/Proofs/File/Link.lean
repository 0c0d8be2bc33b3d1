import YangCheck.Proofs.File.Disk

namespace YangCheck

namespace Disk

/-- Whether the last name of a path stands for a link, which is not followed. -/
def isLink (disk : Disk) (path : String) : Bool :=
  match (disk.namePlace? path).bind disk.entryAt? with
  | some (.link _) => true
  | _ => false

variable {disk : Disk} {links : Nat} {name path : String} {place found rest : List String}
  {entry : Entry}

theorem settle_filter_of_fewer
    (h : ∀ links', links = links' + 1 → ∀ place names,
      disk.settle links' place (names.filter Path.isStep) = disk.settle links' place names)
    (place names : List String) :
    disk.settle links place (names.filter Path.isStep) = disk.settle links place names := by
  induction names generalizing place with
  | nil => rfl
  | cons name rest ih =>
    cases hstep : Path.isStep name with
    | false =>
      rw [List.filter_cons_of_neg (by simp [hstep]), ih, settle.eq_2,
        if_pos (Path.isStep_eq_false_iff.mp hstep)]
    | true =>
      rw [List.filter_cons_of_pos hstep]
      simp only [settle, ih]
      split
      · rfl
      split
      · rfl
      split
      · next target _ =>
        cases links with
        | zero => rfl
        | succ links =>
          -- The target of the link comes in front of both; it may have names to drop, too.
          have hfewer := h links rfl (startFrom target place)
          dsimp only
          rw [← hfewer, ← hfewer (Path.segments target ++ rest)]
          simp
      · rfl

/-- Names that lead nowhere else make no difference to where an entry would stand. -/
theorem settle_filter (disk : Disk) (links : Nat) (place names : List String) :
    disk.settle links place (names.filter Path.isStep) = disk.settle links place names := by
  induction links generalizing place names with
  | zero => exact settle_filter_of_fewer (fun _ hlinks => by cases hlinks) place names
  | succ links ih =>
    refine settle_filter_of_fewer (fun links' hlinks => ?_) place names
    obtain rfl := Nat.succ.inj hlinks
    exact ih

theorem namePlace?_eq {front tail : List String}
    (hsegments : Path.segments path = front ++ name :: tail) (hstep : Path.isStep name = true)
    (htail : ∀ other ∈ tail, Path.isStep other = false) :
    disk.namePlace? path =
      (disk.settle maxLinks (disk.start path) front).map fun place => (name :: place).reverse := by
  have hnames : (Path.segments path).filter (fun name => name != "" && name != ".") =
      front.filter Path.isStep ++ [name] := by
    have hnone : tail.filter Path.isStep = [] :=
      List.filter_eq_nil_iff.mpr fun other hother => by simp [htail other hother]
    rw [hsegments, List.filter_append]
    exact congrArg _ ((List.filter_cons_of_pos hstep).trans (congrArg _ hnone))
  simp only [namePlace?, hnames, List.getLast?_concat, List.dropLast_concat, settle_filter]

theorem isLink_eq_false_iff : disk.isLink path = false ↔
    ∀ target, (disk.namePlace? path).bind disk.entryAt? ≠ some (.link target) := by
  rw [isLink]
  split
  · next target hlink => simp [hlink]
  · next hother => simpa using hother

theorem walk_of_not_link (hstep : Path.isStep name = true) (hup : name ≠ "..")
    (hlink : ∀ target, disk.entryAt? (name :: place).reverse ≠ some (.link target))
    (h : disk.walk links place (name :: rest) = some (found, entry)) :
    disk.walk links (name :: place) rest = some (found, entry) := by
  have hstay : ¬ (name = "" || name = ".") = true := by
    rw [← Path.isStep_eq_false_iff, hstep]
    exact Bool.noConfusion
  rw [walk] at h
  split at h
  · rw [if_neg hstay, if_neg hup] at h
    split at h
    · cases h
    · next target htarget => exact absurd htarget (hlink target)
    · exact h
  · cases h

/-- The name that a path ends in is that of the place it leads to, where no link stands for it. -/
theorem exists_place_eq (h : disk.find? path = some (place, entry))
    (hlink : disk.isLink path = false) (hname : Path.fileName? path = some name) :
    ∃ front, place = front ++ [name] := by
  obtain ⟨hstep, hup⟩ := Path.isStep_of_fileName? hname
  obtain ⟨front, tail, hsegments, htail⟩ := Path.exists_segments_eq hname
  obtain ⟨-, hwalk⟩ := find?_eq_some_iff.mp h
  rw [hsegments] at hwalk
  obtain hend | ⟨links, reached, hon⟩ := disk.walk_append maxLinks (disk.start path) front
  · cases (hend _).symm.trans hwalk
  · have hreached : disk.settle maxLinks (disk.start path) front = some reached := by
      have hsettle := (hon []).2
      rwa [List.append_nil, settle] at hsettle
    have hplace : disk.namePlace? path = some (name :: reached).reverse := by
      rw [namePlace?_eq hsegments hstep htail, hreached]
      rfl
    rw [isLink_eq_false_iff, hplace] at hlink
    rw [(hon _).1] at hwalk
    obtain ⟨hsame, -⟩ := walk_stay htail (walk_of_not_link hstep hup hlink hwalk)
    exact ⟨reached.reverse, by rw [← List.reverse_cons, ← hsame, List.reverse_reverse]⟩

end Disk

end YangCheck
