import YangCheck.File.Disk
import YangCheck.Proofs.File.Join

namespace YangCheck.Disk

variable {disk : Disk} {directory name : String} {place : List String}
  {entries inner : List (String × Entry)} {entry : Entry}

/-- The walk past a first name either ends, or goes on elsewhere with fewer links or fewer names;
what is looked for without a walk is then looked for from there, too. -/
theorem walk_cons (disk : Disk) (links : Nat) (place : List String) (name : String)
    (rest : List String) :
    (∀ more, disk.walk links place (name :: rest ++ more) = none) ∨
      ∃ links' place' names, (links' < links ∨ links' = links ∧ names = rest) ∧
        ∀ more, disk.walk links place (name :: rest ++ more) =
            disk.walk links' place' (names ++ more) ∧
          disk.settle links place (name :: rest ++ more) =
            disk.settle links' place' (names ++ more) := by
  simp only [List.cons_append, walk, settle]
  split
  · by_cases hstay : (name = "" || name = ".") = true
    · simp only [if_pos hstay]
      exact .inr ⟨links, place, rest, .inr ⟨rfl, rfl⟩, fun _ => ⟨rfl, rfl⟩⟩
    simp only [if_neg hstay]
    by_cases hup : name = ".."
    · simp only [if_pos hup]
      exact .inr ⟨links, place.tail, rest, .inr ⟨rfl, rfl⟩, fun _ => ⟨rfl, rfl⟩⟩
    simp only [if_neg hup]
    cases disk.entryAt? (name :: place).reverse with
    | none => exact .inl fun _ => rfl
    | some entry =>
      cases entry with
      | link target =>
        cases links with
        | zero => exact .inl fun _ => rfl
        | succ links =>
          by_cases hempty : target.isEmpty = true
          · simp [hempty]
          · refine .inr ⟨links, startFrom target place, Path.segments target ++ rest,
              .inl links.lt_succ_self, fun more => ?_⟩
            simp [hempty]
      | file | directory | device =>
        exact .inr ⟨links, name :: place, rest, .inr ⟨rfl, rfl⟩, fun _ => ⟨rfl, rfl⟩⟩
  · exact .inl fun _ => rfl

theorem walk_append (disk : Disk) (links : Nat) (place names : List String) :
    (∀ more, disk.walk links place (names ++ more) = none) ∨
      ∃ links' place', ∀ more,
        disk.walk links place (names ++ more) = disk.walk links' place' more ∧
        disk.settle links place (names ++ more) = disk.settle links' place' more := by
  match names with
  | [] => exact .inr ⟨links, place, fun _ => ⟨rfl, rfl⟩⟩
  | name :: rest =>
    obtain hend | ⟨links', place', names', hless, hon⟩ := walk_cons disk links place name rest
    · exact .inl hend
    · simp only [hon]
      exact walk_append disk links' place' names'
termination_by (links, names.length)
decreasing_by
  rcases hless with hless | ⟨rfl, rfl⟩
  · exact .left _ _ hless
  · exact .right _ (Nat.lt_succ_self _)

theorem lookup?_concat (h : lookup? entries place = some (.directory inner)) :
    lookup? entries (place ++ [name]) = named? inner name := by
  induction place generalizing entries with
  | nil =>
    cases h
    rw [List.nil_append, lookup?]
    cases named? inner name with
    | none => rfl
    | some entry => cases entry <;> rfl
  | cons first place ih =>
    rw [lookup?] at h
    rw [List.cons_append, lookup?]
    cases hfirst : named? entries first with
    | none => simp [hfirst] at h
    | some entry =>
      rw [hfirst] at h
      cases entry with
      | directory below => exact ih h
      | file | link | device =>
        revert h
        cases place <;> simp

theorem walk_stay {links : Nat} {names found : List String}
    (hnames : ∀ name ∈ names, Path.isStep name = false)
    (h : disk.walk links place names = some (found, entry)) :
    found = place ∧ disk.entryAt? place.reverse = some entry := by
  induction names with
  | nil =>
    rw [walk, Option.map_eq_some_iff] at h
    obtain ⟨here, hentry, hsame⟩ := h
    cases hsame
    exact ⟨rfl, hentry⟩
  | cons name rest ih =>
    have hstay := Path.isStep_eq_false_iff.mp (hnames name List.mem_cons_self)
    rw [walk] at h
    split at h
    · rw [if_pos hstay] at h
      exact ih (fun name hname => hnames name (List.mem_cons_of_mem _ hname)) h
    · cases h

theorem walk_name (links : Nat) (hplace : disk.entryAt? place.reverse = some (.directory entries))
    (hname : Path.isName name = true) (hentry : named? entries name = some entry)
    (hlink : ∀ target, entry ≠ .link target) :
    disk.walk links place [name] = some (name :: place, entry) := by
  obtain ⟨hempty, hdot, hup, -, -⟩ := Path.isName_iff.mp hname
  have hat : disk.entryAt? (name :: place).reverse = some entry := by
    rw [List.reverse_cons, entryAt?, lookup?_concat hplace, hentry]
  rw [walk, hplace]
  simp only [hempty, hdot, hup, decide_false, Bool.or_self, Bool.false_eq_true, if_false, hat]
  cases entry with
  | link target => exact absurd rfl (hlink target)
  | file | directory | device => rw [walk, hat]; rfl

theorem find?_eq_some_iff {path : String} : disk.find? path = some (place, entry) ↔
    (path ≠ "" ∧ '\x00' ∉ path.toList ∧ path.utf8ByteSize < maxPathBytes) ∧
      disk.walk maxLinks (disk.start path) (Path.segments path) = some (place.reverse, entry) := by
  have hplace (reached : List String × Entry) :
      (reached.1.reverse, reached.2) = (place, entry) ↔ reached = (place.reverse, entry) := by
    rw [Prod.ext_iff, Prod.ext_iff, List.reverse_eq_iff]
  rw [find?, Option.ite_none_left_eq_some, Option.map_eq_some_iff]
  simp only [hplace, exists_eq_right, Bool.or_eq_true, not_or, String.isEmpty_iff,
    List.contains_iff_mem, decide_eq_true_eq, Nat.not_le, and_assoc, ne_eq]

theorem file?_eq_some_iff {path : String} {content : ByteArray} :
    disk.file? path = some (place, content) ↔ disk.find? path = some (place, .file content) := by
  rw [file?]
  split
  · next found bytes hfind => simp [hfind]
  · next hother =>
    constructor
    · intro hnone
      cases hnone
    · exact fun hfind => absurd hfind (hother place content)

theorem find?_name (hplace : disk.workingDirectory = []) (hname : Path.isName name = true)
    (hentry : named? disk.root name = some entry) (hlink : ∀ target, entry ≠ .link target)
    (hshort : name.utf8ByteSize < maxPathBytes) : disk.find? name = some ([name], entry) := by
  obtain ⟨hempty, -, -, -, hnul⟩ := Path.isName_iff.mp hname
  have hstart : disk.start name = [] := by
    rw [start, startFrom, hplace, List.reverse_nil, ite_self]
  refine find?_eq_some_iff.mpr ⟨⟨hempty, hnul, hshort⟩, ?_⟩
  rw [hstart, Path.segments_name hname]
  exact walk_name maxLinks rfl hname hentry hlink

theorem file?_name {content : ByteArray} (hplace : disk.workingDirectory = [])
    (hname : Path.isName name = true) (hentry : named? disk.root name = some (.file content))
    (hshort : name.utf8ByteSize < maxPathBytes) : disk.file? name = some ([name], content) :=
  file?_eq_some_iff.mpr (find?_name hplace hname hentry (by simp) hshort)

/-- An entry of a directory, where it is no link, is what its name leads to from there. -/
theorem find?_join (h : disk.find? directory = some (place, .directory entries))
    (hname : Path.isName name = true) (hentry : named? entries name = some entry)
    (hlink : ∀ target, entry ≠ .link target)
    (hshort : (Path.join directory name).utf8ByteSize < maxPathBytes) :
    disk.find? (Path.join directory name) = some (place ++ [name], entry) := by
  obtain ⟨⟨hdirectory, hnul, -⟩, hwalk⟩ := find?_eq_some_iff.mp h
  have hstart : disk.start (Path.join directory name) = disk.start directory := by
    rw [start, start, startFrom, startFrom, Path.isAbsolute_join hdirectory]
  obtain ⟨front, tail, htail, hfront, hjoin⟩ := Path.segments_join directory hname
  refine find?_eq_some_iff.mpr ⟨⟨Path.join_ne_empty directory hname, ?_, hshort⟩, ?_⟩
  · exact Path.not_mem_join (by decide) hnul (Path.isName_iff.mp hname).2.2.2.2
  · rw [hstart, hjoin]
    rw [hfront] at hwalk
    obtain hend | ⟨links, reached, hon⟩ := disk.walk_append maxLinks (disk.start directory) front
    · cases (hend tail).symm.trans hwalk
    · rw [(hon _).1] at hwalk ⊢
      have hstay : ∀ other ∈ tail, Path.isStep other = false := by
        rcases htail with rfl | rfl <;> decide
      obtain ⟨rfl, hplace⟩ := walk_stay hstay hwalk
      rw [walk_name links hplace hname hentry hlink, List.reverse_append]
      rfl

end YangCheck.Disk
