import Mathlib.Data.List.TakeWhile
import YangCheck.Proofs.File.Path

namespace YangCheck.Path

/-- Whether an entry of a directory can have this name. -/
def isName (name : String) : Bool :=
  name != "" && name != "." && name != ".." && name.toList.all fun c => c != '/' && c != '\x00'

/-- Whether a name between the slashes of a path leads anywhere else. -/
def isStep (name : String) : Bool :=
  name != "" && name != "."

variable {directory name : String}

theorem isName_iff : isName name = true ↔
    name ≠ "" ∧ name ≠ "." ∧ name ≠ ".." ∧ '/' ∉ name.toList ∧ '\x00' ∉ name.toList := by
  simp only [isName, Bool.and_eq_true_iff, bne_iff_ne, List.all_eq_true]
  grind

theorem isStep_eq_false_iff : isStep name = false ↔ (name = "" || name = ".") = true := by
  rw [isStep, Bool.and_eq_false_iff, bne_eq_false_iff_eq, bne_eq_false_iff_eq, Bool.or_eq_true,
    decide_eq_true_iff, decide_eq_true_iff]

theorem segmentsAfter_append (front s rest : List Char) :
    segmentsAfter front (s ++ '/' :: rest) = segmentsAfter front s ++ segmentsAfter [] rest := by
  induction s generalizing front with
  | nil => rfl
  | cons c s ih =>
    by_cases hc : c = '/'
    · subst c
      rw [List.cons_append, segmentsAfter, segmentsAfter, ih]
      rfl
    · rw [List.cons_append, segmentsAfter, segmentsAfter, ih]
      · simpa using hc
      · simpa using hc

theorem segmentsAfter_of_not_mem {s : List Char} (h : '/' ∉ s) (front : List Char) :
    segmentsAfter front s = [front.reverse ++ s] := by
  induction s generalizing front with
  | nil => simp [segmentsAfter]
  | cons c s ih =>
    obtain ⟨hc, hs⟩ : c ≠ '/' ∧ '/' ∉ s := by
      simpa [eq_comm] using h
    rw [segmentsAfter, ih hs]
    · simp
    · exact hc

theorem segments_name (h : isName name = true) : segments name = [name] := by
  obtain ⟨-, -, -, hslash, -⟩ := isName_iff.mp h
  rw [segments, segmentsAfter_of_not_mem hslash]
  simp

theorem toList_join (directory name : String) :
    (join directory name).toList = directory.toList ++
      if directory.toList.getLast? = some '/' then name.toList else '/' :: name.toList := by
  rw [join]
  by_cases hslash : directory.toList.getLast? = some '/' <;> simp [hslash]

/-- A slash at the end of a path leaves an empty segment, which a name takes the place of. -/
theorem segments_join (directory : String) (h : isName name = true) :
    ∃ front tail, (tail = [] ∨ tail = [""]) ∧ segments directory = front ++ tail ∧
      segments (join directory name) = front ++ [name] := by
  have hname : segmentsAfter [] name.toList = [name.toList] :=
    segmentsAfter_of_not_mem (isName_iff.mp h).2.2.2.1 []
  by_cases hslash : directory.toList.getLast? = some '/'
  · obtain ⟨front, hfront⟩ := List.getLast?_eq_some_iff.mp hslash
    refine ⟨(segmentsAfter [] front).map String.ofList, [""], .inr rfl, ?_, ?_⟩
    · rw [segments, hfront, segmentsAfter_append, List.map_append]
      rfl
    · rw [segments, toList_join, if_pos hslash, hfront, List.append_assoc, List.singleton_append,
        segmentsAfter_append, hname, List.map_append]
      simp
  · refine ⟨segments directory, [], .inl rfl, (List.append_nil _).symm, ?_⟩
    rw [segments, toList_join, if_neg hslash, segmentsAfter_append, hname, List.map_append,
      segments]
    simp

theorem isAbsolute_join (hdirectory : directory ≠ "") :
    isAbsolute (join directory name) = isAbsolute directory := by
  have hne : directory.toList ≠ [] := fun hnil => hdirectory (String.toList_eq_nil_iff.mp hnil)
  obtain ⟨c, rest, hchars⟩ := List.exists_cons_of_ne_nil hne
  rw [isAbsolute, isAbsolute, toList_join, hchars]
  rfl

theorem components_join (hdirectory : directory ≠ "") (h : isName name = true) :
    components (join directory name) = components directory ++ [name] := by
  obtain ⟨hempty, hdot, -, -, -⟩ := isName_iff.mp h
  have hnames : (segments (join directory name)).filter (· != "") =
      (segments directory).filter (· != "") ++ [name] := by
    obtain ⟨front, tail, rfl | rfl, hfront, hjoin⟩ := segments_join directory h <;>
      simp [hfront, hjoin, hempty]
  rw [components, components, hnames, isAbsolute_join hdirectory]
  cases (segments directory).filter (· != "") with
  | nil => simp [hdot]
  | cons first rest =>
    rw [List.cons_append, List.head?_cons, List.head?_cons, ← List.cons_append, List.filter_append]
    simp [hdot]

theorem utf8ByteSize_join (directory : String) (h : isName name = true) :
    directory.utf8ByteSize < (join directory name).utf8ByteSize := by
  have hname : 0 < name.utf8ByteSize := by
    have hne := (isName_iff.mp h).1
    rwa [Nat.pos_iff_ne_zero, ne_eq, String.utf8ByteSize_eq_zero_iff]
  rw [join]
  split <;> simp only [String.utf8ByteSize_append] <;> omega

theorem join_ne_empty (directory : String) (h : isName name = true) :
    join directory name ≠ "" := by
  intro hempty
  have hlonger := utf8ByteSize_join directory h
  simp [hempty] at hlonger

theorem not_mem_join {c : Char} (hc : c ≠ '/') (hdirectory : c ∉ directory.toList)
    (hname : c ∉ name.toList) : c ∉ (join directory name).toList := by
  rw [toList_join]
  split <;> simp [hc, hdirectory, hname]

theorem ne_root_of_isName (h : isName name = true) : name ≠ "/" := by
  rintro rfl
  exact (isName_iff.mp h).2.2.2.1 (by decide)

theorem not_mem_segmentsAfter {s front segment : List Char} (hfront : '/' ∉ front)
    (h : segment ∈ segmentsAfter front s) : '/' ∉ segment := by
  induction s generalizing front with
  | nil =>
    obtain rfl := List.mem_singleton.mp h
    exact fun hmem => hfront (List.mem_reverse.mp hmem)
  | cons c s ih =>
    by_cases hc : c = '/'
    · subst c
      rw [segmentsAfter, List.mem_cons] at h
      rcases h with rfl | hrest
      · exact fun hmem => hfront (List.mem_reverse.mp hmem)
      · exact ih List.not_mem_nil hrest
    · rw [segmentsAfter] at h
      · refine ih (fun hmem => ?_) h
        rcases List.mem_cons.mp hmem with hslash | hmem
        · exact hc hslash.symm
        · exact hfront hmem
      · simpa using hc

theorem not_mem_of_mem_segments {path : String} (h : name ∈ segments path) :
    '/' ∉ name.toList := by
  obtain ⟨segment, hsegment, rfl⟩ := List.mem_map.mp h
  rw [String.toList_ofList]
  exact not_mem_segmentsAfter List.not_mem_nil hsegment

/-- In front of the names of a path there is at most a sign of where it starts. -/
theorem exists_components_eq (path : String) :
    ∃ front, (front = [] ∨ front = ["/"] ∨ front = ["."]) ∧
      components path = front ++ (segments path).filter isStep := by
  have hnames : ((segments path).filter (· != "")).filter (· != ".") =
      (segments path).filter isStep := by
    rw [List.filter_filter]
    exact List.filter_congr fun name _ => Bool.and_comm _ _
  simp only [components, hnames]
  split
  · exact ⟨_, .inr (.inl rfl), rfl⟩
  · split
    · exact ⟨_, .inr (.inr rfl), rfl⟩
    · exact ⟨_, .inl rfl, rfl⟩

theorem fileName?_eq_some_iff {path : String} : fileName? path = some name ↔
    ((segments path).filter isStep).getLast? = some name ∧ name ≠ ".." := by
  obtain ⟨front, hfront, hcomponents⟩ := exists_components_eq path
  rw [fileName?, hcomponents]
  cases hlast : ((segments path).filter isStep).getLast? with
  | none =>
    rw [List.getLast?_eq_none_iff.mp hlast, List.append_nil]
    rcases hfront with rfl | rfl | rfl <;> simp
  | some last =>
    obtain ⟨hmem, hstep⟩ := List.mem_filter.mp (List.mem_of_getLast? hlast)
    have hroot : last ≠ "/" := by
      rintro rfl
      exact not_mem_of_mem_segments hmem (by decide)
    have hdot : last ≠ "." := by
      rintro rfl
      cases hstep
    rw [List.getLast?_append, hlast, Option.some_or]
    split
    · next hnone => cases hnone
    · next hsome => exact absurd (Option.some_inj.mp hsome) hroot
    · next hsome => exact absurd (Option.some_inj.mp hsome) hdot
    · next hup =>
      cases hup
      simp [eq_comm]
    · next hup hsome =>
      cases hsome
      rw [iff_self_and]
      rintro ⟨⟩ hname
      exact hup hname

theorem isStep_of_fileName? {path : String} (h : fileName? path = some name) :
    isStep name = true ∧ name ≠ ".." := by
  obtain ⟨hlast, hup⟩ := fileName?_eq_some_iff.mp h
  exact ⟨(List.mem_filter.mp (List.mem_of_getLast? hlast)).2, hup⟩

theorem getLast?_filter_isStep {front : List String} (h : isStep name = true) :
    ((front ++ [name]).filter isStep).getLast? = some name := by
  rw [List.filter_append, List.filter_cons_of_pos h]
  exact List.getLast?_concat

theorem fileName?_join (h : isName name = true) : fileName? (join directory name) = some name := by
  obtain ⟨hempty, hdot, hup, -, -⟩ := isName_iff.mp h
  obtain ⟨front, -, -, -, hjoin⟩ := segments_join directory h
  have hstep : isStep name = true := by
    simp [isStep, hempty, hdot]
  refine fileName?_eq_some_iff.mpr ⟨?_, hup⟩
  rw [hjoin, getLast?_filter_isStep hstep]

theorem segments_ofNames_concat (front : List String) (h : '/' ∉ name.toList) :
    ∃ others, segments (ofNames (front ++ [name])) = others ++ [name] := by
  have hchars : ∃ before, (ofNames (front ++ [name])).toList = before ++ '/' :: name.toList := by
    by_cases hfront : front = []
    · exact ⟨[], by simp [ofNames, hfront]⟩
    · refine ⟨(ofNames front).toList, ?_⟩
      rw [ofNames, ofNames, String.intercalate_append_of_ne_nil hfront (List.cons_ne_nil _ _)]
      simp
  obtain ⟨before, hbefore⟩ := hchars
  refine ⟨(segmentsAfter [] before).map String.ofList, ?_⟩
  rw [segments, hbefore, segmentsAfter_append, segmentsAfter_of_not_mem h, List.map_append]
  simp

theorem fileName?_ofNames {path : String} (h : fileName? path = some name) (front : List String) :
    fileName? (ofNames (front ++ [name])) = some name := by
  obtain ⟨hlast, hup⟩ := fileName?_eq_some_iff.mp h
  obtain ⟨hmem, hstep⟩ := List.mem_filter.mp (List.mem_of_getLast? hlast)
  obtain ⟨others, hsegments⟩ := segments_ofNames_concat front (not_mem_of_mem_segments hmem)
  refine fileName?_eq_some_iff.mpr ⟨?_, hup⟩
  rw [hsegments, getLast?_filter_isStep hstep]

theorem exists_segments_eq {path : String} (h : fileName? path = some name) :
    ∃ front tail, segments path = front ++ name :: tail ∧
      ∀ other ∈ tail, isStep other = false := by
  obtain ⟨hlast, -⟩ := fileName?_eq_some_iff.mp h
  obtain ⟨steps, hsteps⟩ := List.getLast?_eq_some_iff.mp hlast
  obtain ⟨front, behind, hsegments, -, hbehind⟩ := List.filter_eq_append_iff.mp hsteps
  obtain ⟨between, tail, rfl, -, -, htail⟩ := List.filter_eq_cons_iff.mp hbehind
  refine ⟨front ++ between, tail, ?_, ?_⟩
  · rw [hsegments, List.append_assoc]
  · intro other hother
    simpa using List.filter_eq_nil_iff.mp htail other hother

theorem extension?_eq_some_iff {path extension : String} (hname : fileName? path = some name) :
    extension? path = some extension ↔
      ∃ stem, stem ≠ "" ∧ '.' ∉ extension.toList ∧ name = stem ++ "." ++ extension := by
  have hbackwards (stem extension : String) : name = stem ++ "." ++ extension ↔
      name.toList.reverse = extension.toList.reverse ++ '.' :: stem.toList.reverse := by
    rw [← String.toList_inj, List.reverse_eq_iff]
    simp
  simp only [extension?, hname, hbackwards]
  constructor
  · intro h
    simp only [Option.bind_eq_bind, Option.bind_some] at h
    split at h
    · next dot c before hdrop =>
      cases h
      obtain rfl : dot = '.' := by
        simpa [hdrop] using List.head_dropWhile_not (· != '.') (l := name.toList.reverse)
          (by simp [hdrop])
      refine ⟨String.ofList (c :: before).reverse, by simp, ?_, ?_⟩
      · intro hmem
        rw [String.toList_ofList, List.mem_reverse] at hmem
        exact absurd (List.mem_takeWhile_imp hmem) (by decide)
      · simp [← hdrop]
    · cases h
  · rintro ⟨stem, hstem, hextension, hname⟩
    have hdot : ∀ c ∈ extension.toList.reverse, (c != '.') = true := by
      intro c hc
      rw [bne_iff_ne]
      rintro rfl
      exact hextension (List.mem_reverse.mp hc)
    obtain ⟨c, before, hbefore⟩ := List.exists_cons_of_ne_nil
      (List.reverse_ne_nil_iff.mpr (mt String.toList_eq_nil_iff.mp hstem))
    simp [hname, hbefore, List.takeWhile_append_of_pos hdot, List.dropWhile_append_of_pos hdot]

theorem rank_name (h : isName name = true) : rank name = 3 := by
  obtain ⟨-, hdot, hup, -, -⟩ := isName_iff.mp h
  simp [rank, ne_root_of_isName h, hdot, hup]

theorem componentLess_names {a b : String} (ha : isName a = true) (hb : isName b = true)
    (h : a < b) : componentLess a b = true :=
  componentLess_iff.mpr (.inr ⟨(rank_name ha).trans (rank_name hb).symm, h⟩)

theorem componentsLess_append (front as bs : List String) :
    componentsLess (front ++ as) (front ++ bs) = componentsLess as bs := by
  induction front with
  | nil => rfl
  | cons a front ih =>
    have hself : componentLess a a = false := by
      rw [← Bool.not_eq_true]
      intro hless
      cases (componentLess_asymm hless).symm.trans hless
    simp [componentsLess, hself, ih]

/-- Paths that part at a name are ordered by that name, whatever follows it. -/
theorem less_of_prefix {p q a b : String} {front : List String} (ha : isName a = true)
    (hb : isName b = true) (hab : a < b) (hp : front ++ [a] <+: components p)
    (hq : front ++ [b] <+: components q) : less p q = true := by
  obtain ⟨more, hp⟩ := hp
  obtain ⟨more', hq⟩ := hq
  rw [less, ← hp, ← hq, List.append_assoc, List.append_assoc, componentsLess_append]
  exact componentsLess_cons.mpr (.inl (componentLess_names ha hb hab))

end YangCheck.Path
