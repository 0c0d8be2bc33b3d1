import Mathlib.Data.List.Basic
import Mathlib.Data.List.TakeWhile
import YangCheck.Text.Blank

namespace YangCheck.Text

variable {s word rest : List Char} {stop : Char}

theorem skipBlanks_of_head (h : ∀ c, s.head? = some c → isBlank c = false) : skipBlanks s = s := by
  cases s with
  | nil => rfl
  | cons c rest => rw [skipBlanks, List.dropWhile_cons_of_neg (by simp [h c rfl])]

theorem trim_of_ends (hhead : ∀ c, s.head? = some c → isBlank c = false)
    (hlast : ∀ c, s.getLast? = some c → isBlank c = false) : trim s = s := by
  rw [trim, skipBlanks_of_head hhead, skipBlanks_of_head, List.reverse_reverse]
  rwa [List.head?_reverse]

theorem skipBlanks_append {left : List Char} (hleft : ∀ c ∈ left, isBlank c = true)
    (s : List Char) : skipBlanks (left ++ s) = skipBlanks s :=
  List.dropWhile_append_of_pos hleft

theorem skipBlanks_append_right {right : List Char} (hright : ∀ c ∈ right, isBlank c = true)
    (s : List Char) :
    skipBlanks (s ++ right) = if skipBlanks s = [] then [] else skipBlanks s ++ right := by
  have hnil : right.dropWhile isBlank = [] := List.dropWhile_eq_nil_iff.mpr hright
  by_cases hblank : skipBlanks s = []
  · rw [if_pos hblank]
    rw [skipBlanks] at hblank
    rw [skipBlanks, List.dropWhile_append, hblank, hnil, List.isEmpty_nil, if_pos rfl]
  · rw [if_neg hblank]
    rw [skipBlanks] at hblank
    rw [skipBlanks, List.dropWhile_append, if_neg (by simpa using hblank), skipBlanks]

theorem trim_append {left right : List Char} (hleft : ∀ c ∈ left, isBlank c = true)
    (hright : ∀ c ∈ right, isBlank c = true) (s : List Char) :
    trim (left ++ s ++ right) = trim s := by
  rw [trim, trim, List.append_assoc, skipBlanks_append hleft, skipBlanks_append_right hright]
  split
  case isTrue hblank => rw [hblank]
  case isFalse =>
    have hback : ∀ c ∈ right.reverse, isBlank c = true := fun c hc =>
      hright c (List.mem_reverse.mp hc)
    rw [List.reverse_append, skipBlanks_append hback]

theorem skipBlanks_append_word (hne : word ≠ []) (hword : ∀ c ∈ word, isBlank c = false)
    (rest : List Char) : skipBlanks (word ++ rest) = word ++ rest := by
  obtain ⟨c, word, rfl⟩ := List.exists_cons_of_ne_nil hne
  refine skipBlanks_of_head fun d hd => ?_
  obtain rfl := Option.some.inj hd
  exact hword _ List.mem_cons_self

theorem prefix_trim (hne : word ≠ []) (hword : ∀ c ∈ word, isBlank c = false)
    (rest : List Char) : word <+: trim (word ++ rest) := by
  have hback : word.reverse.dropWhile isBlank = word.reverse := by
    have hskip := skipBlanks_append_word (List.reverse_ne_nil_iff.mpr hne)
      (fun c hc => hword c (List.mem_reverse.mp hc)) []
    rwa [List.append_nil, skipBlanks] at hskip
  rw [trim, skipBlanks_append_word hne hword, List.reverse_append, skipBlanks,
    List.dropWhile_append]
  split
  · simp only [hback, List.reverse_reverse, List.prefix_rfl]
  · rw [List.reverse_append, List.reverse_reverse]
    exact List.prefix_append _ _

theorem firstWord_append (hword : ∀ c ∈ word, isBlank c = false)
    (hrest : ∀ c, rest.head? = some c → isBlank c = true) : firstWord (word ++ rest) = word := by
  rw [firstWord, List.takeWhile_append_of_pos (by simpa using hword)]
  cases rest with
  | nil => simp
  | cons c rest => rw [List.takeWhile_cons_of_neg (by simp [hrest c rfl]), List.append_nil]

theorem afterWord_append (hword : ∀ c ∈ word, isBlank c = false)
    (hrest : ∀ c, rest.head? = some c → isBlank c = true) : afterWord (word ++ rest) = rest := by
  rw [afterWord, List.dropWhile_append_of_pos (by simpa using hword)]
  cases rest with
  | nil => rfl
  | cons c rest => rw [List.dropWhile_cons_of_neg (by simp [hrest c rfl])]

theorem firstWord_cons (c : Char) (rest : List Char) :
    firstWord (c :: rest) = if isBlank c then [] else c :: firstWord rest := by
  cases hc : isBlank c <;> simp [firstWord, hc]

theorem afterWord_cons (c : Char) (rest : List Char) :
    afterWord (c :: rest) = if isBlank c then c :: rest else afterWord rest := by
  cases hc : isBlank c <;> simp [afterWord, hc]

theorem isBlank_of_mem_firstWord {c : Char} (h : c ∈ firstWord s) : isBlank c = false := by
  simpa using List.mem_takeWhile_imp h

theorem beforeLast?_append (stop : Char) (front : List Char) :
    beforeLast? stop (front ++ [stop]) = some front := by
  induction front with
  | nil => simp [beforeLast?]
  | cons c front ih => simp only [List.cons_append, beforeLast?, ih]

theorem not_mem_of_beforeLast?_eq_none (h : beforeLast? stop s = none) : stop ∉ s := by
  induction s with
  | nil => exact List.not_mem_nil
  | cons c rest ih =>
    rw [beforeLast?] at h
    cases hrest : beforeLast? stop rest with
    | some inner => simp [hrest] at h
    | none =>
      have hc : c ≠ stop := by simpa [hrest] using h
      exact fun hmem => (List.mem_cons.mp hmem).elim (Ne.symm hc) (ih hrest)

/-- The front that is found is the longest one with the mark right behind it. -/
theorem beforeLast?_eq_some_iff {front : List Char} :
    beforeLast? stop s = some front ↔
      front ++ [stop] <+: s ∧ ∀ other, other ++ [stop] <+: s → other.length ≤ front.length := by
  have hfound : ∀ {s front}, beforeLast? stop s = some front →
      front ++ [stop] <+: s ∧ ∀ other, other ++ [stop] <+: s → other.length ≤ front.length := by
    intro s
    induction s with
    | nil => exact nofun
    | cons c rest ih =>
      intro front h
      rw [beforeLast?] at h
      cases hrest : beforeLast? stop rest with
      | some inner =>
        simp only [hrest, Option.some.injEq] at h
        subst front
        obtain ⟨hbegins, hlongest⟩ := ih hrest
        refine ⟨(List.prefix_cons_inj c).mpr hbegins, fun other hother => ?_⟩
        cases other with
        | nil => exact Nat.zero_le _
        | cons d other =>
          have hle := hlongest other (List.cons_prefix_cons.mp hother).2
          simpa using hle
      | none =>
        have hmark := not_mem_of_beforeLast?_eq_none hrest
        simp only [hrest] at h
        split at h
        case isFalse => cases h
        case isTrue hc =>
          cases h
          subst c
          refine ⟨(List.prefix_cons_inj stop).mpr List.nil_prefix, fun other hother => ?_⟩
          cases other with
          | nil => exact Nat.le_refl _
          | cons d other =>
            have hrest := (List.cons_prefix_cons.mp hother).2
            exact absurd (hrest.mem (by simp)) hmark
  refine ⟨hfound, fun ⟨hbegins, hlongest⟩ => ?_⟩
  cases h : beforeLast? stop s with
  | none => exact absurd (hbegins.mem (by simp)) (not_mem_of_beforeLast?_eq_none h)
  | some found =>
    obtain ⟨hfoundPrefix, hfoundLongest⟩ := hfound h
    have hlength : found.length = front.length :=
      Nat.le_antisymm (hlongest _ hfoundPrefix) (hfoundLongest _ hbegins)
    have hsame : found ++ [stop] = front ++ [stop] :=
      (List.prefix_of_prefix_length_le hfoundPrefix hbegins (by simp [hlength])).eq_of_length
        (by simp [hlength])
    rw [List.append_cancel_right hsame]

theorem prefix_of_beforeLast? {front : List Char} (h : beforeLast? stop s = some front) :
    front <+: s :=
  (List.prefix_append _ _).trans (beforeLast?_eq_some_iff.mp h).1

theorem mem_of_beforeLast? {front : List Char} (h : beforeLast? stop s = some front) :
    stop ∈ s :=
  (beforeLast?_eq_some_iff.mp h).1.mem (List.mem_append_right _ List.mem_cons_self)

theorem count_of_beforeLast? {front : List Char} (h : beforeLast? stop s = some front) :
    s.count stop = front.count stop + 1 := by
  induction s generalizing front with
  | nil => cases h
  | cons c rest ih =>
    rw [beforeLast?] at h
    cases hrest : beforeLast? stop rest with
    | some inner =>
      obtain rfl : c :: inner = front := by simpa [hrest] using h
      rw [List.count_cons, ih hrest, List.count_cons]
      omega
    | none =>
      obtain ⟨rfl, rfl⟩ : c = stop ∧ [] = front := by simpa [hrest] using h
      rw [List.count_cons_self, List.count_eq_zero.mpr (not_mem_of_beforeLast?_eq_none hrest)]
      rfl

variable {c : Char}

theorem count_skipBlanks (h : isBlank c = false) (s : List Char) :
    (skipBlanks s).count c = s.count c := by
  have hfront : (s.takeWhile isBlank).count c = 0 := by
    refine List.count_eq_zero.mpr fun hmem => ?_
    cases h.symm.trans (List.mem_takeWhile_imp hmem)
  have hsplit := congrArg (List.count c) (List.takeWhile_append_dropWhile (p := isBlank) (l := s))
  rw [List.count_append, hfront, Nat.zero_add] at hsplit
  exact hsplit

theorem count_trim (h : isBlank c = false) (s : List Char) : (trim s).count c = s.count c := by
  rw [trim, List.count_reverse, count_skipBlanks h, List.count_reverse, count_skipBlanks h]

theorem occurs_iff {part s : List Char} : occurs part s = true ↔ part <:+: s := by
  induction s with
  | nil => rw [occurs, List.isEmpty_iff, List.infix_nil]
  | cons c rest ih =>
    rw [occurs, Bool.or_eq_true_iff, List.isPrefixOf_iff_prefix, ih, List.infix_cons_iff]

theorem prefix_of_append_cons {part front back : List Char} {c : Char} (hc : c ∉ part)
    (h : part <+: front ++ c :: back) : part <+: front := by
  rcases List.prefix_or_prefix_of_prefix h (List.prefix_append _ _) with hle | ⟨t, rfl⟩
  · exact hle
  · cases t with
    | nil => simp
    | cons d t =>
      obtain ⟨rfl, -⟩ := List.cons_prefix_cons.mp ((List.prefix_append_right_inj front).mp h)
      exact absurd (List.mem_append_right front List.mem_cons_self) hc

theorem infix_of_cons {part back : List Char} {c : Char} (hc : c ∉ part)
    (h : part <:+: c :: back) : part <:+: back := by
  rcases List.infix_cons_iff.mp h with hbegins | hback
  · have hnil : part <+: [] := prefix_of_append_cons hc hbegins
    rw [List.prefix_nil.mp hnil]
    exact List.nil_infix
  · exact hback

theorem infix_append_cons {part front back : List Char} {c : Char} (hc : c ∉ part)
    (h : part <:+: front ++ c :: back) : part <:+: front ∨ part <:+: back := by
  induction front with
  | nil => exact .inr (infix_of_cons hc h)
  | cons d front ih =>
    rcases List.infix_cons_iff.mp h with hbegins | hrest
    · have hfront : part <+: d :: front := prefix_of_append_cons hc hbegins
      exact .inl hfront.isInfix
    · exact (ih hrest).imp_left fun hin => hin.trans (List.suffix_cons d front).isInfix

end YangCheck.Text
