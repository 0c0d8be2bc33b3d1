import YangCheck.Text.Lowercase

namespace YangCheck.Text

theorem lowerChar_of_ascii {c : Char} (h : c.toNat < 0x80) : lowerChar c = [c.toLower] := by
  rw [lowerChar, if_pos h]

theorem lowerAfter_of_ascii {s : List Char} (h : ∀ c ∈ s, c.toNat < 0x80) (front : List Char) :
    lowerAfter front s = s.map Char.toLower := by
  induction s generalizing front with
  | nil => rfl
  | cons c rest ih =>
    have hc := h c List.mem_cons_self
    have hsigma : c ≠ 'Σ' := by
      rintro rfl
      exact absurd hc (by decide)
    rw [lowerAfter, if_neg hsigma, lowerChar_of_ascii hc,
      ih fun d hd => h d (List.mem_cons_of_mem c hd)]
    rfl

def yang : List Char :=
  ['y', 'a', 'n', 'g']

theorem toNat_of_mem_yang : ∀ d ∈ yang, d.toNat ≠ 0 ∧ d.toNat < 0x80 := by
  simp [yang]

/-- No run of the table leads from beyond ASCII to one of these letters. Two other letters are
reached so: `i` from the dotted capital, `k` from the sign for kelvin. -/
theorem not_covers_of_yang :
    ∀ run ∈ caseRuns.toList, ∀ d ∈ yang, 0x80 ≤ ((d.toNat : Int) - run.shift).toNat →
      run.covers ((d.toNat : Int) - run.shift).toNat = false := by
  have hall : (caseRuns.toList.all fun run => yang.all fun d =>
      0x80 ≤ ((d.toNat : Int) - run.shift).toNat →
        run.covers ((d.toNat : Int) - run.shift).toNat = false) = true := by
    decide +kernel
  simpa only [List.all_eq_true, decide_eq_true_eq] using hall

theorem toNat_of_eq_ofNat {n : Nat} {d : Char} (hd : d.toNat ≠ 0) (h : d = Char.ofNat n) :
    d.toNat = n := by
  by_cases hn : n.isValidChar
  · rw [h, Char.ofNat, dif_pos hn]
    rfl
  · rw [h, Char.ofNat, dif_neg hn] at hd
    exact absurd rfl hd

theorem ascii_of_mem_lowerChar {c d : Char} (hd : d ∈ yang) (h : d ∈ lowerChar c) :
    c.toNat < 0x80 := by
  refine Decidable.byContradiction fun hascii => ?_
  have hdotted : ∀ d ∈ yang, d ∉ ['i', Char.ofNat 0x307] := by
    simp [yang]
  rw [lowerChar, if_neg hascii] at h
  split at h
  · exact absurd h (hdotted d hd)
  · split at h
    · next run hfind =>
      have hcovers := Array.find?_some hfind
      obtain ⟨hletter, -⟩ := toNat_of_mem_yang d hd
      have hlower : d.toNat = ((c.toNat : Int) + run.shift).toNat :=
        toNat_of_eq_ofNat hletter (List.mem_singleton.mp h)
      have hc : ((d.toNat : Int) - run.shift).toNat = c.toNat := by omega
      have hnever := not_covers_of_yang run
        (Array.mem_toList_iff.mpr (Array.mem_of_find?_eq_some hfind)) d hd
      rw [hc] at hnever
      rw [hnever (Nat.not_lt.mp hascii)] at hcovers
      cases hcovers
    · obtain rfl := List.mem_singleton.mp h
      exact hascii (toNat_of_mem_yang d hd).2

theorem ascii_of_toLower {c : Char} (h : c.toLower ∈ yang) : c.toNat < 0x80 := by
  refine Decidable.byContradiction fun hascii => ?_
  have hsame : c.toLower = c := by
    refine dif_neg ?_
    rintro ⟨-, hle⟩
    have hle : c.toNat ≤ 90 := hle
    omega
  rw [hsame] at h
  exact hascii (toNat_of_mem_yang c h).2

theorem exists_mem_lowerAfter {c : Char} {s : List Char} (hc : c ∈ s) (front : List Char) :
    ∃ d ∈ lowerAfter front s, d ∈ yang → c.toNat < 0x80 := by
  induction s generalizing front with
  | nil => cases hc
  | cons first rest ih =>
    rw [lowerAfter]
    rcases List.mem_cons.mp hc with rfl | hrest
    · split
      · next hsigma =>
        refine ⟨_, List.mem_append_left _ List.mem_cons_self, fun hd => ?_⟩
        split at hd
        · exact absurd hd (by decide)
        · exact absurd hd (by decide)
      · obtain ⟨d, hd⟩ : ∃ d, d ∈ lowerChar c := by
          rw [lowerChar]
          split
          · exact ⟨_, List.mem_cons_self⟩
          · split
            · exact ⟨_, List.mem_cons_self⟩
            · split <;> exact ⟨_, List.mem_cons_self⟩
        exact ⟨d, List.mem_append_left _ hd, fun hyang => ascii_of_mem_lowerChar hyang hd⟩
    · obtain ⟨d, hd, hascii⟩ := ih hrest (first :: front)
      exact ⟨d, List.mem_append_right _ hd, hascii⟩

/-- The full lower case of a text is `yang` just where its plain ASCII lower case is. -/
theorem lowercase_eq_yang_iff (s : String) :
    lowercase s = "yang" ↔ s.toList.map Char.toLower = "yang".toList := by
  have hyang : "yang".toList = yang := by decide
  have hchars : lowercase s = "yang" ↔ lowerAfter [] s.toList = yang := by
    rw [lowercase, ← String.toList_inj, String.toList_ofList, hyang]
  rw [hchars, hyang]
  constructor
  · intro h
    rw [← h, lowerAfter_of_ascii]
    intro c hc
    obtain ⟨d, hd, hascii⟩ := exists_mem_lowerAfter hc []
    exact hascii (h ▸ hd)
  · intro h
    rw [← h, lowerAfter_of_ascii]
    intro c hc
    exact ascii_of_toLower (h ▸ List.mem_map_of_mem hc)

end YangCheck.Text
