import Mathlib.Data.List.Pairwise
import YangCheck.File.Path

namespace YangCheck.Path

theorem componentLess_iff {a b : String} :
    componentLess a b = true ↔ rank a < rank b ∨ rank a = rank b ∧ a < b := by
  simp [componentLess]

theorem componentLess_asymm {a b : String} (h : componentLess a b = true) :
    componentLess b a = false := by
  rw [← Bool.not_eq_true, componentLess_iff]
  rcases componentLess_iff.mp h with hrank | ⟨hrank, hlt⟩
  · omega
  · rintro (hback | ⟨-, hback⟩)
    · omega
    · exact String.lt_asymm hlt hback

theorem componentLess_trans {a b c : String} (hab : componentLess a b = true)
    (hbc : componentLess b c = true) : componentLess a c = true := by
  rw [componentLess_iff] at hab hbc ⊢
  rcases hab with hab | ⟨hab, hlt⟩
  · left
    omega
  · rcases hbc with hbc | ⟨hbc, hlt'⟩
    · left
      omega
    · exact .inr ⟨hab.trans hbc, String.lt_trans hlt hlt'⟩

theorem componentLess_total {a b : String} (h : a ≠ b) :
    componentLess a b = true ∨ componentLess b a = true := by
  rw [componentLess_iff, componentLess_iff]
  rcases Nat.lt_trichotomy (rank a) (rank b) with hrank | hrank | hrank
  · exact .inl (.inl hrank)
  · by_cases hlt : a < b
    · exact .inl (.inr ⟨hrank, hlt⟩)
    · by_cases hlt' : b < a
      · exact .inr (.inr ⟨hrank.symm, hlt'⟩)
      · exact absurd (String.le_antisymm (String.not_lt.mp hlt') (String.not_lt.mp hlt)) h
  · exact .inr (.inl hrank)

theorem componentsLess_cons {a b : String} {as bs : List String} :
    componentsLess (a :: as) (b :: bs) = true ↔
      componentLess a b = true ∨ a = b ∧ componentsLess as bs = true := by
  simp [componentsLess]

theorem componentsLess_asymm {as bs : List String} (h : componentsLess as bs = true) :
    componentsLess bs as = false := by
  induction as generalizing bs with
  | nil => cases bs <;> rfl
  | cons a as ih =>
    cases bs with
    | nil => cases h
    | cons b bs =>
      rw [← Bool.not_eq_true, componentsLess_cons]
      rcases componentsLess_cons.mp h with hab | ⟨rfl, hrest⟩
      · rintro (hba | ⟨rfl, -⟩)
        · cases (componentLess_asymm hab).symm.trans hba
        · cases (componentLess_asymm hab).symm.trans hab
      · rintro (haa | ⟨-, hback⟩)
        · cases (componentLess_asymm haa).symm.trans haa
        · cases (ih hrest).symm.trans hback

theorem componentsLess_trans {as bs cs : List String} (hab : componentsLess as bs = true)
    (hbc : componentsLess bs cs = true) : componentsLess as cs = true := by
  induction as generalizing bs cs with
  | nil =>
    cases cs with
    | nil => cases bs <;> cases hbc
    | cons c cs => rfl
  | cons a as ih =>
    cases bs with
    | nil => cases hab
    | cons b bs =>
      cases cs with
      | nil => cases hbc
      | cons c cs =>
        rw [componentsLess_cons] at hab hbc ⊢
        rcases hab with hab | ⟨rfl, hab⟩
        · rcases hbc with hbc | ⟨rfl, -⟩
          · exact .inl (componentLess_trans hab hbc)
          · exact .inl hab
        · rcases hbc with hbc | ⟨rfl, hbc⟩
          · exact .inl hbc
          · exact .inr ⟨rfl, ih hab hbc⟩

theorem componentsLess_total {as bs : List String} (h : as ≠ bs) :
    componentsLess as bs = true ∨ componentsLess bs as = true := by
  induction as generalizing bs with
  | nil =>
    cases bs with
    | nil => exact absurd rfl h
    | cons b bs => exact .inl rfl
  | cons a as ih =>
    cases bs with
    | nil => exact .inr rfl
    | cons b bs =>
      rw [componentsLess_cons, componentsLess_cons]
      by_cases hab : a = b
      · subst b
        have hrest : as ≠ bs := fun hrest => h (congrArg _ hrest)
        exact (ih hrest).imp (fun hlt => .inr ⟨rfl, hlt⟩) fun hlt => .inr ⟨rfl, hlt⟩
      · exact (componentLess_total hab).imp .inl .inl

theorem less_asymm {p q : String} (h : less p q = true) : less q p = false :=
  componentsLess_asymm h

theorem not_less_trans {p q r : String} (hpq : less q p = false) (hqr : less r q = false) :
    less r p = false := by
  rw [← Bool.not_eq_true]
  intro hrp
  by_cases hsame : components q = components p
  · rw [less, hsame] at hqr
    cases hqr.symm.trans hrp
  · rcases componentsLess_total hsame with hlt | hlt
    · cases hpq.symm.trans hlt
    · have hrq := componentsLess_trans hrp hlt
      cases hqr.symm.trans hrq

variable {α : Type} {path : α → String} {entries : List α}

theorem sortBy_perm (path : α → String) (entries : List α) :
    (sortBy path entries).Perm entries :=
  List.mergeSort_perm entries _

/-- Sorting puts entries of different paths back into path order, in whatever order they come. -/
theorem sortBy_eq_of_perm {shuffled : List α} (h : shuffled.Perm entries)
    (hsorted : entries.Pairwise fun a b => less (path a) (path b) = true) :
    sortBy path shuffled = entries := by
  have hle : entries.Pairwise fun a b => (!less (path b) (path a)) = true :=
    hsorted.imp fun hab => by rw [less_asymm hab]; rfl
  have hshuffled : (sortBy path shuffled).Pairwise fun a b => (!less (path b) (path a)) = true := by
    apply List.pairwise_mergeSort
    · intro a b c hab hbc
      simp only [Bool.not_eq_true'] at hab hbc ⊢
      exact not_less_trans hab hbc
    · intro a b
      cases hab : less (path a) (path b) with
      | false => simp
      | true => simp [less_asymm hab]
  have hperm : (sortBy path shuffled).Perm entries := (sortBy_perm path shuffled).trans h
  have hdistinct : ∀ a ∈ entries, ∀ b ∈ entries, a ≠ b →
      less (path a) (path b) = true ∨ less (path b) (path a) = true := by
    have hsymm : Std.Symm fun a b : α =>
        less (path a) (path b) = true ∨ less (path b) (path a) = true := ⟨fun _ _ => Or.symm⟩
    intro a ha b hb hne
    exact (hsorted.imp .inl : entries.Pairwise fun a b =>
      less (path a) (path b) = true ∨ less (path b) (path a) = true).forall ha hb hne
  refine hperm.eq_of_pairwise (fun a b ha hb hab hba => ?_) hshuffled hle
  by_contra hne
  rcases hdistinct a (hperm.mem_iff.mp ha) b hb hne with hlt | hlt
  · simp [hlt] at hba
  · simp [hlt] at hab

end YangCheck.Path
