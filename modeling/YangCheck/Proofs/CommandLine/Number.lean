import Mathlib.Data.Nat.Digits.Defs
import YangCheck.CommandLine.Options

namespace YangCheck.CommandLine

/-- Characters spell a number by its decimal digits, one at least; the digits are listed from the
last. Zeros may stand in front of it, and it has to fit into 64 bits. -/
def SpelledBy (n : Nat) (cs : List Char) : Prop :=
  ∃ digits : List Nat, digits ≠ [] ∧ (∀ digit ∈ digits, digit < 10) ∧
    cs = (digits.map Nat.digitChar).reverse ∧ n = Nat.ofDigits 10 digits ∧ n < 2 ^ 64

/-- A text spells a number with or without a plus sign in front. -/
def Spells (text : String) (n : Nat) : Prop :=
  SpelledBy n text.toList ∨ ∃ cs, text.toList = '+' :: cs ∧ SpelledBy n cs

theorem isDigit_iff_exists_digitChar {c : Char} :
    c.isDigit = true ↔ ∃ digit < 10, c = Nat.digitChar digit := by
  constructor
  · intro h
    simp only [Char.isDigit, Bool.and_eq_true, decide_eq_true_eq, ge_iff_le,
      UInt32.le_iff_toNat_le] at h
    have hbounds : 48 ≤ c.toNat ∧ c.toNat ≤ 57 := h
    refine ⟨c.toNat - 48, by omega, Char.toNat_inj.mp ?_⟩
    rw [Nat.toNat_digitChar_of_lt_ten (by omega)]
    omega
  · rintro ⟨digit, hdigit, rfl⟩
    rw [Nat.isDigit_digitChar, decide_eq_true hdigit]

theorem exists_digits {cs : List Char} (h : ∀ c ∈ cs, c.isDigit = true) :
    ∃ digits : List Nat, (∀ digit ∈ digits, digit < 10) ∧
      cs = (digits.map Nat.digitChar).reverse := by
  induction cs with
  | nil => exact ⟨[], nofun, rfl⟩
  | cons c rest ih =>
    obtain ⟨digit, hdigit, rfl⟩ := isDigit_iff_exists_digitChar.mp (h c List.mem_cons_self)
    obtain ⟨digits, hdigits, rfl⟩ := ih fun c hc => h c (List.mem_cons_of_mem _ hc)
    refine ⟨digits ++ [digit], ?_, by simp⟩
    simpa [or_imp, forall_and] using ⟨hdigits, hdigit⟩

theorem foldl_digits {digits : List Nat} (h : ∀ digit ∈ digits, digit < 10) :
    (digits.map Nat.digitChar).reverse.foldl (fun n c => 10 * n + (c.toNat - 48)) 0 =
      Nat.ofDigits 10 digits := by
  rw [List.foldl_reverse]
  induction digits with
  | nil => rfl
  | cons digit rest ih =>
    obtain ⟨hdigit, hrest⟩ := List.forall_mem_cons.mp h
    rw [List.map_cons, List.foldr_cons, ih hrest, Nat.toNat_digitChar_sub_48_of_lt_ten hdigit,
      Nat.ofDigits_cons, Nat.add_comm]

theorem valueOf?_eq_some_iff {cs : List Char} {n : Nat} :
    valueOf? cs = some n ↔ SpelledBy n cs := by
  constructor
  · intro h
    simp only [valueOf?, Option.ite_none_left_eq_some, Option.ite_none_right_eq_some,
      Option.some.injEq, Bool.or_eq_true, not_or, List.isEmpty_iff, Bool.not_eq_true',
      Bool.not_eq_false, List.all_eq_true] at h
    obtain ⟨⟨hne, hdigits⟩, hfits, hvalue⟩ := h
    obtain ⟨digits, hlt, rfl⟩ := exists_digits hdigits
    rw [foldl_digits hlt] at hfits hvalue
    refine ⟨digits, ?_, hlt, rfl, hvalue.symm, ?_⟩
    · rintro rfl
      exact hne rfl
    · rw [← hvalue]
      exact Nat.lt_succ_of_le hfits
  · rintro ⟨digits, hne, hlt, rfl, rfl, hfits⟩
    have hdigits : (digits.map Nat.digitChar).reverse.all Char.isDigit = true := by
      simp only [List.all_reverse, List.all_map, List.all_eq_true, Function.comp_apply,
        Nat.isDigit_digitChar, decide_eq_true_eq]
      exact hlt
    have hsome : (digits.map Nat.digitChar).reverse.isEmpty = false := by
      simpa using hne
    rw [valueOf?, hdigits, hsome, foldl_digits hlt]
    exact if_pos (Nat.le_of_lt_succ hfits)

theorem not_spelledBy_plus (n : Nat) (cs : List Char) : ¬ SpelledBy n ('+' :: cs) := by
  rintro ⟨digits, -, hlt, hcs, -, -⟩
  have hplus : '+' ∈ (digits.map Nat.digitChar).reverse := hcs ▸ List.mem_cons_self
  obtain ⟨digit, hdigit, hchar⟩ := List.mem_map.mp (List.mem_reverse.mp hplus)
  have hisDigit := isDigit_iff_exists_digitChar.mpr ⟨digit, hlt digit hdigit, hchar.symm⟩
  cases hisDigit

theorem number?_eq_some_iff {text : String} {n : Nat} :
    number? text = some n ↔ Spells text n := by
  rw [number?, Spells]
  split
  · next digits htext =>
    rw [valueOf?_eq_some_iff, htext]
    constructor
    · intro h
      exact .inr ⟨digits, rfl, h⟩
    · rintro (h | ⟨cs, hcs, h⟩)
      · exact absurd h (not_spelledBy_plus n digits)
      · cases hcs
        exact h
  · next hplus =>
    rw [valueOf?_eq_some_iff]
    constructor
    · exact .inl
    · rintro (h | ⟨cs, hcs, -⟩)
      · exact h
      · exact absurd hcs (hplus cs)

theorem number?_eq_none_iff {text : String} : number? text = none ↔ ∀ n, ¬ Spells text n := by
  simp only [← number?_eq_some_iff, Option.eq_none_iff_forall_ne_some, ne_eq]

end YangCheck.CommandLine
