import Mathlib.Algebra.Order.Field.Basic
import Mathlib.Algebra.Order.Field.Rat
import Mathlib.Algebra.Order.Group.Abs
import Mathlib.Tactic.FieldSimp
import Mathlib.Tactic.Linarith
import Mathlib.Tactic.Ring
import YangCheck.Decimal.Binary53

namespace YangCheck.Decimal

variable {q : ℚ} {num den n k : Nat}

theorem roundDiv_mul (k : Nat) (hden : 0 < den) : roundDiv (k * den) den = k := by
  rw [roundDiv, Nat.mul_mod_left, if_pos hden, Nat.mul_div_cancel k hden]

/-- `n` is a whole number nearest to `q`, and the even one of two. -/
structure IsNearest (q : ℚ) (n : Nat) : Prop where
  near : |n - q| ≤ 1 / 2
  even : |n - q| = 1 / 2 → n % 2 = 0

/-- What a division leaves over, as a part of the divisor. -/
def leftOver (num den : Nat) : ℚ :=
  (num % den : Nat) / den

theorem leftOver_nonneg (num den : Nat) : 0 ≤ leftOver num den :=
  div_nonneg (Nat.cast_nonneg _) (Nat.cast_nonneg _)

section

variable (num : Nat) (hden : 0 < den)
include hden

theorem leftOver_lt_one : leftOver num den < 1 := by
  rw [leftOver, div_lt_one (Nat.cast_pos.mpr hden)]
  exact_mod_cast Nat.mod_lt num hden

theorem div_eq_add_leftOver : (num / den : ℚ) = (num / den : Nat) + leftOver num den := by
  have hne : (den : ℚ) ≠ 0 := Nat.cast_ne_zero.mpr hden.ne'
  rw [leftOver, div_eq_iff hne, add_mul, div_mul_cancel₀ _ hne]
  exact_mod_cast (Nat.div_add_mod' num den).symm

theorem leftOver_lt_half_iff : leftOver num den < 1 / 2 ↔ 2 * (num % den) < den := by
  rw [leftOver, div_lt_div_iff₀ (Nat.cast_pos.mpr hden) two_pos, one_mul, mul_comm]
  exact_mod_cast Iff.rfl

theorem half_lt_leftOver_iff : 1 / 2 < leftOver num den ↔ den < 2 * (num % den) := by
  rw [leftOver, div_lt_div_iff₀ two_pos (Nat.cast_pos.mpr hden), one_mul, mul_comm (_ : ℚ) 2]
  exact_mod_cast Iff.rfl

theorem abs_quotient_sub : |((num / den : Nat) : ℚ) - num / den| = leftOver num den := by
  rw [div_eq_add_leftOver num hden, sub_add_cancel_left, abs_neg,
    abs_of_nonneg (leftOver_nonneg num den)]

theorem abs_next_sub : |((num / den + 1 : Nat) : ℚ) - num / den| = 1 - leftOver num den := by
  rw [div_eq_add_leftOver num hden, Nat.cast_add, Nat.cast_one, add_sub_add_left_eq_sub,
    abs_of_pos (sub_pos.mpr (leftOver_lt_one num hden))]

theorem isNearest_roundDiv : IsNearest (num / den) (roundDiv num den) := by
  have hbelow := abs_quotient_sub num hden
  have habove := abs_next_sub num hden
  rw [roundDiv]
  split
  case isTrue h =>
    have hless := (leftOver_lt_half_iff num hden).mpr h
    exact ⟨hbelow ▸ hless.le, fun htie => absurd (hbelow ▸ htie) hless.ne⟩
  case isFalse h =>
    have hhalf := not_lt.mp (mt (leftOver_lt_half_iff num hden).mp h)
    split
    case isTrue h =>
      have hmore := (half_lt_leftOver_iff num hden).mpr h
      constructor
      · rw [habove]
        linarith
      · rw [habove]
        intro htie
        linarith
    case isFalse h =>
      have htie := le_antisymm (not_lt.mp (mt (half_lt_leftOver_iff num hden).mp h)) hhalf
      split
      case isTrue heven => exact ⟨hbelow ▸ htie.le, fun _ => heven⟩
      case isFalse hodd =>
        constructor
        · rw [habove]
          linarith
        · intro _
          omega

end

namespace IsNearest

theorem le_of_le (h : IsNearest q n) (hk : k ≤ q) : k ≤ n := by
  have hnear := (abs_sub_le_iff.mp h.near).2
  by_contra hnot
  have hlt : (n + 1 : ℚ) ≤ k := by exact_mod_cast Nat.lt_of_not_le hnot
  linarith

theorem le_of_ge (h : IsNearest q n) (hk : q ≤ k) : n ≤ k := by
  have hnear := (abs_sub_le_iff.mp h.near).1
  by_contra hnot
  have hlt : (k + 1 : ℚ) ≤ n := by exact_mod_cast Nat.lt_of_not_le hnot
  linarith

theorem lt_iff (h : IsNearest q n) (hk : k % 2 = 0) : n < k ↔ q < k - 1 / 2 := by
  obtain ⟨hbelow, habove⟩ := abs_sub_le_iff.mp h.near
  constructor
  · intro hlt
    have hle : (n + 1 : ℚ) ≤ k := by exact_mod_cast hlt
    by_contra hnot
    have htie : q - n = 1 / 2 := by linarith
    have heven : n % 2 = 0 := by
      apply h.even
      rw [abs_sub_comm, htie, abs_of_pos (by norm_num)]
    have hnext : (k : ℚ) = n + 1 := by linarith
    have hsucc : k = n + 1 := by exact_mod_cast hnext
    omega
  · intro hlt
    have hcast : (n : ℚ) < k := by linarith
    exact_mod_cast hcast

end IsNearest

theorem padLeft_two :
    ∀ n < 100, padLeft 2 (toString n) = toString (n / 10) ++ toString (n % 10) := by
  decide +kernel

theorem fixed_two (num den : Nat) :
    let hundredths := roundDiv (num * 100) den
    fixed 2 num den = s!"{hundredths / 100}.{hundredths / 10 % 10}{hundredths % 10}" := by
  intro hundredths
  have htens : hundredths % 100 / 10 = hundredths / 10 % 10 := by omega
  have hones : hundredths % 100 % 10 = hundredths % 10 := by omega
  have hdigits := padLeft_two (hundredths % 100) (Nat.mod_lt hundredths (by decide))
  rw [htens, hones] at hdigits
  have hshown : fixed 2 num den =
      toString (hundredths / 100) ++ "." ++ padLeft 2 (toString (hundredths % 100)) := rfl
  rw [hshown, hdigits, ← String.append_assoc]
  rfl

namespace Binary53

def value (x : Binary53) : ℚ :=
  x.num / x.den

variable {x y : Binary53} {a b m t : Nat}

theorem value_mk (num shift : Nat) : value ⟨num, shift⟩ = num / 2 ^ shift := by
  simp [value, Binary53.den]

theorem pos_den (x : Binary53) : 0 < x.den :=
  Nat.two_pow_pos x.shift

theorem isBelow_iff : x.isBelow k = true ↔ x.value < k := by
  rw [isBelow, decide_eq_true_iff, value, div_lt_iff₀ (Nat.cast_pos.mpr x.pos_den)]
  exact_mod_cast Iff.rfl

theorem value_up {shift : Nat} (hden : 0 < den) (h : den ∣ num * 2 ^ shift) :
    value ⟨roundDiv (num * 2 ^ shift) den, shift⟩ = num / den := by
  obtain ⟨k, hk⟩ := exists_eq_mul_left_of_dvd h
  have hne : (den : ℚ) ≠ 0 := Nat.cast_ne_zero.mpr hden.ne'
  rw [hk, roundDiv_mul k hden, value_mk, div_eq_div_iff (by positivity) hne]
  exact_mod_cast hk.symm

theorem value_down {shift : Nat} (hden : 0 < den) (h : den * 2 ^ shift ∣ num) :
    value ⟨roundDiv num (den * 2 ^ shift) * 2 ^ shift, 0⟩ = num / den := by
  obtain ⟨k, rfl⟩ := exists_eq_mul_left_of_dvd h
  have hne : (den : ℚ) ≠ 0 := Nat.cast_ne_zero.mpr hden.ne'
  rw [roundDiv_mul k (Nat.mul_pos hden (Nat.two_pow_pos shift)), value_mk, pow_zero, div_one]
  push_cast
  field_simp

/-- Nothing is rounded where all digits behind the 53rd are zeros. -/
theorem value_nearest {j : Nat} (hnum : num = m * 2 ^ t) (hden : den = 2 ^ j) (hm : m < 2 ^ 53) :
    (nearest num den).value = num / den := by
  have hpos : 0 < den := hden ▸ Nat.two_pow_pos j
  have hlogDen : den.log2 = j := hden ▸ Nat.log2_two_pow
  rw [nearest]
  split
  case isTrue hzero => simp [value, hzero]
  case isFalse hzero =>
    have hbound : num < 2 ^ (53 + t) := by
      rw [hnum, Nat.pow_add]
      exact Nat.mul_lt_mul_of_pos_right hm (Nat.two_pow_pos t)
    have hlog : num.log2 < 53 + t := (Nat.log2_lt hzero).mpr hbound
    simp only [hlogDen, Nat.pow_eq]
    -- Either way the digits that are cut off are zeros that `2 ^ t` brings along.
    split
    case isTrue hless =>
      generalize hshift : (if 2 ^ 53 ≤ _ then _ else _ : Nat) = shift
      have hle : j ≤ t + shift := by
        split at hshift <;> omega
      apply value_up hpos
      rw [hnum, hden, Nat.mul_assoc, ← Nat.pow_add]
      exact Dvd.dvd.mul_left (Nat.pow_dvd_pow 2 hle) m
    case isFalse hless =>
      generalize hshift : (if 2 ^ 53 ≤ _ then _ else _ : Nat) = shift
      have hle : j + shift ≤ t := by
        split at hshift <;> omega
      apply value_down hpos
      rw [hnum, hden, ← Nat.pow_add]
      exact Dvd.dvd.mul_left (Nat.pow_dvd_pow 2 hle) m

theorem value_ofNat (hn : n < 2 ^ 53) : (ofNat n).value = n := by
  have hnum : n = n * 2 ^ 0 := (Nat.mul_one n).symm
  have h := value_nearest hnum (Nat.pow_zero 2).symm hn
  rw [ofNat, h, Nat.cast_one, div_one]

theorem exists_num_eq (hx : x.value = n / 2 ^ a) (hn : n < 2 ^ 53) :
    ∃ m t, m < 2 ^ 53 ∧ x.num = m * 2 ^ t := by
  have hnum : x.num * 2 ^ a = n * 2 ^ x.shift := by
    have hden : (x.den : ℚ) = 2 ^ x.shift := Nat.cast_pow 2 x.shift
    rw [value, hden, div_eq_div_iff (by positivity) (by positivity)] at hx
    exact_mod_cast hx
  rcases Nat.le_total a x.shift with hle | hle
  · obtain ⟨t, ht⟩ := Nat.exists_eq_add_of_le' hle
    refine ⟨n, t, hn, Nat.eq_of_mul_eq_mul_right (Nat.two_pow_pos a) ?_⟩
    rw [hnum, ht, Nat.pow_add, Nat.mul_assoc]
  · obtain ⟨t, rfl⟩ := Nat.exists_eq_add_of_le' hle
    rw [Nat.pow_add, ← Nat.mul_assoc] at hnum
    have hwhole := Nat.eq_of_mul_eq_mul_right (Nat.two_pow_pos x.shift) hnum
    have hle : x.num ≤ n := hwhole ▸ Nat.le_mul_of_pos_right x.num (Nat.two_pow_pos t)
    exact ⟨x.num, 0, by omega, (Nat.mul_one x.num).symm⟩

/-- A division by a power of two leaves the digits as they are. -/
theorem value_div (hx : x.value = n / 2 ^ a) (hn : n < 2 ^ 53) (hy : y.value = 2 ^ b) :
    (x.div y).value = x.value / y.value := by
  obtain ⟨m, t, hm, hnum⟩ := exists_num_eq hx hn
  have hynum : y.num = 2 ^ b * y.den := by
    rw [value, div_eq_iff (Nat.cast_ne_zero.mpr y.pos_den.ne')] at hy
    exact_mod_cast hy
  have hdividend : x.num * y.den = m * 2 ^ (t + y.shift) := by
    rw [hnum, Nat.pow_add, Nat.mul_assoc]
    rfl
  have hdivisor : x.den * y.num = 2 ^ (x.shift + (b + y.shift)) := by
    rw [hynum, Nat.pow_add, Nat.pow_add]
    rfl
  rw [div, value_nearest hdividend hdivisor hm, value, value, div_div_div_eq]
  push_cast
  rfl

end Binary53

end YangCheck.Decimal
