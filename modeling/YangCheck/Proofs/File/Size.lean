import YangCheck.File.Size
import YangCheck.Proofs.Decimal.Rounding

namespace YangCheck

open Decimal

namespace SizeUnit

def power : SizeUnit → Nat
  | .bytes => 0
  | .kilobytes => 1
  | .megabytes => 2
  | .gigabytes => 3

/-- How many bytes a unit has. -/
def weight (unit : SizeUnit) : Nat :=
  1024 ^ unit.power

theorem pos_weight (unit : SizeUnit) : 0 < unit.weight :=
  Nat.pow_pos (by decide)

theorem weight_eq_two_pow (unit : SizeUnit) : unit.weight = 2 ^ (10 * unit.power) :=
  (Nat.pow_mul 2 10 unit.power).symm

theorem weight_of_power {unit next : SizeUnit} (h : next.power = unit.power + 1) :
    next.weight = unit.weight * 1024 := by
  rw [weight, h, Nat.pow_succ]
  rfl

theorem le_weight {unit : SizeUnit} (h : unit ≠ .bytes) : 1024 ≤ unit.weight := by
  cases unit with
  | bytes => exact absurd rfl h
  | _ => decide

theorem label_injective : Function.Injective label := by
  intro unit other h
  cases unit <;> cases other <;> simp_all [label]

end SizeUnit

namespace FileSize

/-- A number with two decimals and its unit. -/
structure Shown where
  hundredths : Nat
  unit : SizeUnit
deriving DecidableEq, Repr

namespace Shown

def text (shown : Shown) : String :=
  let n := shown.hundredths
  s!"{n / 100}.{n / 10 % 10}{n % 10} {shown.unit.label}"

def number (shown : Shown) : ℚ :=
  shown.hundredths / 100

theorem text_roundDiv (x : Binary53) (unit : SizeUnit) :
    (Shown.mk (roundDiv (x.num * 100) x.den) unit).text = s!"{x.fixed 2} {unit.label}" := by
  have hfixed := fixed_two x.num x.den
  rw [Binary53.fixed, hfixed]
  rfl

theorem toList_text (shown : Shown) : shown.text.toList =
    Nat.toDigits 10 (shown.hundredths / 100) ++ '.' ::
      (shown.hundredths / 10 % 10).digitChar :: (shown.hundredths % 10).digitChar :: ' ' ::
        shown.unit.label.toList := by
  have htenths : shown.hundredths / 10 % 10 < 10 := Nat.mod_lt _ (by decide)
  have hrest : shown.hundredths % 10 < 10 := Nat.mod_lt _ (by decide)
  have htext : shown.text = toString (shown.hundredths / 100) ++ "." ++
      toString (shown.hundredths / 10 % 10) ++ toString (shown.hundredths % 10) ++ " " ++
        shown.unit.label := rfl
  simp [htext, Nat.toDigits_of_lt_base htenths, Nat.toDigits_of_lt_base hrest]

theorem takeWhile_text (shown : Shown) :
    shown.text.toList.takeWhile Char.isDigit = Nat.toDigits 10 (shown.hundredths / 100) := by
  have hdigits : ∀ c ∈ Nat.toDigits 10 (shown.hundredths / 100), c.isDigit = true :=
    fun c hc => Nat.isDigit_of_mem_toDigits (by decide) (by decide) hc
  rw [toList_text, List.takeWhile_append_of_pos hdigits, List.takeWhile_cons_of_neg (by decide),
    List.append_nil]

theorem text_injective : Function.Injective text := by
  intro shown other h
  have hdigit : ∀ d < 10, ∀ e < 10, d.digitChar = e.digitChar → d = e := by decide
  have hdigits : Nat.toDigits 10 (shown.hundredths / 100) =
      Nat.toDigits 10 (other.hundredths / 100) := by
    rw [← takeWhile_text, h, takeWhile_text]
  have hbehind := congrArg String.toList h
  rw [toList_text, toList_text, hdigits] at hbehind
  simp only [List.append_cancel_left_eq, List.cons.injEq, true_and, String.toList_inj] at hbehind
  obtain ⟨htenths, hrest, hlabel⟩ := hbehind
  have hwhole : shown.hundredths / 100 = other.hundredths / 100 := by
    have hread := congrArg (Nat.ofDigitChars 10 · 0) hdigits
    simpa only [Nat.ofDigitChars_ten_toDigits] using hread
  have htenths := hdigit _ (Nat.mod_lt _ (by decide)) _ (Nat.mod_lt _ (by decide)) htenths
  have hrest := hdigit _ (Nat.mod_lt _ (by decide)) _ (Nat.mod_lt _ (by decide)) hrest
  have hhundredths : shown.hundredths = other.hundredths := by omega
  cases shown
  cases other
  exact congr (congrArg mk hhundredths) (SizeUnit.label_injective hlabel)

section

variable {q : ℚ} {shown : Shown}

theorem abs_number_sub_le (h : IsNearest (q * 100) shown.hundredths) :
    |shown.number - q| ≤ 0.005 := by
  have hscaled : shown.number - q = (shown.hundredths - q * 100) / 100 := by
    rw [number]
    ring
  have hhundred : (0 : ℚ) < 100 := by norm_num
  rw [hscaled, abs_div, abs_of_pos hhundred, div_le_iff₀ hhundred]
  exact h.near.trans_eq (by norm_num)

theorem le_number {k : Nat} (h : IsNearest (q * 100) shown.hundredths) (hk : k ≤ q) :
    k ≤ shown.number := by
  have hle : k * 100 ≤ shown.hundredths := h.le_of_le (by push_cast; linarith)
  rw [number, le_div_iff₀ (by norm_num)]
  exact_mod_cast hle

theorem number_le {k : Nat} (h : IsNearest (q * 100) shown.hundredths) (hk : q ≤ k) :
    shown.number ≤ k := by
  have hle : shown.hundredths ≤ k * 100 := h.le_of_ge (by push_cast; linarith)
  rw [number, div_le_iff₀ (by norm_num)]
  exact_mod_cast hle

theorem number_lt_iff (k : Nat) (h : IsNearest (q * 100) shown.hundredths) :
    shown.number < k ↔ q < k - 0.005 := by
  have hlt : shown.hundredths < k * 100 ↔ q * 100 < (k * 100 : Nat) - 1 / 2 :=
    h.lt_iff (by omega)
  have hnumber : shown.number < k ↔ shown.hundredths < k * 100 := by
    rw [number, div_lt_iff₀ (by norm_num)]
    exact_mod_cast Iff.rfl
  have hscaled : ((k * 100 : Nat) - 1 / 2 : ℚ) = (k - 0.005) * 100 := by
    push_cast
    ring
  rw [hnumber, hlt, hscaled, mul_lt_mul_iff_left₀ (by norm_num)]

end

end Shown

/-- The number is the size in a unit that the size reaches. -/
structure Measures (size : Nat) (x : Binary53) (unit : SizeUnit) : Prop where
  exact : x.value = size / unit.weight
  reached : unit = .bytes ∨ unit.weight ≤ size

variable {size : Nat} {x : Binary53} {unit next : SizeUnit}

theorem measures_ofNat (hsize : size < 2 ^ 53) : Measures size (Binary53.ofNat size) .bytes := by
  constructor
  · rw [Binary53.value_ofNat hsize, SizeUnit.weight, SizeUnit.power, Nat.pow_zero, Nat.cast_one,
      div_one]
  · exact .inl rfl

theorem Measures.isBelow_iff (h : Measures size x unit) :
    x.isBelow 1024 = true ↔ size < 1024 * unit.weight := by
  rw [Binary53.isBelow_iff, h.exact, div_lt_iff₀ (Nat.cast_pos.mpr unit.pos_weight)]
  exact_mod_cast Iff.rfl

/-- A number that is not below 1024 is taken to the next unit, and nothing of it is lost. -/
theorem Measures.div (h : Measures size x unit) (hsize : size < 2 ^ 53)
    (hnot : ¬x.isBelow 1024 = true) (hnext : next.power = unit.power + 1) :
    Measures size (x.div (Binary53.ofNat 1024)) next := by
  have hweight := SizeUnit.weight_of_power hnext
  constructor
  · have hvalue : x.value = size / 2 ^ (10 * unit.power) := by
      rw [h.exact, SizeUnit.weight_eq_two_pow, Nat.cast_pow, Nat.cast_ofNat]
    have hkibi : (Binary53.ofNat 1024).value = 1024 := Binary53.value_ofNat (by decide)
    have hpower : (1024 : ℚ) = 2 ^ 10 := by norm_num
    rw [Binary53.value_div hvalue hsize (hkibi.trans hpower), hkibi, h.exact, hweight, Nat.cast_mul,
      Nat.cast_ofNat, div_div]
  · rw [h.isBelow_iff] at hnot
    exact .inr (by omega)

theorem measures_scale (larger : List SizeUnit) (h : Measures size x unit) (hsize : size < 2 ^ 53)
    (hunits : (unit :: larger).IsChain fun unit next => next.power = unit.power + 1) :
    Measures size (scale x unit larger).1 (scale x unit larger).2 ∧
      ((scale x unit larger).2 = (unit :: larger).getLast (List.cons_ne_nil _ _) ∨
        size < 1024 * (scale x unit larger).2.weight) := by
  induction larger generalizing x unit with
  | nil => exact ⟨h, .inl rfl⟩
  | cons next larger ih =>
    rw [List.isChain_cons_cons] at hunits
    rw [scale]
    split
    case isTrue hbelow => exact ⟨h, .inr (h.isBelow_iff.mp hbelow)⟩
    case isFalse hnot => exact ih (h.div hsize hnot hunits.1) hunits.2

/-- The number of hundredths is rounded, in a unit that has been chosen before. -/
theorem human_cases (hsize : size < 2 ^ 53) :
    size < 1024 ∧ human size = s!"{size} B" ∨
      ∃ shown : Shown, human size = shown.text ∧ shown.unit ≠ .bytes ∧
        shown.unit.weight ≤ size ∧
        (shown.unit = .gigabytes ∨ size < 1024 * shown.unit.weight) ∧
        IsNearest (size / shown.unit.weight * 100) shown.hundredths := by
  obtain ⟨hmeasures, hlast⟩ := measures_scale [.kilobytes, .megabytes, .gigabytes]
    (measures_ofNat hsize) hsize (by decide)
  rw [human]
  generalize scale (Binary53.ofNat size) .bytes [.kilobytes, .megabytes, .gigabytes] = scaled
    at hmeasures hlast ⊢
  obtain ⟨x, unit⟩ := scaled
  by_cases hbytes : unit = .bytes
  · subst hbytes
    left
    constructor
    · simpa [SizeUnit.weight, SizeUnit.power] using hlast
    · exact String.append_assoc
  · right
    have hnearest := isNearest_roundDiv (x.num * 100) x.pos_den
    have hvalue : ((x.num * 100 : Nat) / x.den : ℚ) = size / unit.weight * 100 := by
      rw [← hmeasures.exact, Binary53.value, Nat.cast_mul, Nat.cast_ofNat, mul_div_right_comm]
    rw [hvalue] at hnearest
    refine ⟨⟨roundDiv (x.num * 100) x.den, unit⟩, ?_, hbytes,
      hmeasures.reached.resolve_left hbytes, hlast, hnearest⟩
    rw [Shown.text_roundDiv]
    cases unit with
    | bytes => exact absurd rfl hbytes
    | _ => rfl

/-- A size below 1024 is shown in bytes. Any other is shown in the largest unit that it reaches, by
a number of two decimals that is at most half a hundredth away from the size in that unit. Where
there is a larger unit the number is below 1024 except for the sizes that are half a hundredth or
less below that unit: there it is 1024. -/
theorem human_within_half_hundredth (size : Nat) (hsize : size < 2 ^ 53) :
    (size < 1024 → human size = s!"{size} B") ∧
    (1024 ≤ size → ∃ shown : Shown, human size = shown.text ∧ shown.unit ≠ .bytes ∧
      shown.unit.weight ≤ size ∧
      |shown.number - size / shown.unit.weight| ≤ 0.005 ∧ 1 ≤ shown.number ∧
      (shown.unit ≠ .gigabytes → size < 1024 * shown.unit.weight ∧ shown.number ≤ 1024 ∧
        (shown.number < 1024 ↔ (size : ℚ) / shown.unit.weight < 1024 - 0.005))) := by
  rcases human_cases hsize with ⟨hless, hbytes⟩ | ⟨shown, hshown, hunit, hreached, hlast, hnearest⟩
  · exact ⟨fun _ => hbytes, fun hle => absurd hless (Nat.not_lt.mpr hle)⟩
  have hweight : (0 : ℚ) < shown.unit.weight := Nat.cast_pos.mpr shown.unit.pos_weight
  constructor
  · intro hless
    have hle := SizeUnit.le_weight hunit
    omega
  intro _
  refine ⟨shown, hshown, hunit, hreached, Shown.abs_number_sub_le hnearest, ?_, ?_⟩
  · have hone : ((1 : Nat) : ℚ) ≤ size / shown.unit.weight := by
      rw [Nat.cast_one, one_le_div hweight]
      exact_mod_cast hreached
    exact_mod_cast Shown.le_number hnearest hone
  · intro hgigabytes
    have hless := hlast.resolve_left hgigabytes
    have hquotient : (size : ℚ) / shown.unit.weight ≤ (1024 : Nat) := by
      rw [div_le_iff₀ hweight]
      exact_mod_cast hless.le
    exact ⟨hless, Shown.number_le hnearest hquotient, Shown.number_lt_iff 1024 hnearest⟩

theorem human_within_half_hundredth_megabytes :
    5248123 < 2 ^ 53 ∧ 1024 ≤ 5248123 ∧ ∃ shown : Shown, human 5248123 = shown.text ∧
      |shown.number - (5248123 : Nat) / shown.unit.weight| ≤ 0.005 ∧ 1 ≤ shown.number := by
  have hsize : 5248123 < 2 ^ 53 := by decide
  have hkilobyte : 1024 ≤ 5248123 := by decide
  obtain ⟨shown, hshown, -, -, hnear, hone, -⟩ :=
    (human_within_half_hundredth 5248123 hsize).2 hkilobyte
  exact ⟨hsize, hkilobyte, shown, hshown, hnear, hone⟩

/-- One byte less than a megabyte is shown as 1024 kilobytes. -/
theorem kilobytes_shown_up_to_1024 :
    human 1048575 = "1024.00 KB" ∧
    ¬∀ size : Nat, size < 2 ^ 53 → 1024 ≤ size →
      ∃ shown : Shown, human size = shown.text ∧ shown.unit ≠ .bytes ∧
        |shown.number - size / shown.unit.weight| ≤ 0.005 ∧ 1 ≤ shown.number ∧
        (shown.unit ≠ .gigabytes → shown.number < 1024) := by
  have hhuman : human 1048575 = "1024.00 KB" := by decide +kernel
  have htext : Shown.text ⟨102400, .kilobytes⟩ = "1024.00 KB" := by decide +kernel
  refine ⟨hhuman, fun hbelow => ?_⟩
  obtain ⟨shown, hshown, -, -, -, hless⟩ := hbelow 1048575 (by decide) (by decide)
  obtain rfl : shown = ⟨102400, .kilobytes⟩ :=
    Shown.text_injective (hshown.symm.trans (hhuman.trans htext.symm))
  have hnumber := hless (by decide)
  norm_num [Shown.number] at hnumber

end FileSize

end YangCheck
