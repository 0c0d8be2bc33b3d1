import Mathlib.Data.List.TakeDrop
import YangCheck.Json.Parser

namespace YangCheck.Json

/-- Nothing, a blank, a comma or a closing bracket can stand behind a value. -/
def Ends (rest : List Char) : Prop :=
  ∀ c, rest.head? = some c → isSpace c = true ∨ c ∈ [',', ']', '}']

theorem mem_of_isSpace {c : Char} (h : isSpace c = true) : c ∈ [' ', '\n', '\t', '\r'] := by
  simp only [isSpace, Bool.or_eq_true, beq_iff_eq] at h
  rcases h with ((rfl | rfl) | rfl) | rfl <;> decide

theorem not_numeral_of_ends : ∀ c ∈ [' ', '\n', '\t', '\r', ',', ']', '}'],
    c.isDigit = false ∧ c ≠ '.' ∧ c ≠ 'e' ∧ c ≠ 'E' := by
  simp

theorem Ends.cases {rest : List Char} (h : Ends rest) :
    rest = [] ∨ ∃ c tail, rest = c :: tail ∧ c.isDigit = false ∧ c ≠ '.' ∧ c ≠ 'e' ∧ c ≠ 'E' := by
  cases rest with
  | nil => exact .inl rfl
  | cons c tail =>
    refine .inr ⟨c, tail, rfl, not_numeral_of_ends c ?_⟩
    rcases h c rfl with hspace | hmem
    · exact List.mem_append_left [',', ']', '}'] (mem_of_isSpace hspace)
    · exact List.mem_append_right [' ', '\n', '\t', '\r'] hmem

theorem digits_append {s rest : List Char} (hs : ∀ c ∈ s, c.isDigit = true) (h : Ends rest) :
    digits (s ++ rest) = (s, rest) := by
  rw [digits, List.span_eq_takeWhile_dropWhile, List.takeWhile_append_of_pos hs,
    List.dropWhile_append_of_pos hs]
  rcases h.cases with rfl | ⟨c, tail, rfl, hdigit, -⟩
  · simp
  · simp [hdigit]

/-- What another value starts with, a blank, a sign or a closing bracket is no digit. -/
theorem not_digit : ∀ c ∈ [' ', '\n', '\t', '\r', 'n', 't', 'f', '"', '[', '{', '-', ']'],
    c.isDigit = false := by
  simp

theorem exists_toDigits (n : Nat) :
    ∃ first others, Nat.toDigits 10 n = first :: others ∧ first.isDigit = true ∧
      (first = '0' → n = 0) := by
  induction n using Nat.strongRecOn with
  | ind n ih =>
    by_cases hlt : n < 10
    · have hdigit : ∀ d < 10, d.digitChar.isDigit = true ∧ (d.digitChar = '0' → d = 0) := by
        decide
      exact ⟨n.digitChar, [], Nat.toDigits_of_lt_base hlt, hdigit n hlt⟩
    · obtain ⟨first, others, hdigits, hfirst, hzero⟩ := ih (n / 10) (by omega)
      refine ⟨first, others ++ [(n % 10).digitChar], ?_, hfirst, ?_⟩
      · rw [Nat.toDigits_of_base_le (by decide) (Nat.le_of_not_lt hlt), hdigits]
        rfl
      · intro heq
        have htenth := hzero heq
        omega

theorem whole?_toDigits (n : Nat) {rest : List Char} (h : Ends rest) :
    whole? (Nat.toDigits 10 n ++ rest) = some (Nat.toDigits 10 n, rest) := by
  have hdigits : digits (Nat.toDigits 10 n ++ rest) = (Nat.toDigits 10 n, rest) := by
    refine digits_append (fun c hc => ?_) h
    exact Nat.isDigit_of_mem_toDigits (by decide) (by decide) hc
  obtain ⟨first, others, hn, -, hfirst⟩ := exists_toDigits n
  rw [whole?, hdigits]
  by_cases hzero : n = 0
  · subst hzero
    rfl
  · have hne : first ≠ '0' := mt hfirst hzero
    simp [hn, hne]

theorem number?_toDigits (n : Nat) {rest : List Char} (h : Ends rest) :
    number? (Nat.toDigits 10 n ++ rest) = some (ofNat n, rest) := by
  have hwhole := whole?_toDigits n h
  have hfraction : fraction? rest = some ([], rest) := by
    rcases h.cases with rfl | ⟨c, tail, rfl, -, hpoint, -⟩
    · rfl
    · simp [fraction?, hpoint]
  have hexponent : exponent? rest = some ([], rest) := by
    rcases h.cases with rfl | ⟨c, tail, rfl, -, -, hlower, hupper⟩
    · rfl
    · simp [exponent?, hlower, hupper]
  obtain ⟨first, others, hn, hfirst, -⟩ := exists_toDigits n
  have hminus : first ≠ '-' := by
    rintro rfl
    cases hfirst
  rw [hn, List.cons_append] at hwhole
  rw [ofNat, hn, List.cons_append]
  simp [number?, hminus, hwhole, hfraction, hexponent]

end YangCheck.Json
