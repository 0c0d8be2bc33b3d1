import YangCheck.Proofs.Text.Words
import YangCheck.Text.Pattern

namespace YangCheck.Text.Pattern

variable {α : Type} {accepts : Char → Bool} {next : List Char → List Char → Option α}

/-- Nothing is given back in front of what fails on every character that could be. -/
theorem takeMany_eq (h : ∀ taken c rest, accepts c = true → next taken (c :: rest) = none)
    (s : List Char) :
    takeMany accepts next s = next (s.takeWhile accepts) (s.dropWhile accepts) := by
  induction s generalizing next with
  | nil => rfl
  | cons c rest ih =>
    rw [takeMany]
    cases hc : accepts c with
    | false =>
      rw [if_neg Bool.false_ne_true, List.takeWhile_cons_of_neg (by simp [hc]),
        List.dropWhile_cons_of_neg (by simp [hc])]
    | true =>
      rw [if_pos rfl, ih fun taken => h (c :: taken), h [] c rest hc, Option.or_none,
        List.takeWhile_cons_of_pos hc, List.dropWhile_cons_of_pos hc]

theorem first?_atLeastOne (s : List Char) :
    (atLeastOne accepts).first? next s =
      match s with
      | [] => none
      | c :: rest =>
        if accepts c then takeMany accepts (fun taken => next (c :: taken)) rest else none :=
  rfl

theorem first?_atLeastOne_eq
    (h : ∀ taken c rest, accepts c = true → next taken (c :: rest) = none) (s : List Char) :
    (atLeastOne accepts).first? next s =
      if s.takeWhile accepts = [] then none
      else next (s.takeWhile accepts) (s.dropWhile accepts) := by
  rw [first?_atLeastOne]
  cases s with
  | nil => rfl
  | cons c rest =>
    cases hc : accepts c with
    | false => simp [hc]
    | true => simp [hc, takeMany_eq fun taken => h (c :: taken)]

theorem first?_exactly_cons_of_ne {a : Char} {part : List Char} {c : Char} (h : c ≠ a)
    (rest : List Char) : (exactly (a :: part)).first? next (c :: rest) = none := by
  rw [first?, if_neg]
  simpa [List.isPrefixOf] using fun heq : a = c => absurd heq.symm h

theorem first?_exactly_singleton (stop : Char) (s : List Char) :
    (exactly [stop]).first? next s = if s.head? = some stop then next [stop] s.tail else none := by
  cases s with
  | nil => rfl
  | cons c rest =>
    by_cases hc : c = stop
    · subst c
      simp [first?]
    · rw [first?_exactly_cons_of_ne hc, if_neg]
      simpa using hc

theorem first?_blanks_append {back : Pattern}
    (h : ∀ taken c rest, isBlank c = true → back.first? (fun more => next (taken ++ more))
      (c :: rest) = none)
    (s : List Char) :
    (append (many isBlank) back).first? next s =
      back.first? (fun more => next (s.takeWhile isBlank ++ more)) (skipBlanks s) := by
  rw [first?, first?, takeMany_eq h]
  rfl

end YangCheck.Text.Pattern
