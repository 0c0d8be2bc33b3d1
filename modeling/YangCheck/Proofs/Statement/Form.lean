import YangCheck.Proofs.Statement.RoundTrip
import YangCheck.Proofs.Text.Pattern
import YangCheck.Statement.Form

namespace YangCheck.Statement

open Text

variable {α : Type} {keyword : String} {stop : Char}

/-- Behind a keyword and the blanks that follow it comes the argument, and nothing is gained by
giving blanks back. -/
theorem first?_opening (hk : isWord keyword = true) {next : List Char → Option α}
    (hnext : ∀ c rest, isBlank c = true → next (c :: rest) = none) (line : List Char) :
    (Form.opening keyword).first? (fun _ => next) line = (argument? keyword line).bind next := by
  obtain ⟨a, part, hkeyword⟩ := List.exists_cons_of_ne_nil (toList_ne_nil_of_isWord hk)
  have hword : ∀ c, isBlank c = true → c ≠ a := by
    rintro c hc rfl
    cases hc.symm.trans (isBlank_of_isWord hk (hkeyword ▸ List.mem_cons_self))
  rw [Form.opening, Form.blanks, Pattern.first?_blanks_append]
  · rw [Pattern.first?, Pattern.first?, argument?]
    split
    case isFalse => rfl
    case isTrue =>
      rw [Pattern.first?_atLeastOne]
      cases (skipBlanks line).drop keyword.toList.length with
      | nil => rfl
      | cons c rest =>
        dsimp only
        rw [Pattern.takeMany_eq fun _ => hnext]
        cases isBlank c <;> rfl
  · intro taken c rest hc
    rw [Pattern.first?, hkeyword]
    exact Pattern.first?_exactly_cons_of_ne (hword c hc) rest

theorem first?_ending (hstop : isBlank stop = false) (a : α) (s : List Char) :
    (Form.ending stop).first? (fun _ _ => some a) s =
      if (skipBlanks s).head? = some stop then some a else none := by
  rw [Form.ending, Form.blanks, Pattern.first?_blanks_append, Pattern.first?_exactly_singleton]
  intro taken c rest hc
  apply Pattern.first?_exactly_cons_of_ne
  rintro rfl
  cases hc.symm.trans hstop

/-- Characters of a word are given back until one of them is the mark, unless the mark follows the
whole word. -/
theorem takeMany_word (hstop : isBlank stop = false) (g : List Char → α) (s : List Char) :
    Pattern.takeMany (fun c => !isBlank c)
        (fun taken => (Form.ending stop).first? fun _ _ => some (g taken)) s =
      (if (skipBlanks (afterWord s)).head? = some stop then some (firstWord s)
        else beforeLast? stop (firstWord s)).map g := by
  induction s generalizing g with
  | nil =>
    rw [Pattern.takeMany, first?_ending hstop]
    rfl
  | cons c rest ih =>
    rw [Pattern.takeMany, first?_ending hstop]
    rw [firstWord_cons, afterWord_cons]
    cases hc : isBlank c with
    | true =>
      rw [Bool.not_true, if_neg Bool.false_ne_true, if_pos rfl, if_pos rfl]
      split <;> rfl
    | false =>
      have hskip : skipBlanks (c :: rest) = c :: rest :=
        List.dropWhile_cons_of_neg (by simp [hc])
      rw [hskip, Bool.not_false, if_pos rfl, if_neg Bool.false_ne_true,
        if_neg Bool.false_ne_true, ih fun taken => g (c :: taken), beforeLast?]
      split
      · rfl
      · cases beforeLast? stop (firstWord rest) with
        | some front => rfl
        | none => by_cases hmark : c = stop <;> simp [hmark]

theorem first?_word (hstop : isBlank stop = false) (s : List Char) :
    (Pattern.atLeastOne fun c => !isBlank c).first?
        (fun taken => (Form.ending stop).first? fun _ _ => some taken) s =
      (word? stop s).map String.toList := by
  rw [Pattern.first?_atLeastOne]
  cases s with
  | nil => rfl
  | cons c rest =>
    rw [word?, firstWord_cons, afterWord_cons]
    dsimp only
    cases hc : isBlank c with
    | true => rfl
    | false =>
      rw [Bool.not_false, if_pos rfl, takeMany_word hstop, if_neg Bool.false_ne_true,
        if_neg Bool.false_ne_true, List.isEmpty_cons, if_neg Bool.false_ne_true, beforeLast?]
      split
      · simp
      · cases beforeLast? stop (firstWord rest) with
        | some front => simp
        | none => by_cases hmark : c = stop <;> simp [hmark]

theorem read?_word (hk : isWord keyword = true) (hstop : isBlank stop = false)
    (line : List Char) :
    (Form.pattern keyword (.word stop)).read? line =
      ((argument? keyword line).bind (word? stop)).map String.toList := by
  have hblank : ∀ c rest, isBlank c = true →
      (Pattern.atLeastOne fun c => !isBlank c).first?
        (fun taken => (Form.ending stop).first? fun _ _ => some taken) (c :: rest) = none := by
    intro c rest hc
    rw [Pattern.first?_atLeastOne]
    simp [hc]
  rw [Capture.read?, Form.pattern, first?_opening hk hblank, Option.map_bind]
  exact congrArg _ (funext (first?_word hstop))

theorem first?_unquoted (s : List Char) :
    (Pattern.atLeastOne (· != '"')).first?
        (fun taken => (Pattern.append (.exactly ['"']) (Form.ending ';')).first?
          fun _ _ => some taken) s =
      (quotedText? ('"' :: s)).map String.toList := by
  rw [Pattern.first?_atLeastOne_eq, quotedText?]
  · rw [Pattern.first?, Pattern.first?_exactly_singleton]
    cases hrest : s.dropWhile (· != '"') with
    | nil => simp
    | cons c rest =>
      have hquote : c = '"' := by
        have hhead := List.head?_dropWhile_not (· != '"') s
        simpa [hrest] using hhead
      subst c
      simp only [List.head?_cons, if_true, List.tail_cons, List.isEmpty_iff]
      rw [first?_ending (by decide)]
      split
      · rfl
      · split <;> simp
  · intro taken c rest hc
    rw [Pattern.first?]
    exact Pattern.first?_exactly_cons_of_ne (by simpa using hc) rest

theorem read?_quotedText (hk : isWord keyword = true) (line : List Char) :
    (Form.pattern keyword .quotedText).read? line =
      ((argument? keyword line).bind quotedText?).map String.toList := by
  have hargument : ∀ s : List Char,
      (Pattern.exactly ['"']).first? (fun _ => (Pattern.atLeastOne (· != '"')).first?
        (fun taken => (Pattern.append (.exactly ['"']) (Form.ending ';')).first?
          fun _ _ => some taken)) s = (quotedText? s).map String.toList := by
    intro s
    rw [Pattern.first?_exactly_singleton]
    cases s with
    | nil => rfl
    | cons c rest =>
      by_cases hc : c = '"'
      · subst c
        exact first?_unquoted rest
      · simp [quotedText?, hc]
  rw [Capture.read?, Form.pattern, Pattern.first?, first?_opening hk, Option.map_bind]
  · exact congrArg _ (funext hargument)
  · intro c rest hc
    rw [hargument, quotedText?]
    · rfl
    · rintro _ heq
      obtain rfl := (List.cons.inj heq).1
      cases hc

theorem first?_truth (s : List Char) :
    (Pattern.either (.exactly "true".toList) (.exactly "false".toList)).first?
        (fun taken => (Form.ending ';').first? fun _ _ => some taken) s =
      (truth? s).map fun value => (toString value).toList := by
  have hbegins : ∀ part rest : List Char, part.isPrefixOf (part ++ rest) = true := fun part rest =>
    List.isPrefixOf_iff_prefix.mpr (List.prefix_append part rest)
  have hend : ∀ (a : List Char) rest, (Form.ending ';').first? (fun _ _ => some a) rest =
      if (skipBlanks rest).head? = some ';' then some a else none := first?_ending (by decide)
  rw [Pattern.first?, Pattern.first?, Pattern.first?, hend, hend]
  by_cases htrue : ∃ rest, s = "true".toList ++ rest
  · obtain ⟨rest, rfl⟩ := htrue
    have hother : "false".toList.isPrefixOf ("true".toList ++ rest) = false := rfl
    rw [hbegins, hother, if_pos rfl, if_neg Bool.false_ne_true, Option.or_none, List.drop_left]
    change _ = Option.map _ (if (skipBlanks rest).head? = some ';' then some true else none)
    split <;> rfl
  by_cases hfalse : ∃ rest, s = "false".toList ++ rest
  · obtain ⟨rest, rfl⟩ := hfalse
    have hother : "true".toList.isPrefixOf ("false".toList ++ rest) = false := rfl
    rw [hbegins, hother, if_pos rfl, if_neg Bool.false_ne_true, Option.none_or, List.drop_left]
    change _ = Option.map _ (if (skipBlanks rest).head? = some ';' then some false else none)
    split <;> rfl
  · rw [if_neg, if_neg, truth?]
    · rfl
    · exact fun rest hs => htrue ⟨rest, hs⟩
    · exact fun rest hs => hfalse ⟨rest, hs⟩
    · rw [List.isPrefixOf_iff_prefix]
      rintro ⟨rest, hs⟩
      exact hfalse ⟨rest, hs.symm⟩
    · rw [List.isPrefixOf_iff_prefix]
      rintro ⟨rest, hs⟩
      exact htrue ⟨rest, hs.symm⟩

theorem read?_truth (hk : isWord keyword = true) (line : List Char) :
    (Form.pattern keyword .truth).read? line =
      ((argument? keyword line).bind truth?).map fun value => (toString value).toList := by
  rw [Capture.read?, Form.pattern, first?_opening hk, Option.map_bind]
  · exact congrArg _ (funext first?_truth)
  · intro c rest hc
    rw [first?_truth, truth?]
    · rfl
    · rintro _ heq
      obtain rfl := (List.cons.inj heq).1
      cases hc
    · rintro _ heq
      obtain rfl := (List.cons.inj heq).1
      cases hc

end YangCheck.Statement
