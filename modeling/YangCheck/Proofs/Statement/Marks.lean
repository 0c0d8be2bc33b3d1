import YangCheck.Proofs.Model.Words
import YangCheck.Proofs.Statement.Grammar

namespace YangCheck.Statement

open Text

/-- The mark that ends a statement, the lone closing brace aside. -/
def stop (statement : Statement) : Char :=
  if statement.opens then '{' else ';'

/-- How often a mark stands in the first word, and once more where it is what comes next. -/
def marks (stop : Char) (s : List Char) : Nat :=
  (firstWord s).count stop + if (skipBlanks (afterWord s)).head? = some stop then 1 else 0

/-- The mark behind an argument. -/
def Form.Argument.stop : Form.Argument → Char
  | .word stop => stop
  | .quotedText | .truth => ';'

variable {statement : Statement} {line s captured : List Char} {word : String}

theorem Meets.cut {stop : Char} (h : Meets stop s) :
    ∃ front behind, s = front ++ stop :: behind ∧ Meets stop (front ++ [stop]) := by
  obtain ⟨blanks, behind, hblanks, rfl⟩ := h
  exact ⟨blanks, behind, rfl, blanks, [], hblanks, rfl⟩

theorem IsWordBefore.cut {stop : Char} (h : IsWordBefore stop s captured) :
    ∃ front behind, s = front ++ stop :: behind ∧
      IsWordBefore stop (front ++ [stop]) captured := by
  obtain ⟨word, after, hne, hword, hafter, rfl, hcases⟩ := h
  rcases hcases with ⟨⟨blanks, behind, hblanks, rfl⟩, rfl⟩ | ⟨-, hfound, hbegins, -⟩
  -- The mark stands behind the word: the blanks in between are kept.
  · refine ⟨captured ++ blanks, behind, by simp, captured, blanks ++ [stop], hne, hword, ?_,
      List.append_assoc .., .inl ⟨⟨blanks, [], hblanks, rfl⟩, rfl⟩⟩
    intro c hc
    apply hafter c
    cases blanks with
    | nil => exact hc
    | cons blank blanks => exact hc
  -- It stands in the word, whose first part with the mark is now a word of its own.
  · obtain ⟨more, rfl⟩ := hbegins
    have hnone : ¬Meets stop [] := by
      rintro ⟨blanks, behind, -, hnil⟩
      simp at hnil
    refine ⟨captured, more ++ after, by simp, captured ++ [stop], [], by simp,
      fun c hc => hword c (List.mem_append_left more hc), nofun, (List.append_nil _).symm,
      .inr ⟨hnone, hfound, List.prefix_rfl, fun other hother => ?_⟩⟩
    simpa using hother.length_le

namespace Form

variable {form : Form} {argument : Argument}

theorem Argument.Captures.cut (h : argument.Captures s captured) :
    ∃ front behind, s = front ++ argument.stop :: behind ∧
      argument.Captures (front ++ [argument.stop]) captured := by
  cases argument with
  | word stop => exact IsWordBefore.cut h
  | quotedText =>
    obtain ⟨hne, hquote, after, rfl, hmeets⟩ := h
    obtain ⟨front, behind, rfl, hfront⟩ := hmeets.cut
    exact ⟨'"' :: captured ++ '"' :: front, behind, by simp [stop], hne, hquote, front ++ [';'],
      by simp [stop], hfront⟩
  | truth =>
    obtain ⟨hvalue, after, rfl, hmeets⟩ := h
    obtain ⟨front, behind, rfl, hfront⟩ := hmeets.cut
    exact ⟨captured ++ front, behind, by simp [stop], hvalue, front ++ [';'], by simp [stop],
      hfront⟩

theorem Fits.cut (hargument : form.argument? = some argument) (h : form.Fits line captured) :
    ∃ front behind, line = front ++ argument.stop :: behind ∧
      form.Fits (front ++ [argument.stop]) captured := by
  simp only [Fits, hargument] at h ⊢
  obtain ⟨rest, ⟨indent, gap, hindent, hgapNe, hgap, hrest, rfl⟩, hcaptures⟩ := h
  obtain ⟨front, behind, rfl, hcut⟩ := hcaptures.cut
  refine ⟨indent ++ form.keyword.toList ++ gap ++ front, behind, by simp,
    front ++ [argument.stop],
    ⟨indent, gap, hindent, hgapNe, hgap, fun c hc => hrest c ?_, by simp⟩, hcut⟩
  cases front with
  | nil => exact hc
  | cons d front => exact hc

end Form

theorem argument?_form (h : statement ≠ .close) :
    ∃ argument, statement.form.argument? = some argument ∧ argument.stop = statement.stop := by
  cases statement with
  | close => exact absurd rfl h
  | _ => exact ⟨_, rfl, rfl⟩

theorem ofChars?_cut (h : ofChars? line = some statement) (hclose : statement ≠ .close) :
    ∃ front behind, line = front ++ statement.stop :: behind ∧
      ofChars? (front ++ [statement.stop]) = some statement := by
  obtain ⟨argument, hargument, hstop⟩ := argument?_form hclose
  obtain ⟨captured, hcaptured, hstatement⟩ := exists_capture?_of_reads (reads_of_ofChars? h)
  obtain ⟨front, behind, hline, hfits⟩ := (Form.capture?_eq_some_iff.mp hcaptured).cut hargument
  have hread := reads_of_capture? (Form.capture?_eq_some_iff.mpr hfits)
  rw [hstatement, hstop] at hread
  rw [hstop] at hline
  exact ⟨front, behind, hline, ofChars?_eq_some_iff.mpr hread⟩

theorem marks_of_word? {stop : Char} {s : List Char} (h : word? stop s = some word) :
    word.toList <+: s ∧ marks stop s = word.toList.count stop + 1 := by
  have hfirst : firstWord s <+: s := List.takeWhile_prefix _
  rw [marks]
  simp only [word?] at h
  split at h
  case isTrue => cases h
  case isFalse =>
    split at h
    case isTrue hnext =>
      obtain rfl := Option.some.inj h
      rw [if_pos hnext, String.toList_ofList]
      exact ⟨hfirst, rfl⟩
    case isFalse hnext =>
      split at h
      · cases h
      · cases h
      · rename_i front _ hlast
        obtain rfl := Option.some.inj h
        rw [if_neg hnext, String.toList_ofList, count_of_beforeLast? hlast]
        exact ⟨(prefix_of_beforeLast? hlast).trans hfirst, rfl⟩

theorem word?_of_reads (h : Reads line statement) (hword : word ∈ statement.words) :
    ∃ rest, argument? statement.keyword line = some rest ∧
      word? statement.stop rest = some word := by
  cases statement with
  | setNamespace uri => cases hword
  | setMandatory value => cases hword
  | setDescription text => cases hword
  | close => cases hword
  | _ =>
    obtain rfl := List.mem_singleton.mp hword
    exact Option.bind_eq_some_iff.mp h

/-- The name or token that a statement takes begins what follows the keyword, and holds the mark
that ends the statement once less than the mark stands there: in the first word, and behind it
where nothing but blanks comes between. So it is free of the mark exactly where that is once. -/
theorem stop_not_mem_word_iff (h : ofChars? line = some statement)
    (hword : word ∈ statement.words) :
    ∃ rest, Follows statement.keyword.toList line rest ∧ word.toList <+: rest ∧
      marks statement.stop rest = word.toList.count statement.stop + 1 ∧
      (statement.stop ∉ word.toList ↔ marks statement.stop rest = 1) := by
  obtain ⟨rest, hrest, htaken⟩ := word?_of_reads (reads_of_ofChars? h) hword
  obtain ⟨hbegins, hmarks⟩ := marks_of_word? htaken
  refine ⟨rest, (argument?_eq_some_iff (isWord_keyword statement)).mp hrest, hbegins, hmarks, ?_⟩
  rw [hmarks, Nat.add_eq_right, List.count_eq_zero]

theorem stop_not_mem_word_iff_twoBraces :
    ofChars? "leaf a\x7bb \x7b".toList = some (.openNode .leaf "a\x7bb") ∧
    "a\x7bb" ∈ (Statement.openNode .leaf "a\x7bb").words ∧
    ∃ rest, Follows "leaf".toList "leaf a\x7bb \x7b".toList rest ∧ marks '{' rest = 2 := by
  have hline : ofChars? "leaf a\x7bb \x7b".toList = some (.openNode .leaf "a\x7bb") := by decide
  have hword : "a\x7bb" ∈ (Statement.openNode .leaf "a\x7bb").words := List.mem_cons_self
  obtain ⟨rest, hrest, -, hmarks, -⟩ := stop_not_mem_word_iff hline hword
  exact ⟨hline, hword, rest, hrest, hmarks⟩

/-- A mark that stands twice ends up in the name or the token. -/
theorem words_can_hold_marks :
    ofLine? "container c\x7b\x7b" = some (.openNode .container "c\x7b") ∧
    ofLine? "type string;;" = some (.setType "string;") ∧
    ¬∀ (line : List Char) (statement : Statement) (word : String),
      ofChars? line = some statement → word ∈ statement.words →
        statement.stop ∉ word.toList := by
  have htype : ofLine? "type string;;" = some (.setType "string;") := by decide
  refine ⟨by decide, htype, fun hfree => ?_⟩
  have hmark : (Statement.setType "string;").stop ∈ "string;".toList := by decide
  exact hfree _ _ _ htype List.mem_cons_self hmark

end YangCheck.Statement
