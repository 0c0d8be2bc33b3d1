import Mathlib.Data.List.Forall2
import YangCheck.Proofs.Inspection.ModulePresence
import YangCheck.Proofs.Lint.StatementLine

namespace YangCheck

open Text

/-- A line with blanks put in front of it and behind it. -/
def Text.IsPadded (raw padded : String) : Prop :=
  ∃ left right, (∀ c ∈ left, isBlank c = true) ∧ (∀ c ∈ right, isBlank c = true) ∧
    padded.toList = left ++ raw.toList ++ right

namespace Statement

/-- Blanks alone, or two slashes behind blanks and whatever follows them. -/
def SaysNothing (raw : String) : Prop :=
  ∃ indent text, (∀ c ∈ indent, isBlank c = true) ∧
    (raw.toList = indent ∨ raw.toList = indent ++ '/' :: '/' :: text)

theorem significant?_of_isPadded {raw padded : String} (h : IsPadded raw padded) :
    significant? padded = significant? raw := by
  obtain ⟨left, right, hleft, hright, hpadded⟩ := h
  rw [significant?, significant?, hpadded, trim_append hleft hright]

theorem isSignificant_of_saysNothing {raw : String} (h : SaysNothing raw) :
    isSignificant raw = false := by
  have hnil : ∀ c ∈ ([] : List Char), isBlank c = true := nofun
  obtain ⟨indent, text, hindent, hblank | hcomment⟩ := h
  · have htrim : trim indent = trim [] := by
      have happend := trim_append hindent hnil []
      rwa [List.append_nil, List.append_nil] at happend
    rw [isSignificant, hblank, htrim]
    rfl
  · have htrim : trim (indent ++ '/' :: '/' :: text) = trim ('/' :: '/' :: text) := by
      have happend := trim_append hindent hnil ('/' :: '/' :: text)
      rwa [List.append_nil] at happend
    have hslash : ∀ c ∈ ['/', '/'], isBlank c = false := by
      intro c hc
      rw [List.eq_of_mem_replicate (n := 2) hc]
      rfl
    have hslashes : ['/', '/'] <+: trim ('/' :: '/' :: text) :=
      prefix_trim (List.cons_ne_nil _ _) hslash text
    rw [isSignificant, hcomment, htrim, List.isPrefixOf_iff_prefix.mpr hslashes]
    exact Bool.and_false _

theorem significant?_of_saysNothing {raw : String} (h : SaysNothing raw) :
    significant? raw = none := by
  rw [significant?_eq, isSignificant_of_saysNothing h]
  rfl

end Statement

namespace Outline.Nest

theorem feed_of_isPadded (nest : Nest) {raw padded : String} (h : IsPadded raw padded) :
    nest.feed padded = nest.feed raw := by
  rw [feed, feed, Statement.significant?_of_isPadded h]

theorem feedAll_of_isPadded (nest : Nest) {lines padded : List String}
    (h : List.Forall₂ IsPadded lines padded) : nest.feedAll padded = nest.feedAll lines := by
  induction h generalizing nest with
  | nil => rfl
  | cons hline _ ih =>
    refine (ih _).trans ?_
    rw [feed_of_isPadded nest hline]
    rfl

theorem feed_of_saysNothing (nest : Nest) {raw : String} (h : Statement.SaysNothing raw) :
    nest.feed raw = nest := by
  rw [feed, Statement.significant?_of_saysNothing h]
  rfl

theorem feedAll_append (nest : Nest) (front back : List String) :
    nest.feedAll (front ++ back) = (nest.feedAll front).feedAll back :=
  List.foldl_append

end Outline.Nest

theorem Module.ofLines_of_isPadded {lines padded : List String}
    (h : List.Forall₂ IsPadded lines padded) : ofLines padded = ofLines lines := by
  rw [ofLines, ofLines, Outline.finish_feedAll, Outline.finish_feedAll,
    Outline.Nest.feedAll_of_isPadded _ h]

theorem Module.ofLines_of_saysNothing (front back : List String) {raw : String}
    (h : Statement.SaysNothing raw) : ofLines (front ++ raw :: back) = ofLines (front ++ back) := by
  have hskip := Outline.Nest.feed_of_saysNothing (Outline.Nest.feedAll {} front) h
  rw [ofLines, ofLines, Outline.finish_feedAll, Outline.finish_feedAll,
    Outline.Nest.feedAll_append, Outline.Nest.feedAll_append, ← List.singleton_append,
    Outline.Nest.feedAll_append]
  exact congrArg (fun nest : Outline.Nest => (nest.feedAll back).finish) hskip

namespace Lint

theorem count_quote_of_blank {s : List Char} (h : ∀ c ∈ s, isBlank c = true) :
    s.count '"' = 0 :=
  List.count_eq_zero.mpr fun hquote => absurd (h _ hquote) (by decide)

theorem bareQuotesAfter_of_ne {before : Option Char} (h : before ≠ some '\\') (s : List Char) :
    bareQuotesAfter before s = bareQuotesAfter none s := by
  cases s with
  | nil => rfl
  | cons c rest => simp [bareQuotesAfter_cons, h]

theorem bareQuotesAfter_append_right {back : List Char} (h : back.count '"' = 0)
    (before : Option Char) (s : List Char) :
    bareQuotesAfter before (s ++ back) = bareQuotesAfter before s := by
  induction s generalizing before with
  | nil =>
    have hback := bareQuotesAfter_append h before []
    rwa [List.append_nil] at hback
  | cons c rest ih => rw [List.cons_append, bareQuotesAfter_cons, bareQuotesAfter_cons, ih]

/-- Quotes are counted on the raw line, but blanks around it neither hold nor hide one. -/
theorem bareQuotes_of_isPadded {raw padded : String} (h : IsPadded raw padded) :
    bareQuotes padded.toList = bareQuotes raw.toList := by
  obtain ⟨left, right, hleft, hright, hpadded⟩ := h
  have hbefore : left.getLast?.or none ≠ some '\\' := by
    intro hlast
    rw [Option.or_none] at hlast
    exact absurd (hleft _ (List.mem_of_getLast? hlast)) (by decide)
  change bareQuotesAfter none _ = bareQuotesAfter none _
  rw [hpadded, bareQuotesAfter_append_right (count_quote_of_blank hright),
    bareQuotesAfter_append (count_quote_of_blank hleft), bareQuotesAfter_of_ne hbefore]

namespace Checker

theorem feed_of_isPadded (checker : Checker) {raw padded : String} (h : IsPadded raw padded) :
    checker.feed padded = checker.feed raw := by
  have hquotes : quotesAfter checker.inQuotes padded.toList =
      quotesAfter checker.inQuotes raw.toList := by
    rw [quotesAfter_eq, quotesAfter_eq, bareQuotes_of_isPadded h]
  simp only [feed, findingsOn, Statement.significant?_of_isPadded h, hquotes]

theorem feedAll_of_isPadded (checker : Checker) {lines padded : List String}
    (h : List.Forall₂ IsPadded lines padded) :
    checker.feedAll padded = checker.feedAll lines := by
  induction h generalizing checker with
  | nil => rfl
  | cons hline _ ih => rw [feedAll_cons, feedAll_cons, feed_of_isPadded checker hline, ih]

end Checker

/-- What becomes of a finding when a line is put in behind the first `front` lines: it stays if it
is on one of these or on no line, and else the number of its line grows by one, also in its
message. -/
inductive Diagnostic.IsMoved (front : Nat) : Diagnostic → Diagnostic → Prop
  | stays {d : Diagnostic} (h : ∀ number ∈ d.line, number ≤ front) : IsMoved front d d
  | moves {d : Diagnostic} {number : Nat} {text : String} (hline : d.line = some number)
      (hbehind : front < number) (hmessage : d.message = s!"Line {number}: {text}") :
      IsMoved front d
        { d with line := some (number + 1), message := s!"Line {number + 1}: {text}" }

variable {front : Nat}

theorem lineFindings_append (seen : Nat) (before behind : List String) :
    lineFindings seen (before ++ behind) =
      lineFindings seen before ++ lineFindings (seen + before.length) behind := by
  induction before generalizing seen with
  | nil => rfl
  | cons raw rest ih =>
    rw [List.cons_append, lineFindings, lineFindings, ih, List.append_assoc, List.length_cons,
      Nat.add_assoc, Nat.add_comm 1]

theorem lineFindings_cons_of_saysNothing {raw : String} (h : Statement.SaysNothing raw)
    (seen : Nat) (rest : List String) :
    lineFindings seen (raw :: rest) = lineFindings (seen + 1) rest := by
  rw [lineFindings, Statement.significant?_of_saysNothing h]
  rfl

theorem number_le_of_mem_lineFindings {seen : Nat} {lines : List String} {d : Diagnostic}
    (h : d ∈ lineFindings seen lines) : ∀ number ∈ d.line, number ≤ seen + lines.length := by
  induction lines generalizing seen with
  | nil => cases h
  | cons raw rest ih =>
    intro number hnumber
    rw [List.length_cons]
    rcases List.mem_append.mp h with hline | hrest
    · obtain ⟨kind, -, rfl⟩ := List.mem_map.mp hline
      obtain rfl := Option.mem_some.mp hnumber
      omega
    · have hle := ih hrest number hnumber
      omega

theorem isMoved_lineFindings {seen : Nat} (h : front ≤ seen) (lines : List String) :
    List.Forall₂ (Diagnostic.IsMoved front) (lineFindings seen lines)
      (lineFindings (seen + 1) lines) := by
  induction lines generalizing seen with
  | nil => exact .nil
  | cons raw rest ih =>
    refine List.rel_append ?_ (ih (Nat.le_succ_of_le h))
    rw [List.forall₂_map_left_iff, List.forall₂_map_right_iff, List.forall₂_same]
    intro kind _
    exact .moves (d := .atLine kind (seen + 1)) rfl (Nat.lt_succ_of_le h) rfl

theorem isMoved_lineFindings_insert (before behind : List String) {raw : String}
    (h : Statement.SaysNothing raw) :
    List.Forall₂ (Diagnostic.IsMoved before.length) (lineFindings 0 (before ++ behind))
      (lineFindings 0 (before ++ raw :: behind)) := by
  rw [lineFindings_append, lineFindings_append, lineFindings_cons_of_saysNothing h]
  refine List.rel_append (List.forall₂_same.mpr fun d hd => .stays ?_)
    (isMoved_lineFindings (Nat.le_add_left _ _) behind)
  simpa using number_le_of_mem_lineFindings hd

theorem isError_of_isMoved {d moved : Diagnostic} (h : d.IsMoved front moved) :
    moved.isError = d.isError := by
  cases h <;> rfl

theorem forall₂_filter_of_isMoved {ds moved : List Diagnostic}
    (h : List.Forall₂ (Diagnostic.IsMoved front) ds moved) (keep : Bool → Bool) :
    List.Forall₂ (Diagnostic.IsMoved front) (ds.filter fun d => keep d.isError)
      (moved.filter fun d => keep d.isError) := by
  refine List.rel_filter (fun d d' hd => ?_) h
  change keep d.isError = true ↔ keep d'.isError = true
  rw [isError_of_isMoved hd]

theorem finalFindings_of_saysNothing (before behind : List String) {raw : String}
    (h : Statement.SaysNothing raw) :
    (Checker.feedAll {} (before ++ raw :: behind)).finalFindings =
      (Checker.feedAll {} (before ++ behind)).finalFindings := by
  have hfilter : (before ++ raw :: behind).filter Statement.isSignificant =
      (before ++ behind).filter Statement.isSignificant := by
    simp [Statement.isSignificant_of_saysNothing h]
  have hheader : hasHeader (before ++ raw :: behind) = hasHeader (before ++ behind) := by
    simp [hasHeader, Statement.significant?_of_saysNothing h]
  have hsurplus : braceSurplus (before ++ raw :: behind) = braceSurplus (before ++ behind) := by
    rw [braceSurplus, braceSurplus, hfilter]
  have hquotes : quoteCount (before ++ raw :: behind) = quoteCount (before ++ behind) := by
    rw [quoteCount, quoteCount, hfilter]
  rw [Checker.finalFindings_feedAll, Checker.finalFindings_feedAll, hheader, hsurplus, hquotes]

end Lint

open Lint

/-- Blanks in front of lines and behind them change neither the module nor the report. A blank line
or a comment, put in anywhere, leaves the module as it is; the report counts one line more and
lists the same findings, those on the lines behind with the next number. -/
theorem layout_makes_no_difference (lines : List String) :
    (∀ padded, List.Forall₂ IsPadded lines padded →
      Module.ofLines padded = Module.ofLines lines ∧ checkLines padded = checkLines lines) ∧
    (∀ before behind raw, lines = before ++ behind → Statement.SaysNothing raw →
      let longer := before ++ raw :: behind
      Module.ofLines longer = Module.ofLines lines ∧
      (checkLines longer).linesChecked = (checkLines lines).linesChecked + 1 ∧
      List.Forall₂ (Diagnostic.IsMoved before.length) (checkLines lines).warnings.toList
        (checkLines longer).warnings.toList ∧
      List.Forall₂ (Diagnostic.IsMoved before.length) (checkLines lines).errors.toList
        (checkLines longer).errors.toList) := by
  refine ⟨fun padded hpadded => ⟨Module.ofLines_of_isPadded hpadded, ?_⟩, ?_⟩
  · rw [checkLines, Checker.feedAll_of_isPadded {} hpadded, checkLines]
  · rintro before behind raw rfl hraw
    dsimp only
    have hmoved := isMoved_lineFindings_insert before behind hraw
    refine ⟨Module.ofLines_of_saysNothing before behind hraw, ?_, ?_, ?_⟩
    · rw [linesChecked_checkLines, linesChecked_checkLines, List.length_append, List.length_append]
      rfl
    · simp only [checkLines, Checker.finish_feedAll_eq]
      exact forall₂_filter_of_isMoved hmoved not
    · simp only [checkLines, Checker.finish_feedAll_eq, finalFindings_of_saysNothing _ _ hraw]
      refine List.rel_append (forall₂_filter_of_isMoved hmoved id) ?_
      refine List.forall₂_same.mpr fun d hd => .stays fun number hnumber => ?_
      rw [(line_of_mem_finalFindings hd).1] at hnumber
      cases hnumber

/-- An escaped quote at the start of a line, and a rule that applies to the line behind it. -/
def quotedLines : List String :=
  ["module m \x7b", "\\\"", "type a"]

theorem layout_makes_no_difference_quotedLines :
    let padded := ["module m \x7b\t", "\u3000\\\"  ", "  type a"]
    let comment := "\u00a0// \x7d \" type b"
    checkLines padded = checkLines quotedLines ∧
    Module.ofLines padded = Module.ofLines quotedLines ∧
    Module.ofLines ["module m \x7b", comment, "\\\"", "type a"] = Module.ofLines quotedLines ∧
    List.Forall₂ (Diagnostic.IsMoved 1) (checkLines quotedLines).errors.toList
      (checkLines ["module m \x7b", comment, "\\\"", "type a"]).errors.toList ∧
    (checkLines quotedLines).errors.toList =
      [.atLine .missingSemicolonType 3,
        .ofFile .unbalancedBraces "Unbalanced braces in YANG file - 1 more opening brace(s)"] := by
  obtain ⟨hpadding, hinsertion⟩ := layout_makes_no_difference quotedLines
  have hblank : ∀ blanks : List Char, blanks.all isBlank = true → ∀ c ∈ blanks, isBlank c = true :=
    fun _ => List.all_eq_true.mp
  have hpadded : List.Forall₂ IsPadded quotedLines
      ["module m \x7b\t", "\u3000\\\"  ", "  type a"] := by
    refine .cons ⟨[], ['\t'], hblank _ rfl, hblank _ rfl, by decide⟩ ?_
    refine .cons ⟨['\u3000'], [' ', ' '], hblank _ rfl, hblank _ rfl, by decide⟩ ?_
    exact .cons ⟨[' ', ' '], [], hblank _ rfl, hblank _ rfl, by decide⟩ .nil
  have hcomment : Statement.SaysNothing "\u00a0// \x7d \" type b" :=
    ⟨['\u00a0'], " \x7d \" type b".toList, hblank _ rfl, .inr (by decide)⟩
  obtain ⟨hmodule, hreport⟩ := hpadding _ hpadded
  obtain ⟨hbuilt, -, -, herrors⟩ :=
    hinsertion ["module m \x7b"] ["\\\"", "type a"] _ rfl hcomment
  exact ⟨hreport, hmodule, hbuilt, herrors, by decide⟩

end YangCheck
