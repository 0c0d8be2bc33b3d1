import Mathlib.Algebra.Ring.Nat
import YangCheck.Lint.Checker
import YangCheck.Proofs.Statement.Reading
import YangCheck.Proofs.Text.Words

namespace YangCheck.Lint

open Text

/-- The quotes of a line that do not stand right behind a backslash. -/
def bareQuotes (line : List Char) : Nat :=
  ((none :: line.map some).zip line).countP fun (before, c) => c = '"' && before != some '\\'

theorem isOdd_add (m n : Nat) :
    decide ((m + n) % 2 = 1) = (decide (m % 2 = 1) ^^ decide (n % 2 = 1)) := by
  rcases Nat.mod_two_eq_zero_or_one m with hm | hm <;>
    rcases Nat.mod_two_eq_zero_or_one n with hn | hn <;> simp [Nat.add_mod, hm, hn]

theorem foldl_quotes (inQuotes : Bool) (before : Option Char) (line : List Char) :
    (line.foldl
      (fun (state : Bool × Option Char) c =>
        (if c = '"' && state.2 != some '\\' then !state.1 else state.1, some c))
      (inQuotes, before)).1 =
    (inQuotes ^^ decide (((before :: line.map some).zip line).countP
      (fun (before, c) => c = '"' && before != some '\\') % 2 = 1)) := by
  induction line generalizing inQuotes before with
  | nil => simp
  | cons c rest ih =>
    rw [List.foldl_cons, ih, List.map_cons, List.zip_cons_cons, List.countP_cons]
    cases hquote : decide (c = '"') && before != some '\\' with
    | false => simp [hquote]
    | true => simp [hquote, isOdd_add]

theorem quotesAfter_eq (inQuotes : Bool) (line : List Char) :
    quotesAfter inQuotes line = (inQuotes ^^ decide (bareQuotes line % 2 = 1)) :=
  foldl_quotes inQuotes none line

theorem braceBalance_eq (line : List Char) :
    braceBalance line = (line.count '{' : Int) - line.count '}' := by
  have hfold : ∀ n : Int, line.foldl
      (fun n c => if c = '{' then n + 1 else if c = '}' then n - 1 else n) n =
        n + line.count '{' - line.count '}' := by
    induction line with
    | nil => simp
    | cons c rest ih =>
      intro n
      rw [List.foldl_cons, ih, List.count_cons, List.count_cons]
      by_cases hopen : c = '{'
      · subst c
        simp
        omega
      · by_cases hclose : c = '}'
        · subst c
          simp
          omega
        · simp [hopen, hclose]
  rw [braceBalance, hfold 0, Int.zero_add]

theorem Report.pushAll_eq (report : Report) (ds : List Diagnostic) :
    report.pushAll ds =
      { report with
        warnings := report.warnings ++ (ds.filter (!·.isError)).toArray
        errors := report.errors ++ (ds.filter Diagnostic.isError).toArray } := by
  induction ds generalizing report with
  | nil => simp [pushAll]
  | cons d rest ih =>
    refine (ih (report.push d)).trans ?_
    cases hseverity : d.severity <;> simp [push, Diagnostic.isError, hseverity]

/-- The opening braces in excess of the closing ones on lines that are neither blank nor
comments. -/
def braceSurplus (lines : List String) : Int :=
  let text := (lines.filter Statement.isSignificant).flatMap String.toList
  (text.count '{' : Int) - text.count '}'

/-- The quotes on lines that are neither blank nor comments, but for those right behind a
backslash. -/
def quoteCount (lines : List String) : Nat :=
  ((lines.filter Statement.isSignificant).map fun raw => bareQuotes raw.toList).sum

def hasHeader (lines : List String) : Bool :=
  lines.any fun raw => (Statement.significant? raw).any Statement.opensModule

theorem braceSurplus_cons (raw : String) (rest : List String) :
    braceSurplus (raw :: rest) =
      (if Statement.isSignificant raw then (raw.toList.count '{' : Int) - raw.toList.count '}'
        else 0) + braceSurplus rest := by
  cases hline : Statement.isSignificant raw with
  | false => simp [braceSurplus, hline]
  | true =>
    simp [braceSurplus, hline]
    omega

theorem quoteCount_cons (raw : String) (rest : List String) :
    quoteCount (raw :: rest) =
      (if Statement.isSignificant raw then bareQuotes raw.toList else 0) + quoteCount rest := by
  cases hline : Statement.isSignificant raw <;> simp [quoteCount, hline]

/-- What is found on lines that are numbered from the one behind `seen` on. -/
def lineFindings (seen : Nat) : List String → List Diagnostic
  | [] => []
  | raw :: rest =>
    ((Statement.significant? raw).elim [] findings).map (Diagnostic.atLine · (seen + 1)) ++
      lineFindings (seen + 1) rest

theorem exists_of_mem_lineFindings {seen : Nat} {lines : List String} {d : Diagnostic}
    (h : d ∈ lineFindings seen lines) :
    ∃ line number, ∃ kind ∈ findings line, d = Diagnostic.atLine kind number := by
  induction lines generalizing seen with
  | nil => cases h
  | cons raw rest ih =>
    rcases List.mem_append.mp h with hline | hrest
    · obtain ⟨kind, hkind, rfl⟩ := List.mem_map.mp hline
      cases hraw : Statement.significant? raw with
      | none =>
        rw [hraw] at hkind
        cases hkind
      | some line =>
        rw [hraw] at hkind
        exact ⟨line, seen + 1, kind, hkind, rfl⟩
    · exact ih hrest

theorem isSome_line_of_mem_lineFindings {seen : Nat} {lines : List String} {d : Diagnostic}
    (h : d ∈ lineFindings seen lines) : d.line.isSome = true := by
  obtain ⟨line, number, kind, -, rfl⟩ := exists_of_mem_lineFindings h
  rfl

theorem kind_ne_missingModule_of_mem_lineFindings {seen : Nat} {lines : List String}
    {d : Diagnostic} (h : d ∈ lineFindings seen lines) : d.kind ≠ .missingModule := by
  obtain ⟨line, number, kind, hkind, rfl⟩ := exists_of_mem_lineFindings h
  rintro rfl
  cases (List.mem_filter.mp hkind).2

namespace Checker

theorem findingsOn_eq (checker : Checker) (raw : String) :
    checker.findingsOn raw = ((Statement.significant? raw).elim [] findings).map
      (Diagnostic.atLine · (checker.linesSeen + 1)) := by
  rw [findingsOn]
  cases Statement.significant? raw <;> rfl

section feed

variable (checker : Checker) (raw : String)

theorem linesSeen_feed : (checker.feed raw).linesSeen = checker.linesSeen + 1 := by
  rw [feed]
  cases Statement.significant? raw <;> rfl

theorem report_feed :
    (checker.feed raw).report = checker.report.pushAll (checker.findingsOn raw) := by
  rw [feed, findingsOn_eq]
  cases Statement.significant? raw <;> simp [Report.pushAll_eq]

theorem moduleSeen_feed :
    (checker.feed raw).moduleSeen =
      (checker.moduleSeen || (Statement.significant? raw).any Statement.opensModule) := by
  rw [feed]
  cases Statement.significant? raw <;> simp

theorem balance_feed :
    (checker.feed raw).balance = checker.balance +
      if Statement.isSignificant raw then
        (raw.toList.count '{' : Int) - raw.toList.count '}'
      else 0 := by
  have hopen : isBlank '{' = false := by decide
  have hclose : isBlank '}' = false := by decide
  rw [feed, Statement.significant?_eq]
  cases Statement.isSignificant raw <;> simp [braceBalance_eq, count_trim, hopen, hclose]

theorem inQuotes_feed :
    (checker.feed raw).inQuotes = (checker.inQuotes ^^
      (Statement.isSignificant raw && decide (bareQuotes raw.toList % 2 = 1))) := by
  rw [feed, Statement.significant?_eq]
  cases Statement.isSignificant raw <;> simp [quotesAfter_eq]

end feed

section feedAll

variable (checker : Checker) (lines : List String)

theorem feedAll_cons (raw : String) (rest : List String) :
    checker.feedAll (raw :: rest) = (checker.feed raw).feedAll rest :=
  rfl

theorem balance_feedAll :
    (checker.feedAll lines).balance = checker.balance + braceSurplus lines := by
  induction lines generalizing checker with
  | nil => exact (Int.add_zero _).symm
  | cons raw rest ih => rw [feedAll_cons, ih, balance_feed, braceSurplus_cons, Int.add_assoc]

theorem inQuotes_feedAll :
    (checker.feedAll lines).inQuotes =
      (checker.inQuotes ^^ decide (quoteCount lines % 2 = 1)) := by
  induction lines generalizing checker with
  | nil => exact (Bool.xor_false _).symm
  | cons raw rest ih =>
    rw [feedAll_cons, ih, inQuotes_feed, quoteCount_cons, Bool.xor_assoc]
    cases Statement.isSignificant raw <;> simp [isOdd_add]

theorem moduleSeen_feedAll :
    (checker.feedAll lines).moduleSeen = (checker.moduleSeen || hasHeader lines) := by
  induction lines generalizing checker with
  | nil => exact (Bool.or_false _).symm
  | cons raw rest ih => rw [feedAll_cons, ih, moduleSeen_feed, Bool.or_assoc]; rfl

theorem linesSeen_feedAll :
    (checker.feedAll lines).linesSeen = checker.linesSeen + lines.length := by
  induction lines generalizing checker with
  | nil => rfl
  | cons raw rest ih => rw [feedAll_cons, ih, linesSeen_feed, List.length_cons]; omega

theorem report_feedAll :
    (checker.feedAll lines).report =
      checker.report.pushAll (lineFindings checker.linesSeen lines) := by
  induction lines generalizing checker with
  | nil => rfl
  | cons raw rest ih =>
    rw [feedAll_cons, ih, report_feed, linesSeen_feed, lineFindings, ← findingsOn_eq,
      Report.pushAll, Report.pushAll, Report.pushAll, List.foldl_append]

end feedAll

theorem isError_of_mem_finalFindings {checker : Checker} {d : Diagnostic}
    (h : d ∈ checker.finalFindings) : d.isError = true := by
  simp only [finalFindings, List.mem_append, List.mem_ite_nil_left, List.mem_ite_nil_right,
    List.mem_singleton] at h
  rcases h with (⟨-, rfl⟩ | ⟨-, rfl⟩) | ⟨-, rfl⟩ <;> rfl

theorem finish_eq (checker : Checker) :
    checker.finish =
      { warnings := checker.report.warnings
        errors := checker.report.errors ++ checker.finalFindings.toArray
        linesChecked := checker.linesSeen } := by
  have herrors : checker.finalFindings.filter Diagnostic.isError = checker.finalFindings :=
    List.filter_eq_self.mpr fun d hd => isError_of_mem_finalFindings hd
  have hwarnings : checker.finalFindings.filter (!·.isError) = [] := by
    refine List.filter_eq_nil_iff.mpr fun d hd => ?_
    simp [isError_of_mem_finalFindings hd]
  simp [finish, Report.pushAll_eq, herrors, hwarnings]

theorem finish_feedAll_eq (lines : List String) :
    (feedAll {} lines).finish =
      { warnings := ((lineFindings 0 lines).filter (!·.isError)).toArray
        errors := ((lineFindings 0 lines).filter Diagnostic.isError ++
          (feedAll {} lines).finalFindings).toArray
        linesChecked := lines.length } := by
  simp [finish_eq, report_feedAll, Report.pushAll_eq, linesSeen_feedAll]

theorem finalFindings_feedAll (lines : List String) :
    (feedAll {} lines).finalFindings =
      (if hasHeader lines then [] else [.ofFile .missingModule Kind.missingModule.message]) ++
      (if braceSurplus lines = 0 then []
        else [.ofFile .unbalancedBraces (balanceMessage (braceSurplus lines))]) ++
      (if quoteCount lines % 2 = 1 then [.ofFile .unclosedQuotes Kind.unclosedQuotes.message]
        else []) := by
  simp [finalFindings, moduleSeen_feedAll, balance_feedAll, inQuotes_feedAll]

end Checker

/-- Behind any lines the balance is the surplus of opening braces, and a quote is open when the
number of quotes is odd. At the end of the file come, behind all that is found on lines and in this
order, one error if no line is a module header, one if the balance is not even, and one if a quote
is open; none of them depends on the others. -/
theorem end_of_file_findings (lines : List String) :
    (∀ count,
      (Checker.feedAll {} (lines.take count)).balance = braceSurplus (lines.take count) ∧
      ((Checker.feedAll {} (lines.take count)).inQuotes = true ↔
        quoteCount (lines.take count) % 2 = 1)) ∧
    (lineFindings 0 lines).all (·.line.isSome) = true ∧
    (checkLines lines).warnings.toList = (lineFindings 0 lines).filter (!·.isError) ∧
    (checkLines lines).errors.toList =
      (lineFindings 0 lines).filter Diagnostic.isError ++
      ((if hasHeader lines then []
        else [.ofFile .missingModule "No module declaration found in the file"]) ++
      (if braceSurplus lines = 0 then []
        else
          let side := if 0 < braceSurplus lines then "opening" else "closing"
          let number := (braceSurplus lines).natAbs
          [.ofFile .unbalancedBraces
            s!"Unbalanced braces in YANG file - {number} more {side} brace(s)"]) ++
      (if quoteCount lines % 2 = 1 then [.ofFile .unclosedQuotes "Unclosed quotes in the file"]
        else [])) := by
  refine ⟨fun count => ⟨?_, ?_⟩, ?_, ?_, ?_⟩
  · exact (Checker.balance_feedAll {} _).trans (Int.zero_add _)
  · rw [Checker.inQuotes_feedAll, Bool.false_xor, decide_eq_true_iff]
  · exact List.all_eq_true.mpr fun d => isSome_line_of_mem_lineFindings
  · rw [checkLines, Checker.finish_feedAll_eq]
  · rw [checkLines, Checker.finish_feedAll_eq, Checker.finalFindings_feedAll]
    rfl

end YangCheck.Lint
