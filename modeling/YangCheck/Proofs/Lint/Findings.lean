import YangCheck.Proofs.Lint.Checker

namespace YangCheck.Lint

open Text

/-- A rule and the number of a line, counted from one. -/
structure Hit where
  line : Nat
  kind : Kind
deriving DecidableEq, Repr

namespace Hit

def finding (hit : Hit) : Diagnostic :=
  .atLine hit.kind hit.line

/-- The line of that number is neither blank nor a comment, and the rule applies to it. -/
def IsOn (lines : List String) (hit : Hit) : Prop :=
  ∃ before raw, hit.line = before + 1 ∧ lines[before]? = some raw ∧
    Statement.isSignificant raw = true ∧ hit.kind.appliesTo (trim raw.toList) = true

/-- By line, and on one line in the order of the table of rules. -/
def Before (a b : Hit) : Prop :=
  a.line < b.line ∨ a.line = b.line ∧ Kind.all.idxOf a.kind < Kind.all.idxOf b.kind

end Hit

def hitsOn (numbered : String × Nat) : List Hit :=
  ((Statement.significant? numbered.1).elim [] findings).map fun kind =>
    { line := numbered.2, kind }

def hits (lines : List String) : List Hit :=
  (lines.zipIdx 1).flatMap hitsOn

theorem lineFindings_eq (seen : Nat) (lines : List String) :
    lineFindings seen lines = ((lines.zipIdx (seen + 1)).flatMap hitsOn).map Hit.finding := by
  induction lines generalizing seen with
  | nil => rfl
  | cons raw rest ih =>
    rw [lineFindings, ih, List.zipIdx_cons, List.flatMap_cons, List.map_append, hitsOn,
      List.map_map]
    rfl

theorem Kind.mem_all (kind : Kind) : kind ∈ all := by
  cases kind <;> decide

theorem mem_hitsOn {raw : String} {number : Nat} {hit : Hit} :
    hit ∈ hitsOn (raw, number) ↔ hit.line = number ∧ Statement.isSignificant raw = true ∧
      hit.kind.appliesTo (trim raw.toList) = true := by
  rw [hitsOn, Statement.significant?_eq, List.mem_map]
  cases Statement.isSignificant raw with
  | false => simp
  | true =>
    constructor
    · rintro ⟨kind, hkind, rfl⟩
      exact ⟨rfl, rfl, (List.mem_filter.mp hkind).2⟩
    · rintro ⟨rfl, -, hrule⟩
      exact ⟨hit.kind, List.mem_filter.mpr ⟨Kind.mem_all hit.kind, hrule⟩, rfl⟩

theorem mem_hits {lines : List String} {hit : Hit} : hit ∈ hits lines ↔ hit.IsOn lines := by
  simp only [hits, List.mem_flatMap, Prod.exists, mem_hitsOn,
    List.mk_mem_zipIdx_iff_le_and_getElem?_sub]
  constructor
  · rintro ⟨raw, number, ⟨hpos, hraw⟩, hline, hrule⟩
    exact ⟨number - 1, raw, by omega, hraw, hrule⟩
  · rintro ⟨before, raw, hline, hraw, hrule⟩
    exact ⟨raw, before + 1, ⟨by omega, hraw⟩, hline, hrule⟩

theorem pairwise_hitsOn (numbered : String × Nat) :
    (hitsOn numbered).Pairwise Hit.Before := by
  have htable : Kind.all.Pairwise fun a b => Kind.all.idxOf a < Kind.all.idxOf b := by decide
  rw [hitsOn, List.pairwise_map]
  cases Statement.significant? numbered.1 with
  | none => exact List.Pairwise.nil
  | some line =>
    have hrules : (findings line).Pairwise fun a b => Kind.all.idxOf a < Kind.all.idxOf b :=
      htable.filter _
    exact hrules.imp fun hlt => .inr ⟨rfl, hlt⟩

theorem pairwise_hits (lines : List String) : (hits lines).Pairwise Hit.Before := by
  refine List.pairwise_flatMap.mpr ⟨fun numbered _ => pairwise_hitsOn numbered, ?_⟩
  have hnumbers : ((lines.zipIdx 1).map Prod.snd).Pairwise (· < ·) := by
    rw [List.zipIdx_map_snd]
    exact List.pairwise_lt_range'
  refine (List.pairwise_map.mp hnumbers).imp fun {a b} hlt x hx y hy => .inl ?_
  rw [(mem_hitsOn.mp hx).1, (mem_hitsOn.mp hy).1]
  exact hlt

theorem filter_map_finding (hs : List Hit) (severity : Severity) :
    (hs.map Hit.finding).filter (·.severity == severity) =
      (hs.filter (·.kind.severity == severity)).map Hit.finding := by
  rw [List.filter_map]
  rfl

theorem not_isError (d : Diagnostic) : (!d.isError) = (d.severity == .warning) := by
  rw [Diagnostic.isError]
  cases d.severity <;> rfl

theorem warnings_checkLines (lines : List String) :
    (checkLines lines).warnings.toList =
      ((hits lines).filter (·.kind.severity == .warning)).map Hit.finding := by
  rw [checkLines, Checker.finish_feedAll_eq]
  simp only [not_isError, lineFindings_eq, filter_map_finding]
  rfl

theorem errors_checkLines (lines : List String) :
    (checkLines lines).errors.toList =
      ((hits lines).filter (·.kind.severity == .error)).map Hit.finding ++
        (Checker.feedAll {} lines).finalFindings := by
  have hfilter := filter_map_finding (hits lines) .error
  rw [hits, ← lineFindings_eq 0] at hfilter
  rw [checkLines, Checker.finish_feedAll_eq, hits, ← hfilter]
  rfl

theorem linesChecked_checkLines (lines : List String) :
    (checkLines lines).linesChecked = lines.length := by
  rw [checkLines, Checker.finish_feedAll_eq]

theorem line_of_mem_finalFindings {checker : Checker} {d : Diagnostic}
    (h : d ∈ checker.finalFindings) : d.line = none ∧ d.severity = d.kind.severity := by
  simp only [Checker.finalFindings, List.mem_append, List.mem_ite_nil_left,
    List.mem_ite_nil_right, List.mem_singleton] at h
  rcases h with (⟨-, rfl⟩ | ⟨-, rfl⟩) | ⟨-, rfl⟩ <;> exact ⟨rfl, rfl⟩

theorem finalFindings_eq_nil (lines : List String) :
    (Checker.feedAll {} lines).finalFindings = [] ↔
      hasHeader lines = true ∧ braceSurplus lines = 0 ∧ quoteCount lines % 2 = 0 := by
  rw [Checker.finalFindings_feedAll]
  simp

/-- A report lists the rules that apply to lines that are neither blank nor comments, each once, in
the order of lines and of the table of rules: the warnings in one list, the errors in the other, and
behind these, without a line, the errors of the end of the file. No error is listed exactly when no
rule for an error applies to a line and the end of the file is in order. -/
theorem report_lists_hits (lines : List String) :
    let report := checkLines lines
    let atEnd := (Checker.feedAll {} lines).finalFindings
    (∀ hit, hit ∈ hits lines ↔ hit.IsOn lines) ∧
    (hits lines).Pairwise Hit.Before ∧
    report.warnings.toList =
      ((hits lines).filter (·.kind.severity == .warning)).map Hit.finding ∧
    report.errors.toList =
      ((hits lines).filter (·.kind.severity == .error)).map Hit.finding ++ atEnd ∧
    (∀ d ∈ atEnd, d.line = none) ∧
    (∀ d ∈ report.warnings.toList ++ report.errors.toList, d.severity = d.kind.severity) ∧
    (∀ hit ∈ hits lines, 1 ≤ hit.line ∧ hit.line ≤ report.linesChecked ∧
      hit.finding.line = some hit.line ∧
      hit.finding.message = s!"Line {hit.line}: {hit.kind.message}") ∧
    report.linesChecked = lines.length ∧
    (report.isValid = true ↔
      (∀ hit : Hit, hit.IsOn lines → hit.kind.severity ≠ .error) ∧
        hasHeader lines = true ∧ braceSurplus lines = 0 ∧ quoteCount lines % 2 = 0) := by
  intro report atEnd
  have hlength : report.linesChecked = lines.length := linesChecked_checkLines lines
  refine ⟨fun hit => mem_hits, pairwise_hits lines, warnings_checkLines lines,
    errors_checkLines lines, fun d hd => (line_of_mem_finalFindings hd).1, ?_, ?_, hlength, ?_⟩
  · intro d hd
    rw [warnings_checkLines, errors_checkLines, List.mem_append, List.mem_append] at hd
    rcases hd with hd | hd | hd
    · obtain ⟨hit, -, rfl⟩ := List.mem_map.mp hd
      rfl
    · obtain ⟨hit, -, rfl⟩ := List.mem_map.mp hd
      rfl
    · exact (line_of_mem_finalFindings hd).2
  · intro hit hmem
    obtain ⟨before, raw, hline, hraw, -⟩ := mem_hits.mp hmem
    obtain ⟨hbound, -⟩ := List.getElem?_eq_some_iff.mp hraw
    exact ⟨by omega, by omega, rfl, rfl⟩
  · have herrors : report.isValid = true ↔ report.errors.toList = [] := by
      simp [Report.isValid]
    rw [herrors, errors_checkLines, List.append_eq_nil_iff, List.map_eq_nil_iff,
      List.filter_eq_nil_iff, finalFindings_eq_nil]
    simp [mem_hits]

/-- A line with three findings below one with an error; a comment and a blank line count. -/
def mixedLines : List String :=
  ["  type a", "// type b", "", "description c;; d"]

theorem report_lists_hits_mixedLines :
    hits mixedLines =
      [⟨1, .missingSemicolonType⟩, ⟨4, .descriptionMissingQuotes⟩, ⟨4, .doubleSemicolon⟩,
        ⟨4, .misplacedSemicolon⟩] ∧
    (checkLines mixedLines).warnings.toList =
      [.atLine .descriptionMissingQuotes 4, .atLine .doubleSemicolon 4,
        .atLine .misplacedSemicolon 4] ∧
    (checkLines mixedLines).errors.toList =
      [.atLine .missingSemicolonType 1,
        .ofFile .missingModule "No module declaration found in the file"] ∧
    (∀ hit ∈ hits mixedLines, hit.line ≤ (checkLines mixedLines).linesChecked) := by
  have hhits : hits mixedLines =
      [⟨1, .missingSemicolonType⟩, ⟨4, .descriptionMissingQuotes⟩, ⟨4, .doubleSemicolon⟩,
        ⟨4, .misplacedSemicolon⟩] := by decide
  obtain ⟨-, -, hwarnings, herrors, -, -, hbounds, -⟩ := report_lists_hits mixedLines
  rw [hhits] at hwarnings herrors
  exact ⟨hhits, hwarnings, herrors, fun hit hmem => (hbounds hit hmem).2.1⟩

end YangCheck.Lint
