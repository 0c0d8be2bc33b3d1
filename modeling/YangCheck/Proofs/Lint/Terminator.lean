import YangCheck.Proofs.Lint.Findings
import YangCheck.Proofs.Statement.Marks

namespace YangCheck

open Text

namespace Statement

/-- The finding that a statement lacks its semicolon, for those that are checked for it. -/
def missingSemicolon? : Statement → Option Lint.Kind
  | .setNamespace _ => some .missingSemicolonNamespace
  | .setPrefix _ => some .missingSemicolonPrefix
  | .setType _ => some .missingSemicolonType
  | .setDescription _ => some .missingSemicolonDescription
  | _ => none

variable {statement : Statement} {line : List Char} {kind : Lint.Kind}

theorem stop_of_missingSemicolon? (h : statement.missingSemicolon? = some kind) :
    statement ≠ .close ∧ statement.stop = ';' := by
  cases statement <;> cases h <;> exact ⟨nofun, rfl⟩

theorem infix_keyword_of_reads (h : Reads line statement) :
    statement.keyword.toList <:+: line := by
  have hword : firstWord (skipBlanks line) <+: skipBlanks line := List.takeWhile_prefix _
  rw [firstWord_of_reads h] at hword
  exact hword.isInfix.trans (List.dropWhile_suffix _).isInfix

theorem quote_mem_of_quotedSetting? {keyword text : String}
    (h : quotedSetting? keyword line = some text) : '"' ∈ line := by
  obtain ⟨rest, hrest, htext⟩ := Option.bind_eq_some_iff.mp h
  have hcaptured : (quotedText? rest).map String.toList = some text.toList := by
    rw [htext]
    rfl
  obtain ⟨-, -, behind, rfl, -⟩ := quotedText?_eq_some_iff.mp hcaptured
  exact (suffix_of_argument? hrest).mem List.mem_cons_self

end Statement

namespace Lint

variable {statement : Statement} {line : List Char} {kind : Kind}

theorem mem_findings : kind ∈ findings line ↔ kind.appliesTo line = true := by
  simp [findings, Kind.mem_all]

theorem isUnterminated_iff :
    isUnterminated line = true ↔ line.getLast? ≠ some ';' ∧ '{' ∉ line := by
  simp [isUnterminated, endsIn]

/-- A statement brings its own keyword, and its quotes where it needs some, so that only the end of
the line is left to decide. -/
theorem appliesTo_missingSemicolon (h : Statement.Reads line statement)
    (hkind : statement.missingSemicolon? = some kind) :
    kind.appliesTo line = isUnterminated line := by
  have hkeyword : mentions statement.keyword line = true :=
    occurs_iff.mpr (Statement.infix_keyword_of_reads h)
  cases statement <;> cases hkind
  case setNamespace uri => exact congrArg (· && isUnterminated line) hkeyword
  case setPrefix name => exact congrArg (· && isUnterminated line) hkeyword
  case setType name => exact congrArg (· && isUnterminated line) hkeyword
  case setDescription text =>
    have hquote : line.contains '"' = true :=
      List.contains_iff_mem.mpr (Statement.quote_mem_of_quotedSetting? h)
    have hmentions : mentions "description" line = true := hkeyword
    rw [Kind.appliesTo, hmentions, hquote]
    rfl

/-- A statement that ends in a semicolon is not reported for the lack of one on the part of the line
up to that semicolon. On the whole line it is, and the semicolon is then reported as misplaced too,
exactly where more text follows, the line does not end in another semicolon, and no brace is opened
on it. -/
theorem missingSemicolon_iff_text_behind (h : Statement.ofChars? line = some statement)
    (hkind : statement.missingSemicolon? = some kind) :
    ∃ said behind, line = said ++ behind ∧ said.getLast? = some ';' ∧
      Statement.ofChars? said = some statement ∧ kind ∉ findings said ∧
      (kind ∈ findings line ↔ behind ≠ [] ∧ behind.getLast? ≠ some ';' ∧ '{' ∉ line) ∧
      (kind ∈ findings line ↔ Kind.misplacedSemicolon ∈ findings line) := by
  obtain ⟨hclose, hstop⟩ := Statement.stop_of_missingSemicolon? hkind
  obtain ⟨front, behind, hline, hsaid⟩ := Statement.ofChars?_cut h hclose
  rw [hstop] at hline hsaid
  have hrule := appliesTo_missingSemicolon (Statement.reads_of_ofChars? h) hkind
  have hsaidRule := appliesTo_missingSemicolon (Statement.reads_of_ofChars? hsaid) hkind
  have hmark : line.contains ';' = true := by simp [hline]
  refine ⟨front ++ [';'], behind, by simp [hline], List.getLast?_concat .., hsaid, ?_, ?_, ?_⟩
  · rw [mem_findings, hsaidRule, isUnterminated_iff]
    exact fun hend => hend.1 (List.getLast?_concat ..)
  -- The line ends as the text behind the semicolon does, or in the semicolon itself.
  · have hlast : line.getLast? = behind.getLast?.or (some ';') := by
      rw [hline, List.getLast?_append, List.getLast?_cons]
      cases behind.getLast? <;> rfl
    rw [mem_findings, hrule, isUnterminated_iff, hlast]
    cases behind with
    | nil => simp
    | cons c behind => simp [List.getLast?_cons]
  · rw [mem_findings, mem_findings, hrule, Kind.appliesTo, hmark, Bool.true_and]

theorem missingSemicolon_iff_text_behind_comment :
    Statement.ofChars? "namespace \"a;b\" ; // c".toList = some (.setNamespace "a;b") ∧
    (Statement.setNamespace "a;b").missingSemicolon? = some .missingSemicolonNamespace ∧
    Kind.missingSemicolonNamespace ∈ findings "namespace \"a;b\" ; // c".toList ∧
    Kind.misplacedSemicolon ∈ findings "namespace \"a;b\" ; // c".toList := by
  have hline : Statement.ofChars? "namespace \"a;b\" ; // c".toList =
      some (.setNamespace "a;b") := by decide
  have hfound : Kind.missingSemicolonNamespace ∈ findings "namespace \"a;b\" ; // c".toList := by
    decide
  obtain ⟨said, behind, -, -, -, -, -, hmisplaced⟩ := missingSemicolon_iff_text_behind hline rfl
  exact ⟨hline, rfl, hfound, hmisplaced.mp hfound⟩

/-- A type statement that is complete is reported all the same where a word follows it. -/
theorem type_reported_with_word_behind :
    Statement.ofLine? "type a; x" = some (.setType "a") ∧
    Kind.missingSemicolonType ∈ findings "type a; x".toList ∧
    ¬∀ (line : List Char) (statement : Statement) (kind : Kind), trim line = line →
      Statement.ofChars? line = some statement → statement.missingSemicolon? = some kind →
        kind ∉ findings line := by
  have hline : Statement.ofLine? "type a; x" = some (.setType "a") := by decide
  have hfound : Kind.missingSemicolonType ∈ findings "type a; x".toList := by decide
  exact ⟨hline, hfound, fun hnever => hnever _ _ _ (by decide) hline rfl hfound⟩

end Lint

end YangCheck
