import YangCheck.Proofs.Lint.Findings
import YangCheck.Proofs.Model.SourceRoundTrip
import YangCheck.Proofs.Model.Words

namespace YangCheck

open Text

/-- Whether a word can stand in a statement and holds neither braces nor quotes. -/
def Text.isPlainWord (word : String) : Bool :=
  isWord word && word.toList.all fun c => c != '{' && c != '}' && c != '"'

/-- Whether a text can stand between quotes, holds no braces and leaves its last quote bare. -/
def Text.isPlainText (text : String) : Bool :=
  isQuotable text && text.toList.all (fun c => c != '{' && c != '}') &&
    text.toList.getLast? != some '\\'

namespace Lint

/-- The quotes of a line that do not stand right behind a backslash, the line itself standing behind
`before`. -/
def bareQuotesAfter (before : Option Char) (line : List Char) : Nat :=
  ((before :: line.map some).zip line).countP fun (before, c) => c = '"' && before != some '\\'

theorem bareQuotesAfter_cons (before : Option Char) (c : Char) (rest : List Char) :
    bareQuotesAfter before (c :: rest) =
      bareQuotesAfter (some c) rest + if c = '"' && before != some '\\' then 1 else 0 := by
  rw [bareQuotesAfter, List.map_cons, List.zip_cons_cons, List.countP_cons]
  rfl

theorem bareQuotesAfter_append {front : List Char} (h : front.count '"' = 0)
    (before : Option Char) (rest : List Char) :
    bareQuotesAfter before (front ++ rest) =
      bareQuotesAfter (front.getLast?.or before) rest := by
  induction front generalizing before with
  | nil => rfl
  | cons c front ih =>
    obtain ⟨hne, hfront⟩ : c ≠ '"' ∧ front.count '"' = 0 := by
      simpa [List.count_cons, and_comm] using h
    rw [List.cons_append, bareQuotesAfter_cons, ih hfront, List.getLast?_cons]
    cases front.getLast? <;> simp [hne]

end Lint

namespace Statement

variable {statement : Statement}

structure IsPlain (statement : Statement) : Prop where
  words : ∀ word ∈ statement.words, isPlainWord word = true
  texts : ∀ text ∈ statement.texts, isPlainText text = true

theorem isWellFormed_of_isPlain (h : statement.IsPlain) : statement.isWellFormed = true := by
  have hword : ∀ word ∈ statement.words, isWord word = true := fun word hmem =>
    (Bool.and_eq_true_iff.mp (h.words word hmem)).1
  have htext : ∀ text ∈ statement.texts, isQuotable text = true := fun text hmem =>
    (Bool.and_eq_true_iff.mp (Bool.and_eq_true_iff.mp (h.texts text hmem)).1).1
  cases statement with
  | setNamespace uri => exact htext uri List.mem_cons_self
  | setDescription text => exact htext text List.mem_cons_self
  | setMandatory value => rfl
  | close => rfl
  | _ => exact hword _ List.mem_cons_self

theorem isSignificant_line (statement : Statement) : isSignificant statement.line = true := by
  have hline := significant?_line statement
  rw [significant?_eq] at hline
  by_contra hnot
  rw [if_neg hnot] at hline
  cases hline

theorem not_mem_keyword (h : statement ≠ .close) :
    ∀ c ∈ ['{', '}', '"', ';'], c ∉ statement.keyword.toList := by
  have hnone : ['{', '}', '"', ';'].all (!statement.keyword.toList.contains ·) = true := by
    cases statement with
    | close => exact absurd rfl h
    | openNode kind name => cases kind <;> simp only [keyword, NodeKind.keyword] <;> decide
    | _ => simp only [keyword]; decide
  intro c hc
  simpa using List.all_eq_true.mp hnone c hc

/-- Behind its keyword a statement has a word and a brace, a word and a semicolon, or a quoted text
and a semicolon. A truth value is a word of its own. -/
theorem afterKeyword_cases {P : String → Prop} (h : statement ≠ .close)
    (hwords : ∀ word ∈ statement.words, P word) (htruth : ∀ value : Bool, P (toString value)) :
    (∃ word, P word ∧ statement.texts = [] ∧ statement.opens = true ∧
      statement.afterKeyword = word.toList ++ [' ', '{']) ∨
    (∃ word, P word ∧ statement.texts = [] ∧ statement.opens = false ∧
      statement.afterKeyword = word.toList ++ [';']) ∨
    (∃ text ∈ statement.texts, statement.opens = false ∧
      statement.afterKeyword = '"' :: text.toList ++ ['"', ';']) := by
  cases statement with
  | openModule name => exact .inl ⟨name, hwords name List.mem_cons_self, rfl, rfl, rfl⟩
  | openImport name => exact .inl ⟨name, hwords name List.mem_cons_self, rfl, rfl, rfl⟩
  | openNode kind name => exact .inl ⟨name, hwords name List.mem_cons_self, rfl, rfl, rfl⟩
  | setPrefix name => exact .inr (.inl ⟨name, hwords name List.mem_cons_self, rfl, rfl, rfl⟩)
  | setType name => exact .inr (.inl ⟨name, hwords name List.mem_cons_self, rfl, rfl, rfl⟩)
  | setMandatory value => exact .inr (.inl ⟨toString value, htruth value, rfl, rfl, rfl⟩)
  | setNamespace uri => exact .inr (.inr ⟨uri, List.mem_cons_self, rfl, rfl⟩)
  | setDescription text => exact .inr (.inr ⟨text, List.mem_cons_self, rfl, rfl⟩)
  | close => exact absurd rfl h

theorem count_line {c : Char} (hc : c ∈ ['{', '}', '"', ';']) (h : statement ≠ .close) :
    statement.line.toList.count c = statement.afterKeyword.count c := by
  have hkeyword := List.count_eq_zero.mpr (not_mem_keyword h c hc)
  have hspace : ' ' ≠ c := by
    rintro rfl
    revert hc
    decide
  rw [line_of_ne_close h, List.count_append, hkeyword, List.count_cons_of_ne hspace, Nat.zero_add]

theorem count_truth (value : Bool) :
    ∀ c ∈ ['{', '}', '"'], (toString value).toList.count c = 0 := by
  have hnone : ['{', '}', '"'].all ((toString value).toList.count · == 0) = true := by
    cases value <;> decide
  intro c hc
  simpa using List.all_eq_true.mp hnone c hc

section plain

variable (h : statement.IsPlain)

include h

theorem count_word {word : String} (hword : word ∈ statement.words) :
    ∀ c ∈ ['{', '}', '"'], word.toList.count c = 0 := by
  obtain ⟨-, hmarks⟩ := Bool.and_eq_true_iff.mp (h.words word hword)
  intro c hc
  refine List.count_eq_zero.mpr fun hmem => ?_
  have hne := List.all_eq_true.mp hmarks c hmem
  simp_all

theorem count_text {text : String} (htext : text ∈ statement.texts) :
    ∀ c ∈ ['{', '}', '"'], text.toList.count c = 0 := by
  obtain ⟨hfront, -⟩ := Bool.and_eq_true_iff.mp (h.texts text htext)
  obtain ⟨hquotable, hbraces⟩ := Bool.and_eq_true_iff.mp hfront
  intro c hc
  refine List.count_eq_zero.mpr fun hmem => ?_
  have hquote := List.all_eq_true.mp (Bool.and_eq_true_iff.mp hquotable).2 c hmem
  have hbrace := List.all_eq_true.mp hbraces c hmem
  simp_all

theorem count_braces_line :
    statement.line.toList.count '{' = (if statement.opens then 1 else 0) ∧
      statement.line.toList.count '}' = (if statement = .close then 1 else 0) := by
  by_cases hclose : statement = .close
  · subst statement
    exact ⟨rfl, rfl⟩
  rw [count_line (by decide) hclose, count_line (by decide) hclose, if_neg hclose]
  rcases afterKeyword_cases hclose (fun _ => count_word h) count_truth with
    ⟨word, hcount, -, hopens, hafter⟩ | ⟨word, hcount, -, hopens, hafter⟩ |
      ⟨text, htext, hopens, hafter⟩
  · simp [hafter, hopens, hcount]
  · simp [hafter, hopens, hcount]
  · simp [hafter, hopens, count_text h htext]

theorem bareQuotes_line : Lint.bareQuotes statement.line.toList % 2 = 0 := by
  by_cases hclose : statement = .close
  · subst statement
    rfl
  have hnone : ∀ {line : List Char}, line.count '"' = 0 → Lint.bareQuotes line = 0 := by
    intro line hline
    have hskip := Lint.bareQuotesAfter_append hline none []
    rw [List.append_nil] at hskip
    exact hskip
  have hquotes := count_line (c := '"') (by decide) hclose
  rcases afterKeyword_cases hclose (fun _ => count_word h) count_truth with
    ⟨word, hcount, -, -, hafter⟩ | ⟨word, hcount, -, -, hafter⟩ | ⟨text, htext, -, hafter⟩
  · rw [hnone (by simp [hquotes, hafter, hcount])]
  · rw [hnone (by simp [hquotes, hafter, hcount])]
  · have hkeyword : (statement.keyword.toList ++ [' ']).count '"' = 0 := by
      rw [List.count_append, List.count_eq_zero.mpr (not_mem_keyword hclose '"' (by decide))]
      rfl
    have htextQuotes := count_text h htext '"' (by decide)
    have hlast : text.toList.getLast? ≠ some '\\' := by
      have hend := (Bool.and_eq_true_iff.mp (h.texts text htext)).2
      simpa using hend
    have hline : statement.line.toList =
        (statement.keyword.toList ++ [' ']) ++ '"' :: (text.toList ++ '"' :: [';']) := by
      rw [line_of_ne_close hclose, hafter]
      simp
    have hbefore : (text.toList.getLast?.or (some '"') != some '\\') = true := by
      cases hl : text.toList.getLast? with
      | none => rfl
      | some c => simpa [hl] using hlast
    rw [hline]
    change Lint.bareQuotesAfter none _ % 2 = 0
    rw [Lint.bareQuotesAfter_append hkeyword, List.getLast?_concat, Lint.bareQuotesAfter_cons,
      Lint.bareQuotesAfter_append htextQuotes, Lint.bareQuotesAfter_cons, hbefore]
    rfl

end plain

theorem isUnterminated_line (h : statement ≠ .close) :
    Lint.isUnterminated statement.line.toList = false := by
  rw [Lint.isUnterminated, line]
  cases hopens : statement.opens with
  | true => simp
  | false => simp [h, Lint.endsIn]

theorem severity_of_mem_findings_line {kind : Lint.Kind}
    (h : kind ∈ Lint.findings statement.line.toList) : kind.severity = .warning := by
  have hrule := (List.mem_filter.mp h).2
  by_cases hclose : statement = .close
  · subst statement
    revert hrule
    cases kind <;> decide
  · have hend := isUnterminated_line hclose
    cases kind <;> simp_all [Lint.Kind.appliesTo, Lint.Kind.severity]

theorem not_infix_keyword (h : statement.texts = []) :
    ¬"description".toList <:+: statement.keyword.toList := by
  rw [← occurs_iff]
  cases statement with
  | setNamespace uri => cases h
  | setDescription text => cases h
  | openNode kind name => cases kind <;> simp only [keyword, NodeKind.keyword] <;> decide
  | _ => simp only [keyword]; decide

theorem not_mentions_description (hclose : statement ≠ .close) (htexts : statement.texts = [])
    (hwords : ∀ word ∈ statement.words, ¬"description".toList <:+: word.toList) :
    Lint.mentions "description" statement.line.toList = false := by
  rw [Lint.mentions, ← Bool.not_eq_true, occurs_iff, line_of_ne_close hclose]
  intro hin
  have htruth : ∀ value : Bool, ¬"description".toList <:+: (toString value).toList := by
    simp only [← occurs_iff]
    decide
  have hafter := (infix_append_cons (by decide) hin).resolve_left (not_infix_keyword htexts)
  rcases afterKeyword_cases hclose hwords htruth with ⟨word, hword, -, -, heq⟩ |
    ⟨word, hword, -, -, heq⟩ | ⟨text, htext, -, -⟩
  · rw [heq] at hafter
    have hbrace := (infix_append_cons (by decide) hafter).resolve_left hword
    exact absurd (occurs_iff.mpr hbrace) (by decide)
  · rw [heq] at hafter
    have hnil := (infix_append_cons (by decide) hafter).resolve_left hword
    exact absurd (occurs_iff.mpr hnil) (by decide)
  · rw [htexts] at htext
    cases htext

theorem not_mentions_semicolons (hclose : statement ≠ .close)
    (hwords : ∀ word ∈ statement.words, ';' ∉ word.toList)
    (htexts : ∀ text ∈ statement.texts, ¬";;".toList <:+: text.toList) :
    Lint.mentions ";;" statement.line.toList = false := by
  rw [Lint.mentions, ← Bool.not_eq_true, occurs_iff]
  intro hin
  -- Behind a word stands one semicolon at most; a quoted text is cut out at its quotes.
  have hcount := hin.sublist.count_le ';'
  rw [count_line (by decide) hclose] at hcount
  rcases afterKeyword_cases hclose hwords (by decide) with ⟨word, hword, -, -, heq⟩ |
    ⟨word, hword, -, -, heq⟩ | ⟨text, htext, -, heq⟩
  · simp [heq, List.count_eq_zero.mpr hword] at hcount
  · simp [heq, List.count_eq_zero.mpr hword] at hcount
  · have hmark : '"' ∉ ";;".toList := by decide
    have hspace : ' ' ∉ ";;".toList := by decide
    rw [line_of_ne_close hclose, heq] at hin
    rcases infix_append_cons hspace hin with hkeyword | hafter
    · exact not_mem_keyword hclose ';' (by decide) (hkeyword.subset (by decide))
    have hquoted := infix_of_cons hmark hafter
    have hend := (infix_append_cons hmark hquoted).resolve_left (htexts text htext)
    exact absurd (occurs_iff.mpr hend) (by decide)

/-- What stands in a statement gives no warning where the words hold no semicolon and the texts no
two in a row, and no word names the one keyword that needs a quote behind it. -/
theorem findings_line_eq_nil
    (hwords : ∀ word ∈ statement.words,
      ';' ∉ word.toList ∧ ¬"description".toList <:+: word.toList)
    (htexts : ∀ text ∈ statement.texts, ¬";;".toList <:+: text.toList) :
    Lint.findings statement.line.toList = [] := by
  by_cases hclose : statement = .close
  · subst statement
    decide
  have hend := isUnterminated_line hclose
  have hsemicolons :=
    not_mentions_semicolons hclose (fun word hword => (hwords word hword).1) htexts
  refine List.filter_eq_nil_iff.mpr fun kind _ => ?_
  cases kind with
  | descriptionMissingQuotes =>
    by_cases hnone : statement.texts = []
    · have hsilent := not_mentions_description hclose hnone fun word hword => (hwords word hword).2
      simp [Lint.Kind.appliesTo, hsilent]
    · have hquote : '"' ∈ statement.line.toList := by
        rcases afterKeyword_cases (P := fun _ => True) hclose (fun _ _ => trivial)
            (fun _ => trivial) with ⟨-, -, htexts, -, -⟩ | ⟨-, -, htexts, -, -⟩ |
          ⟨text, -, -, heq⟩
        · exact absurd htexts hnone
        · exact absurd htexts hnone
        · rw [line_of_ne_close hclose, heq]
          simp
      simp [Lint.Kind.appliesTo, hquote]
  | _ => simp [Lint.Kind.appliesTo, hend, hsemicolons]

end Statement

end YangCheck
