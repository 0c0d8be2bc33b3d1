import YangCheck.Proofs.Statement.Form

namespace YangCheck.Statement

open Text

/-- The first word of a line is a keyword, and `rest` stands behind it and the blanks after it. -/
def Follows (keyword line rest : List Char) : Prop :=
  ∃ indent gap, (∀ c ∈ indent, isBlank c = true) ∧ gap ≠ [] ∧ (∀ c ∈ gap, isBlank c = true) ∧
    (∀ c, rest.head? = some c → isBlank c = false) ∧ line = indent ++ keyword ++ gap ++ rest

/-- The first character that is not blank is the mark. -/
def Meets (stop : Char) (s : List Char) : Prop :=
  ∃ blanks behind, (∀ c ∈ blanks, isBlank c = true) ∧ s = blanks ++ stop :: behind

/-- What is captured of the first word: all of it where the mark comes next, or else the longest
part, not empty, that has the mark right behind it in the word. -/
def IsWordBefore (stop : Char) (s captured : List Char) : Prop :=
  ∃ word behind, word ≠ [] ∧ (∀ c ∈ word, isBlank c = false) ∧
    (∀ c, behind.head? = some c → isBlank c = true) ∧ s = word ++ behind ∧
    (Meets stop behind ∧ captured = word ∨
      ¬Meets stop behind ∧ captured ≠ [] ∧ captured ++ [stop] <+: word ∧
        ∀ other, other ++ [stop] <+: word → other.length ≤ captured.length)

def Form.Argument.Captures (s captured : List Char) : Form.Argument → Prop
  | .word stop => IsWordBefore stop s captured
  | .quotedText =>
    captured ≠ [] ∧ '"' ∉ captured ∧
      ∃ behind, s = '"' :: captured ++ '"' :: behind ∧ Meets ';' behind
  | .truth =>
    (captured = "true".toList ∨ captured = "false".toList) ∧
      ∃ behind, s = captured ++ behind ∧ Meets ';' behind

/-- A line has a form, and this is the part of it that is captured. -/
def Form.Fits (form : Form) (line captured : List Char) : Prop :=
  match form.argument? with
  | some argument =>
    ∃ rest, Follows form.keyword.toList line rest ∧ argument.Captures rest captured
  | none => line = form.keyword.toList ∧ captured = []

variable {keyword : String} {stop : Char} {line s captured : List Char}

theorem argument?_eq_some_iff (hk : isWord keyword = true) {rest : List Char} :
    argument? keyword line = some rest ↔ Follows keyword.toList line rest := by
  constructor
  · intro h
    simp only [argument?] at h
    split at h
    case isFalse => cases h
    case isTrue hbegins =>
      obtain ⟨behind, hbehind⟩ := List.isPrefixOf_iff_prefix.mp hbegins
      rw [← hbehind, List.drop_left] at h
      cases behind with
      | nil => cases h
      | cons c behind =>
        cases hc : isBlank c with
        | false => simp [hc] at h
        | true =>
          obtain rfl : skipBlanks behind = rest := by simpa [hc] using h
          refine ⟨line.takeWhile isBlank, c :: behind.takeWhile isBlank,
            fun _ => List.mem_takeWhile_imp, by simp, ?_, ?_, ?_⟩
          · exact List.forall_mem_cons.mpr ⟨hc, fun _ => List.mem_takeWhile_imp⟩
          · intro d hd
            have hnot := List.head?_dropWhile_not isBlank behind
            rw [skipBlanks] at hd
            simpa [hd] using hnot
          · have hline : line.takeWhile isBlank ++ skipBlanks line = line :=
              List.takeWhile_append_dropWhile
            have hgap : behind.takeWhile isBlank ++ skipBlanks behind = behind :=
              List.takeWhile_append_dropWhile
            rw [← hbehind] at hline
            simp [hgap, hline]
  · rintro ⟨indent, gap, hindent, hne, hgap, hrest, rfl⟩
    obtain ⟨c, gap, rfl⟩ := List.exists_cons_of_ne_nil hne
    obtain ⟨hc, hgap⟩ := List.forall_mem_cons.mp hgap
    have hskip : skipBlanks (indent ++ keyword.toList ++ c :: gap ++ rest) =
        keyword.toList ++ c :: (gap ++ rest) := by
      rw [List.append_assoc, List.append_assoc, skipBlanks_append hindent]
      exact skipBlanks_append_word (toList_ne_nil_of_isWord hk) (fun _ => isBlank_of_isWord hk) _
    simp only [argument?, hskip, List.drop_left, hc, if_true, skipBlanks_append hgap,
      skipBlanks_of_head hrest]
    exact if_pos (List.isPrefixOf_iff_prefix.mpr (List.prefix_append _ _))

theorem head?_skipBlanks_iff (hstop : isBlank stop = false) :
    (skipBlanks s).head? = some stop ↔ Meets stop s := by
  constructor
  · intro h
    obtain ⟨behind, hbehind⟩ := List.head?_eq_some_iff.mp h
    refine ⟨s.takeWhile isBlank, behind, fun _ => List.mem_takeWhile_imp, ?_⟩
    rw [← hbehind]
    exact List.takeWhile_append_dropWhile.symm
  · rintro ⟨blanks, behind, hblanks, rfl⟩
    rw [skipBlanks_append hblanks, skipBlanks_of_head]
    · rfl
    · rintro c hc
      obtain rfl := Option.some.inj hc
      exact hstop

theorem word?_eq_some_iff (hstop : isBlank stop = false) :
    (word? stop s).map String.toList = some captured ↔ IsWordBefore stop s captured := by
  constructor
  · intro h
    have hsplit : s = firstWord s ++ afterWord s := List.takeWhile_append_dropWhile.symm
    have hbehind : ∀ c, (afterWord s).head? = some c → isBlank c = true := by
      intro c hc
      have hnot := List.head?_dropWhile_not (fun c => !isBlank c) s
      rw [afterWord] at hc
      simpa [hc] using hnot
    simp only [word?] at h
    split at h
    case isTrue => cases h
    case isFalse hempty =>
      refine ⟨firstWord s, afterWord s, by simpa using hempty,
        fun _ => isBlank_of_mem_firstWord, hbehind, hsplit, ?_⟩
      split at h
      case isTrue hmeets =>
        obtain rfl : firstWord s = captured := by simpa using h
        exact .inl ⟨(head?_skipBlanks_iff hstop).mp hmeets, rfl⟩
      case isFalse hmeets =>
        refine .inr ⟨fun hm => hmeets ((head?_skipBlanks_iff hstop).mpr hm), ?_⟩
        split at h
        · cases h
        · cases h
        · rename_i front hne hlast
          obtain rfl : front = captured := by simpa using h
          exact ⟨hne, beforeLast?_eq_some_iff.mp hlast⟩
  · rintro ⟨word, behind, hne, hword, hbehind, rfl, hcases⟩
    have hempty : word.isEmpty = false := by simpa using hne
    simp only [word?]
    rw [firstWord_append hword hbehind, afterWord_append hword hbehind, hempty,
      if_neg Bool.false_ne_true]
    rcases hcases with ⟨hmeets, rfl⟩ | ⟨hmeets, hfound, hlast⟩
    · rw [if_pos ((head?_skipBlanks_iff hstop).mpr hmeets)]
      simp
    · obtain ⟨c, front, rfl⟩ := List.exists_cons_of_ne_nil hfound
      rw [if_neg fun hm => hmeets ((head?_skipBlanks_iff hstop).mp hm),
        beforeLast?_eq_some_iff.mpr hlast]
      simp

theorem quotedText?_eq_some_iff :
    (quotedText? s).map String.toList = some captured ↔
      Form.Argument.Captures s captured .quotedText := by
  have hstop : isBlank ';' = false := by decide
  constructor
  · intro h
    unfold quotedText? at h
    split at h
    case h_2 => cases h
    case h_1 rest =>
      dsimp only at h
      split at h
      case h_2 => cases h
      case h_1 behind hbehind =>
        split at h
        case isTrue => cases h
        case isFalse hempty =>
          split at h
          case isFalse => cases h
          case isTrue hmeets =>
            obtain rfl : rest.takeWhile (· != '"') = captured := by simpa using h
            refine ⟨by simpa using hempty, fun hquote => ?_, behind, ?_,
              (head?_skipBlanks_iff hstop).mp hmeets⟩
            · exact absurd (List.mem_takeWhile_imp hquote) (by decide)
            · rw [← hbehind, List.cons_append, List.takeWhile_append_dropWhile]
  · rintro ⟨hne, hquote, behind, rfl, hmeets⟩
    have hinside : ∀ c ∈ captured, (c != '"') = true := fun c hc =>
      bne_iff_ne.mpr fun heq => hquote (heq ▸ hc)
    have hempty : captured.isEmpty = false := by simpa using hne
    rw [List.cons_append, quotedText?, List.takeWhile_append_of_pos hinside,
      List.dropWhile_append_of_pos hinside]
    simp [hempty, (head?_skipBlanks_iff hstop).mpr hmeets]

theorem truth?_eq_some_iff :
    (truth? s).map (fun value => (toString value).toList) = some captured ↔
      Form.Argument.Captures s captured .truth := by
  have hstop : isBlank ';' = false := by decide
  constructor
  · intro h
    obtain ⟨value, hvalue, rfl⟩ := Option.map_eq_some_iff.mp h
    unfold truth? at hvalue
    split at hvalue
    case h_1 rest =>
      split at hvalue
      case isFalse => cases hvalue
      case isTrue hmeets =>
        obtain rfl := Option.some.inj hvalue
        exact ⟨.inl rfl, rest, rfl, (head?_skipBlanks_iff hstop).mp hmeets⟩
    case h_2 rest =>
      split at hvalue
      case isFalse => cases hvalue
      case isTrue hmeets =>
        obtain rfl := Option.some.inj hvalue
        exact ⟨.inr rfl, rest, rfl, (head?_skipBlanks_iff hstop).mp hmeets⟩
    case h_3 => cases hvalue
  · rintro ⟨rfl | rfl, behind, rfl, hmeets⟩
    · have hread : truth? ("true".toList ++ behind) = some true :=
        if_pos ((head?_skipBlanks_iff hstop).mpr hmeets)
      rw [hread]
      rfl
    · have hread : truth? ("false".toList ++ behind) = some false :=
        if_pos ((head?_skipBlanks_iff hstop).mpr hmeets)
      rw [hread]
      rfl

namespace Form

theorem isWord_keyword (form : Form) : isWord form.keyword = true :=
  Statement.isWord_keyword _

theorem isBlank_stop {form : Form} (h : form.argument? = some (.word stop)) :
    isBlank stop = false := by
  cases form <;> cases h <;> decide

theorem capture?_eq (form : Form) (line : List Char) :
    form.capture? line =
      match form.argument? with
      | some (.word stop) =>
        ((Statement.argument? form.keyword line).bind (word? stop)).map String.toList
      | some .quotedText =>
        ((Statement.argument? form.keyword line).bind quotedText?).map String.toList
      | some .truth =>
        ((Statement.argument? form.keyword line).bind truth?).map fun value =>
          (toString value).toList
      | none => if line = form.keyword.toList then some [] else none := by
  have hk := isWord_keyword form
  rw [capture?]
  cases hargument : form.argument? with
  | none => rfl
  | some argument =>
    cases argument with
    | word stop => exact read?_word hk (isBlank_stop hargument) line
    | quotedText => exact read?_quotedText hk line
    | truth => exact read?_truth hk line

/-- The patterns, which give characters back where need be, capture what the grammar says. -/
theorem capture?_eq_some_iff {form : Form} :
    form.capture? line = some captured ↔ form.Fits line captured := by
  have hk := isWord_keyword form
  rw [capture?_eq, Fits]
  cases hargument : form.argument? with
  | none => simp [eq_comm]
  | some argument =>
    cases argument with
    | word stop =>
      have hstop := isBlank_stop hargument
      simp only [Option.map_bind, Option.bind_eq_some_iff, argument?_eq_some_iff hk,
        Function.comp_apply, word?_eq_some_iff hstop, Argument.Captures]
    | quotedText =>
      simp only [Option.map_bind, Option.bind_eq_some_iff, argument?_eq_some_iff hk,
        Function.comp_apply, quotedText?_eq_some_iff]
    | truth =>
      simp only [Option.map_bind, Option.bind_eq_some_iff, argument?_eq_some_iff hk,
        Function.comp_apply, truth?_eq_some_iff]

theorem mem_all (form : Form) : form ∈ all := by
  cases form with
  | openNode kind => cases kind <;> decide
  | _ => decide

end Form

def form : Statement → Form
  | .openModule _ => .openModule
  | .setNamespace _ => .setNamespace
  | .setPrefix _ => .setPrefix
  | .openImport _ => .openImport
  | .openNode kind _ => .openNode kind
  | .setType _ => .setType
  | .setMandatory _ => .setMandatory
  | .setDescription _ => .setDescription
  | .close => .close

theorem form_statement (form : Form) (captured : List Char) :
    (form.statement captured).form = form := by
  cases form <;> rfl

theorem reads_of_capture? {form : Form} (h : form.capture? line = some captured) :
    Reads line (form.statement captured) := by
  rw [Form.capture?_eq] at h
  cases form with
  | setMandatory =>
    obtain ⟨value, hvalue, rfl⟩ := Option.map_eq_some_iff.mp h
    cases value <;> exact hvalue
  | close =>
    obtain ⟨hline, -⟩ := Option.ite_none_right_eq_some.mp h
    exact hline
  | _ =>
    obtain ⟨name, hname, rfl⟩ := Option.map_eq_some_iff.mp h
    rw [Form.statement, String.ofList_toList]
    exact hname

theorem exists_capture?_of_reads {statement : Statement} (h : Reads line statement) :
    ∃ captured, statement.form.capture? line = some captured ∧
      statement.form.statement captured = statement := by
  simp only [Form.capture?_eq]
  cases statement with
  | setMandatory value =>
    refine ⟨_, Option.map_eq_some_iff.mpr ⟨value, h, rfl⟩, ?_⟩
    cases value <;> rfl
  | close => exact ⟨[], if_pos h, rfl⟩
  | _ =>
    refine ⟨_, Option.map_eq_some_iff.mpr ⟨_, h, rfl⟩, ?_⟩
    rw [form, Form.statement, String.ofList_toList]

theorem form_unique {a b : Form} {forA forB : List Char} (ha : a.capture? line = some forA)
    (hb : b.capture? line = some forB) : a = b := by
  have hsame : a.statement forA = b.statement forB := by
    have hreadA := ofChars?_eq_some_iff.mpr (reads_of_capture? ha)
    have hreadB := ofChars?_eq_some_iff.mpr (reads_of_capture? hb)
    exact Option.some.inj (hreadA.symm.trans hreadB)
  rw [← form_statement a forA, hsame, form_statement]

theorem ofChars?_eq_findSome? {forms : List Form} (hforms : ∀ form, form ∈ forms)
    (line : List Char) :
    ofChars? line = forms.findSome? fun form => (form.capture? line).map form.statement := by
  cases hfound : forms.findSome? fun form => (form.capture? line).map form.statement with
  | some statement =>
    obtain ⟨form, -, hform⟩ := List.exists_of_findSome?_eq_some hfound
    obtain ⟨captured, hcaptured, rfl⟩ := Option.map_eq_some_iff.mp hform
    exact ofChars?_eq_some_iff.mpr (reads_of_capture? hcaptured)
  | none =>
    cases hread : ofChars? line with
    | none => rfl
    | some statement =>
      obtain ⟨captured, hcaptured, -⟩ := exists_capture?_of_reads (reads_of_ofChars? hread)
      have hnone := List.findSome?_eq_none_iff.mp hfound _ (hforms statement.form)
      rw [hcaptured] at hnone
      cases hnone

/-- A line has at most one of the forms, so that the order in which their patterns are tried makes
no difference. A form other than the lone brace fits where its keyword is the first word, blanks
follow, and its argument stands behind them; what it captures is fixed by the text alone, however
often a pattern gives characters back before it matches. -/
theorem forms_exclude_each_other (line : List Char) :
    (∀ a b : Form, (a.capture? line).isSome = true → (b.capture? line).isSome = true → a = b) ∧
    (∀ forms : List Form, (∀ form, form ∈ forms) →
      ofChars? line = forms.findSome? fun form => (form.capture? line).map form.statement) ∧
    (∀ (form : Form) (captured : List Char),
      form.capture? line = some captured ↔ form.Fits line captured) := by
  refine ⟨fun a b ha hb => ?_, fun forms hforms => ofChars?_eq_findSome? hforms line,
    fun form captured => Form.capture?_eq_some_iff⟩
  obtain ⟨forA, hforA⟩ := Option.isSome_iff_exists.mp ha
  obtain ⟨forB, hforB⟩ := Option.isSome_iff_exists.mp hb
  exact form_unique hforA hforB

theorem forms_exclude_each_other_manyBraces :
    let glued := "  leaf a\x7b\x7b\x7d;".toList
    let apart := "leaf-list \x7ba\x7b \x7b".toList
    (∀ form : Form, (form.capture? glued).isSome = true → form = .openNode .leaf) ∧
    ofChars? glued = some (.openNode .leaf "a\x7b") ∧
    (Form.openNode .leaf).Fits glued "a\x7b".toList ∧
    ofChars? apart = some (.openNode .leafList "\x7ba\x7b") ∧
    (Form.openNode .leafList).Fits apart "\x7ba\x7b".toList := by
  intro glued apart
  obtain ⟨hunique, hglued, hgrammar⟩ := forms_exclude_each_other glued
  obtain ⟨-, hapart, hgrammar'⟩ := forms_exclude_each_other apart
  have hcapture : (Form.openNode .leaf).capture? glued = some "a\x7b".toList := by decide
  have hcapture' : (Form.openNode .leafList).capture? apart = some "\x7ba\x7b".toList := by decide
  refine ⟨fun form hform => hunique form _ hform (by rw [hcapture]; rfl), ?_,
    (hgrammar _ _).mp hcapture, ?_, (hgrammar' _ _).mp hcapture'⟩
  · rw [hglued Form.all Form.mem_all]
    decide
  · rw [hapart Form.all Form.mem_all]
    decide

end YangCheck.Statement
