import YangCheck.Proofs.Lint.Findings
import YangCheck.Proofs.Outline.Depth
import YangCheck.Proofs.Statement.RoundTrip

namespace YangCheck

open Text Lint Outline

/-- The lines that hold a brace, without the blanks around them; comments are left out. -/
def bracedLines (lines : List String) : List (List Char) :=
  (lines.filterMap Statement.significant?).filter fun line =>
    line.contains '{' || line.contains '}'

/-- The closing brace alone, or the one brace of a header. -/
def IsBracedLine (line : List Char) : Prop :=
  line = ['}'] ∨ line.count '{' = 1 ∧ line.count '}' = 0 ∧
    (Statement.ofChars? line).any Statement.opens = true

instance (line : List Char) : Decidable (IsBracedLine line) :=
  inferInstanceAs (Decidable (_ ∨ _))

/-- The two passes behind the same lines. -/
structure InStep (b : Builder) (checker : Checker) : Prop where
  depth : (b.depth : Int) = checker.balance
  moduleOpen : b.module?.isSome = checker.moduleSeen

/-- Whether a line with a brace stands where it may: a header of the module in front of all others
and nowhere else. -/
structure Fits (moduleOpen : Bool) (line : List Char) : Prop where
  braced : IsBracedLine line
  header : Statement.opensModule line = !moduleOpen

section step

variable {b : Builder} {checker : Checker} {raw : String} {line : List Char}

theorem balance_feed_of_significant (hline : Statement.significant? raw = some line) :
    (checker.feed raw).balance = checker.balance + line.count '{' - line.count '}' := by
  simp only [Checker.feed, hline, braceBalance_eq]
  omega

theorem inStep_feed_of_depth (hsim : InStep b checker)
    (hdepth : ((b.feed raw).depth : Int) = (checker.feed raw).balance) :
    InStep (b.feed raw) (checker.feed raw) where
  depth := hdepth
  moduleOpen := by
    rw [Builder.isSome_module?_feed, Checker.moduleSeen_feed, hsim.moduleOpen]

theorem depth_feed_of_plain (hline : Statement.significant? raw = some line)
    (hopen : '{' ∉ line) (hclose : '}' ∉ line) : (b.feed raw).depth = b.depth := by
  rw [Builder.feed, Builder.read?, hline, Option.bind_some]
  cases hread : b.position.read? line with
  | none => rfl
  | some statement =>
    have hreads := Statement.reads_of_ofChars? (Option.filter_eq_some_iff.mp hread).1
    have hopens : statement.opens = false := by
      by_contra hopens
      exact hopen (Statement.mem_of_opens hreads (Bool.not_eq_false _ ▸ hopens))
    have hcloses : statement ≠ .close := by
      rintro rfl
      obtain rfl : line = ['}'] := hreads
      exact hclose List.mem_cons_self
    simp only [Builder.depth_apply, hopens, hcloses, Bool.false_eq_true, if_false]
    rfl

theorem depth_feed_of_fits (hline : Statement.significant? raw = some line)
    (hfits : Fits b.module?.isSome line) :
    (b.feed raw).depth =
      if line = ['}'] then b.depth - 1 else b.depth + 1 := by
  obtain ⟨statement, hread, hadmits, hsaid⟩ : ∃ statement,
      Statement.ofChars? line = some statement ∧ b.position.admits statement = true ∧
        (line = ['}'] ∧ statement = .close ∨ line ≠ ['}'] ∧ statement.opens = true) := by
    rcases hfits.braced with rfl | ⟨-, hnone, hheader⟩
    · have hopen : b.module?.isSome = true := by
        have hnot : Statement.opensModule ['}'] = false := rfl
        simpa [hnot] using hfits.header
      exact ⟨.close, rfl, Position.admits_of_moduleOpen hopen rfl, .inl ⟨rfl, rfl⟩⟩
    · obtain ⟨statement, hread, hopens⟩ := (Option.any_eq_true _ _).mp hheader
      refine ⟨statement, hread, ?_, .inr ⟨?_, hopens⟩⟩
      · have hmodule := (Statement.isModule_of_ofChars? hread).trans hfits.header
        cases hm : b.module?.isSome with
        | false =>
          rw [Position.admits_of_not_moduleOpen hm, hmodule, hm]
          rfl
        | true =>
          rw [hm] at hmodule
          rw [Position.admits_of_moduleOpen hm hmodule, Statement.editsNode_of_opens hopens]
          rfl
      · rintro rfl
        cases hnone
  have hfed : b.read? raw = some statement := by
    rw [Builder.read?, hline]
    exact Option.filter_eq_some_iff.mpr ⟨hread, hadmits⟩
  rw [Builder.feed, hfed]
  rcases hsaid with ⟨hclose, rfl⟩ | ⟨hne, hopens⟩
  · rw [if_pos hclose]
    exact Builder.depth_apply _ _
  · rw [if_neg hne]
    simp only [Builder.depth_apply, hopens, if_true]
    rfl

/-- One line keeps the passes in step as long as no more braces are closed than were opened. -/
theorem inStep_feed (hsim : InStep b checker)
    (hfits : ∀ line ∈ bracedLines [raw], Fits checker.moduleSeen line)
    (hpos : 0 ≤ (checker.feed raw).balance) : InStep (b.feed raw) (checker.feed raw) := by
  apply inStep_feed_of_depth hsim
  cases hline : Statement.significant? raw with
  | none =>
    rw [Builder.feed, Builder.read?, Checker.feed, hline]
    exact hsim.depth
  | some line =>
    have hbalance : (checker.feed raw).balance = _ := balance_feed_of_significant hline
    by_cases hbrace : '{' ∈ line ∨ '}' ∈ line
    · have hline' : line ∈ bracedLines [raw] := by
        simp [bracedLines, hline, hbrace]
      have hfit := hfits line hline'
      have hdepth := depth_feed_of_fits hline (hsim.moduleOpen ▸ hfit)
      have hsame := hsim.depth
      rcases hfit.braced with rfl | ⟨hopen, hclose, -⟩
      · rw [if_pos rfl] at hdepth
        have hcounts : (['}'] : List Char).count '{' = 0 ∧ (['}'] : List Char).count '}' = 1 :=
          ⟨rfl, rfl⟩
        omega
      · have hne : line ≠ ['}'] := by
          rintro rfl
          cases hclose
        rw [if_neg hne] at hdepth
        omega
    · obtain ⟨hopen, hclose⟩ := not_or.mp hbrace
      rw [hbalance, List.count_eq_zero.mpr hopen, List.count_eq_zero.mpr hclose,
        depth_feed_of_plain hline hopen hclose, hsim.depth]
      simp

theorem opensModule_of_plain (hopen : '{' ∉ line) : Statement.opensModule line = false := by
  rw [Statement.opensModule, Option.isSome_eq_false_iff, Option.isNone_iff_eq_none]
  cases hm : Statement.module? line with
  | none => rfl
  | some name =>
    have hreads : Statement.Reads line (.openModule name) := hm
    exact absurd (Statement.mem_of_opens hreads rfl) hopen

end step

theorem bracedLines_cons (raw : String) (rest : List String) :
    bracedLines (raw :: rest) = bracedLines [raw] ++ bracedLines rest := by
  simp only [bracedLines, ← List.filter_append, ← List.filterMap_append, List.singleton_append]

theorem bracedLines_singleton (raw : String) :
    (bracedLines [raw] = [] ∧ (Statement.significant? raw).any Statement.opensModule = false) ∨
      ∃ line, Statement.significant? raw = some line ∧ bracedLines [raw] = [line] := by
  cases hline : Statement.significant? raw with
  | none => exact .inl ⟨by simp [bracedLines, hline], rfl⟩
  | some line =>
    by_cases hbrace : '{' ∈ line ∨ '}' ∈ line
    · exact .inr ⟨line, rfl, by simp [bracedLines, hline, hbrace]⟩
    · refine .inl ⟨by simpa [bracedLines, hline] using hbrace, ?_⟩
      exact opensModule_of_plain (not_or.mp hbrace).1

/-- Lines on which every brace belongs to a header or closes one, the first of them opening the
module if none is open. -/
structure FitsAll (moduleOpen : Bool) (lines : List String) : Prop where
  braced : ∀ line ∈ bracedLines lines, IsBracedLine line
  first : ∀ line ∈ (bracedLines lines).head?, Statement.opensModule line = !moduleOpen
  later : ∀ line ∈ (bracedLines lines).tail, Statement.opensModule line = false

theorem FitsAll.head {moduleOpen : Bool} {raw : String} {rest : List String}
    (h : FitsAll moduleOpen (raw :: rest)) : ∀ line ∈ bracedLines [raw], Fits moduleOpen line := by
  obtain ⟨hbraced, hfirst, -⟩ := h
  rw [bracedLines_cons] at hbraced hfirst
  rcases bracedLines_singleton raw with ⟨hnone, -⟩ | ⟨line, -, hone⟩
  · simp [hnone]
  · rw [hone] at hbraced hfirst ⊢
    intro other hother
    obtain rfl := List.mem_singleton.mp hother
    exact ⟨hbraced other List.mem_cons_self, hfirst other rfl⟩

theorem FitsAll.rest {moduleOpen : Bool} {raw : String} {rest : List String}
    (h : FitsAll moduleOpen (raw :: rest)) :
    FitsAll (moduleOpen || (Statement.significant? raw).any Statement.opensModule) rest := by
  obtain ⟨hbraced, hfirst, hlater⟩ := h
  rw [bracedLines_cons] at hbraced hfirst hlater
  rcases bracedLines_singleton raw with ⟨hnone, hplain⟩ | ⟨line, hline, hone⟩
  · rw [hnone, List.nil_append] at hbraced hfirst hlater
    rw [hplain, Bool.or_false]
    exact ⟨hbraced, hfirst, hlater⟩
  · rw [hone] at hbraced hfirst hlater
    have hopen : (moduleOpen || (Statement.significant? raw).any Statement.opensModule) = true := by
      rw [hline, Option.any_some, hfirst line rfl]
      cases moduleOpen <;> rfl
    rw [hopen]
    exact ⟨fun other hother => hbraced other (List.mem_cons_of_mem line hother),
      fun other hother => hlater other (List.mem_of_mem_head? hother),
      fun other hother => hlater other (List.mem_of_mem_tail hother)⟩

theorem inStep_feedAll {b : Builder} {checker : Checker} {lines : List String}
    (hsim : InStep b checker) (hfits : FitsAll checker.moduleSeen lines)
    (hpos : ∀ count, 0 ≤ (checker.feedAll (lines.take count)).balance) (count : Nat) :
    InStep (b.feedAll (lines.take count)) (checker.feedAll (lines.take count)) := by
  induction lines generalizing b checker count with
  | nil =>
    rw [List.take_nil]
    exact hsim
  | cons raw rest ih =>
    cases count with
    | zero => exact hsim
    | succ count =>
      have hstep : InStep (b.feed raw) (checker.feed raw) := inStep_feed hsim hfits.head (hpos 1)
      have hrest := hfits.rest
      rw [← Checker.moduleSeen_feed] at hrest
      exact ih hstep hrest (fun count => hpos (count + 1)) count

theorem exists_unbalancedBraces_iff (lines : List String) (message : String) :
    (∃ d ∈ (checkLines lines).errors, d.kind = .unbalancedBraces ∧ d.message = message) ↔
      braceSurplus lines ≠ 0 ∧ message = Checker.balanceMessage (braceSurplus lines) := by
  constructor
  · rintro ⟨d, hd, hkind, rfl⟩
    rw [← Array.mem_toList_iff, errors_checkLines, List.mem_append] at hd
    rcases hd with hd | hd
    · obtain ⟨hit, hhit, rfl⟩ := List.mem_map.mp hd
      obtain ⟨_, _, -, -, -, hrule⟩ := mem_hits.mp (List.mem_filter.mp hhit).1
      have hnever : hit.kind = .unbalancedBraces := hkind
      rw [hnever] at hrule
      cases hrule
    · simp only [Checker.finalFindings_feedAll, List.mem_append, List.mem_ite_nil_left,
        List.mem_ite_nil_right, List.mem_singleton] at hd
      rcases hd with (⟨-, rfl⟩ | ⟨hne, rfl⟩) | ⟨-, rfl⟩
      · cases hkind
      · exact ⟨hne, rfl⟩
      · cases hkind
  · rintro ⟨hne, rfl⟩
    refine ⟨.ofFile .unbalancedBraces (Checker.balanceMessage (braceSurplus lines)), ?_, rfl, rfl⟩
    rw [← Array.mem_toList_iff, errors_checkLines, Checker.finalFindings_feedAll]
    simp [hne]

theorem balanceMessage_natCast {depth : Nat} (h : depth ≠ 0) :
    Checker.balanceMessage depth =
      s!"Unbalanced braces in YANG file - {depth} more opening brace(s)" := by
  have hpos : (0 : Int) < depth := by omega
  have hfront : "Unbalanced braces in YANG file - " = Kind.unbalancedBraces.message ++ " - " := by
    decide
  have hback : " more opening brace(s)" = " more " ++ ("opening" ++ " brace(s)") := by decide
  rw [Checker.balanceMessage, if_pos hpos, Int.natAbs_natCast, hfront, hback]
  simp only [toString, String.append_assoc]

theorem balanceMessage_inj {m n : Nat}
    (h : s!"Unbalanced braces in YANG file - {m} more opening brace(s)" =
      s!"Unbalanced braces in YANG file - {n} more opening brace(s)") : m = n := by
  have hchars := congrArg String.toList h
  have hdigits : Nat.toDigits 10 m = Nat.toDigits 10 n := by simpa using hchars
  rw [← Nat.ofDigitChars_ten_toDigits (n := m), hdigits, Nat.ofDigitChars_ten_toDigits]

/-- Where every brace belongs to a header or closes one, the first of them opening the module and no
later one opening another, and where no more are closed than were opened, the depth of the builder
is the balance of the checker behind every line. So the checker finds at the end that braces are
missing exactly when the builder has scopes left open, and says how many. -/
theorem depth_eq_balance {lines : List String}
    (hbraced : ∀ line ∈ bracedLines lines, IsBracedLine line)
    (hfirst : ∀ line ∈ (bracedLines lines).head?, Statement.opensModule line = true)
    (hlater : ∀ line ∈ (bracedLines lines).tail, Statement.opensModule line = false)
    (hpos : ∀ count, 0 ≤ braceSurplus (lines.take count)) :
    (∀ count, ((Builder.feedAll {} (lines.take count)).depth : Int) =
      (Checker.feedAll {} (lines.take count)).balance) ∧
    ((∃ d ∈ (checkLines lines).errors, d.kind = .unbalancedBraces) ↔
      0 < (Builder.feedAll {} lines).depth) ∧
    ∀ depth, 0 < depth →
      ((∃ d ∈ (checkLines lines).errors, d.kind = .unbalancedBraces ∧
        d.message = s!"Unbalanced braces in YANG file - {depth} more opening brace(s)") ↔
      (Builder.feedAll {} lines).depth = depth) := by
  have hbalance : ∀ count, (Checker.feedAll {} (lines.take count)).balance =
      braceSurplus (lines.take count) := fun count =>
    (Checker.balance_feedAll {} _).trans (Int.zero_add _)
  have hfits : FitsAll false lines := ⟨hbraced, hfirst, hlater⟩
  have hrun : ∀ count, ((Builder.feedAll {} (lines.take count)).depth : Int) =
      (Checker.feedAll {} (lines.take count)).balance := fun count =>
    (inStep_feedAll ⟨rfl, rfl⟩ hfits (fun count => hbalance count ▸ hpos count) count).depth
  have hsurplus : braceSurplus lines = (Builder.feedAll {} lines).depth := by
    have hall := hrun lines.length
    rw [hbalance, List.take_length] at hall
    exact hall.symm
  have hfound := exists_unbalancedBraces_iff lines
  rw [hsurplus] at hfound
  refine ⟨hrun, ?_, ?_⟩
  · constructor
    · rintro ⟨d, hd, hkind⟩
      obtain ⟨hne, -⟩ := (hfound d.message).mp ⟨d, hd, hkind, rfl⟩
      omega
    · intro hdepth
      obtain ⟨d, hd, hkind, -⟩ := (hfound _).mpr ⟨by omega, rfl⟩
      exact ⟨d, hd, hkind⟩
  · intro depth hdepth
    rw [hfound]
    constructor
    · rintro ⟨hne, hmessage⟩
      rw [balanceMessage_natCast (by omega)] at hmessage
      exact (balanceMessage_inj hmessage).symm
    · rintro rfl
      exact ⟨by omega, (balanceMessage_natCast (by omega)).symm⟩

/-- A file that ends inside two nodes of its module, with an import that was closed. -/
def unfinishedLines : List String :=
  ["// \x7b", "namespace", "module m \x7b", "  import i\x7b", "  \x7d", "list l \x7b", "type",
    "leaf x \x7b // text"]

theorem depth_eq_balance_unfinishedLines :
    (∀ line ∈ bracedLines unfinishedLines, IsBracedLine line) ∧
    (∀ line ∈ (bracedLines unfinishedLines).head?, Statement.opensModule line = true) ∧
    (∀ line ∈ (bracedLines unfinishedLines).tail, Statement.opensModule line = false) ∧
    (∀ count, 0 ≤ braceSurplus (unfinishedLines.take count)) ∧
    (∀ count, ((Builder.feedAll {} (unfinishedLines.take count)).depth : Int) =
      (Checker.feedAll {} (unfinishedLines.take count)).balance) ∧
    ∃ d ∈ (checkLines unfinishedLines).errors, d.kind = .unbalancedBraces ∧
      d.message = "Unbalanced braces in YANG file - 3 more opening brace(s)" := by
  have hbraced : ∀ line ∈ bracedLines unfinishedLines, IsBracedLine line := by decide
  have hfirst : ∀ line ∈ (bracedLines unfinishedLines).head?,
      Statement.opensModule line = true := by decide
  have hlater : ∀ line ∈ (bracedLines unfinishedLines).tail,
      Statement.opensModule line = false := by decide
  have hpos : ∀ count, 0 ≤ braceSurplus (unfinishedLines.take count) := by
    intro count
    have hfront : ∀ count ∈ List.range 8, 0 ≤ braceSurplus (unfinishedLines.take count) := by
      decide
    rcases Nat.lt_or_ge count 8 with hlt | hge
    · exact hfront count (List.mem_range.mpr hlt)
    · rw [List.take_of_length_le hge]
      decide
  obtain ⟨hsame, -, hmessage⟩ := depth_eq_balance hbraced hfirst hlater hpos
  exact ⟨hbraced, hfirst, hlater, hpos, hsame, (hmessage 3 (by decide)).mpr (by decide)⟩

end YangCheck
