import Mathlib.Data.List.Chain
import YangCheck.Lint.Checker
import YangCheck.Outline.Builder
import YangCheck.Proofs.Text.Lines

namespace YangCheck.Text

instance (s : List Char) : Decidable (IsLine s) :=
  List.decidableBAll (fun c => c ≠ '\n' ∧ c ≠ '\r') s

/-- Lines that are each closed by a mark, and a last one that no mark closes, where it is not
empty. -/
@[ext]
structure MarkedText where
  closed : List (List Char × LineEnd)
  tail : List Char := []
  isLine_closed : ∀ entry ∈ closed, IsLine entry.1
  isLine_tail : IsLine tail
  /-- A carriage return in front of a lone line feed would be one mark with it. -/
  isChain : closed.IsChain fun entry next => ¬(entry.2 = .cr ∧ next = ([], .lf))

def unmarked (marked : List (List Char × LineEnd) × List Char) : List (List Char) :=
  marked.1.map Prod.fst ++ if marked.2.isEmpty then [] else [marked.2]

namespace MarkedText

def text (m : MarkedText) : String :=
  String.ofList (joinLines m.closed m.tail)

def lines (m : MarkedText) : List String :=
  (unmarked (m.closed, m.tail)).map String.ofList

end MarkedText

/-- Puts a closed line in front. -/
def close (line : List Char) (mark : LineEnd) (marked : List (List Char × LineEnd) × List Char) :
    List (List Char × LineEnd) × List Char :=
  ((line, mark) :: marked.1, marked.2)

/-- The lines of a text with their marks, where the first line has already begun with `front`,
written backwards. -/
def markedAfter (front : List Char) : List Char → List (List Char × LineEnd) × List Char
  | [] => ([], front.reverse)
  | '\n' :: rest => close front.reverse .lf (markedAfter [] rest)
  | '\r' :: '\n' :: rest => close front.reverse .crlf (markedAfter [] rest)
  | '\r' :: rest => close front.reverse .cr (markedAfter [] rest)
  | c :: rest => markedAfter (c :: front) rest

theorem markedAfter_cons {c : Char} (hc : c ≠ '\n' ∧ c ≠ '\r') (front rest : List Char) :
    markedAfter front (c :: rest) = markedAfter (c :: front) rest := by
  rw [markedAfter] <;> simp_all

theorem markedAfter_append {line : List Char} (h : IsLine line) (front rest : List Char) :
    markedAfter front (line ++ rest) = markedAfter (line.reverse ++ front) rest := by
  induction line generalizing front with
  | nil => rfl
  | cons c line ih =>
    rw [List.cons_append, markedAfter_cons (h c List.mem_cons_self),
      ih (fun d hd => h d (List.mem_cons_of_mem c hd)), List.reverse_cons, List.append_assoc]
    rfl

theorem linesAfter_eq_unmarked (front s : List Char) :
    linesAfter front s = unmarked (markedAfter front s) := by
  fun_induction linesAfter front s with
  | case1 front hempty => simp [markedAfter, unmarked, hempty]
  | case2 front hempty => simp [markedAfter, unmarked, hempty]
  | case3 front rest ih => rw [ih, markedAfter]; rfl
  | case4 front rest ih => rw [ih, markedAfter]; rfl
  | case5 front rest hlf ih => rw [ih, markedAfter]; rfl; exact hlf
  | case6 front c rest hlf hcrlf hcr ih => rw [ih, markedAfter_cons ⟨hlf, hcr⟩]

theorem joinLines_markedAfter (front s : List Char) :
    joinLines (markedAfter front s).1 (markedAfter front s).2 = front.reverse ++ s := by
  fun_induction markedAfter front s with
  | case1 front => simp [joinLines]
  | case2 front rest ih => simp_all [joinLines, close, LineEnd.chars]
  | case3 front rest ih => simp_all [joinLines, close, LineEnd.chars]
  | case4 front rest hlf ih => simp_all [joinLines, close, LineEnd.chars]
  | case5 front c rest hlf hcrlf hcr ih => simp_all

theorem isLine_markedAfter {front : List Char} (hfront : IsLine front) (s : List Char) :
    (∀ entry ∈ (markedAfter front s).1, IsLine entry.1) ∧ IsLine (markedAfter front s).2 := by
  have hlines : ∀ line ∈ unmarked (markedAfter front s), IsLine line := by
    rw [← linesAfter_eq_unmarked]
    exact fun line hline => isLine_of_mem_linesAfter hfront hline
  constructor
  · intro entry hentry
    exact hlines entry.1 (List.mem_append_left _ (List.mem_map_of_mem hentry))
  · by_cases hempty : (markedAfter front s).2 = []
    · rw [hempty]
      exact isLine_nil
    · apply hlines
      simp [unmarked, hempty]

theorem head?_of_markedAfter {s : List Char}
    (h : (markedAfter [] s).1.head? = some ([], .lf)) : s.head? = some '\n' := by
  obtain ⟨more, hmore⟩ := List.head?_eq_some_iff.mp h
  have hjoin := joinLines_markedAfter [] s
  rw [hmore, List.reverse_nil, List.nil_append] at hjoin
  rw [← hjoin]
  rfl

theorem isChain_markedAfter (front s : List Char) :
    (markedAfter front s).1.IsChain fun entry next => ¬(entry.2 = .cr ∧ next = ([], .lf)) := by
  fun_induction markedAfter front s with
  | case1 front => exact .nil
  | case2 front rest ih => exact List.isChain_cons.mpr ⟨by simp, ih⟩
  | case3 front rest ih => exact List.isChain_cons.mpr ⟨by simp, ih⟩
  | case4 front rest hlf ih =>
    refine List.isChain_cons.mpr ⟨?_, ih⟩
    rintro next hnext ⟨-, rfl⟩
    obtain ⟨behind, hrest⟩ := List.head?_eq_some_iff.mp (head?_of_markedAfter hnext)
    exact hlf behind hrest
  | case5 front c rest hlf hcrlf hcr ih => exact ih

theorem head?_joinLines {closed : List (List Char × LineEnd)} {tail : List Char}
    (hclosed : ∀ entry ∈ closed, IsLine entry.1) (htail : IsLine tail)
    (h : closed.head? ≠ some ([], .lf)) : (joinLines closed tail).head? ≠ some '\n' := by
  intro hhead
  match closed with
  | [] =>
    obtain ⟨rest, rfl⟩ := List.head?_eq_some_iff.mp hhead
    exact (htail '\n' List.mem_cons_self).1 rfl
  | (c :: line, mark) :: more =>
    cases hhead
    exact (hclosed _ List.mem_cons_self '\n' List.mem_cons_self).1 rfl
  | ([], .lf) :: more => exact h rfl
  | ([], .crlf) :: more => cases hhead
  | ([], .cr) :: more => cases hhead

/-- A line is found again with its mark in front of any text that cannot take part in the mark. -/
theorem markedAfter_closed {line rest : List Char} {mark : LineEnd} (hline : IsLine line)
    (hrest : mark = .cr → rest.head? ≠ some '\n') :
    markedAfter [] (line ++ mark.chars ++ rest) = close line mark (markedAfter [] rest) := by
  rw [List.append_assoc, markedAfter_append hline, List.append_nil]
  cases mark with
  | lf => rw [LineEnd.chars, List.singleton_append, markedAfter, List.reverse_reverse]
  | crlf =>
    rw [LineEnd.chars, List.cons_append, List.singleton_append, markedAfter, List.reverse_reverse]
  | cr =>
    rw [LineEnd.chars, List.singleton_append, markedAfter, List.reverse_reverse]
    rintro behind rfl
    exact hrest rfl rfl

namespace MarkedText

theorem markedAfter_joinLines (m : MarkedText) :
    markedAfter [] (joinLines m.closed m.tail) = (m.closed, m.tail) := by
  obtain ⟨closed, tail, hclosed, htail, hchain⟩ := m
  induction closed with
  | nil =>
    have hjoin : joinLines [] tail = tail ++ [] := (List.append_nil tail).symm
    rw [hjoin, markedAfter_append htail, List.append_nil, markedAfter, List.reverse_reverse]
  | cons entry more ih =>
    obtain ⟨line, mark⟩ := entry
    obtain ⟨hnext, hmore⟩ := List.isChain_cons.mp hchain
    have hlines : ∀ entry ∈ more, IsLine entry.1 :=
      fun entry hentry => hclosed entry (List.mem_cons_of_mem _ hentry)
    have hjoin : joinLines ((line, mark) :: more) tail =
        line ++ mark.chars ++ joinLines more tail := by
      rw [joinLines, List.flatMap_cons, List.append_assoc]
      rfl
    rw [hjoin, markedAfter_closed (hclosed _ List.mem_cons_self), ih hlines hmore, close]
    intro hmark
    exact head?_joinLines hlines htail fun hhead => hnext _ hhead ⟨hmark, rfl⟩

/-- A text with its lines taken apart. -/
def ofText (text : String) : MarkedText where
  closed := (markedAfter [] text.toList).1
  tail := (markedAfter [] text.toList).2
  isLine_closed := (isLine_markedAfter isLine_nil text.toList).1
  isLine_tail := (isLine_markedAfter isLine_nil text.toList).2
  isChain := isChain_markedAfter [] text.toList

theorem text_ofText (text : String) : (ofText text).text = text := by
  rw [MarkedText.text, ofText, joinLines_markedAfter, List.reverse_nil, List.nil_append,
    String.ofList_toList]

theorem ofText_text (m : MarkedText) : ofText m.text = m := by
  have hmarked : markedAfter [] m.text.toList = (m.closed, m.tail) := by
    rw [text, String.toList_ofList, markedAfter_joinLines]
  exact MarkedText.ext (congrArg Prod.fst hmarked) (congrArg Prod.snd hmarked)

theorem lines_text (m : MarkedText) : Text.lines m.text = m.lines := by
  rw [Text.lines, text, String.toList_ofList, linesAfter_eq_unmarked, markedAfter_joinLines, lines]

theorem existsUnique_text (text : String) : ∃! m : MarkedText, m.text = text := by
  refine ⟨ofText text, text_ofText text, ?_⟩
  rintro m rfl
  exact m.ofText_text.symm

end MarkedText

end YangCheck.Text

namespace YangCheck

open Text

/-- Splitting undoes joining: the lines of a text are those that it was joined from, and every text
is joined in one way only. So where two texts differ in the marks of their lines alone, the lines,
the module built and the report are the same. -/
theorem line_ends_make_no_difference :
    (∀ m : MarkedText, Text.lines m.text = m.lines) ∧
    (∀ text : String, ∃! m : MarkedText, m.text = text) ∧
    ∀ m n : MarkedText, m.lines = n.lines →
      Text.lines m.text = Text.lines n.text ∧
      Module.ofSource m.text = Module.ofSource n.text ∧
      Lint.checkSource m.text = Lint.checkSource n.text := by
  refine ⟨MarkedText.lines_text, MarkedText.existsUnique_text, fun m n hlines => ?_⟩
  have hsame : Text.lines m.text = Text.lines n.text := by
    rw [m.lines_text, n.lines_text, hlines]
  refine ⟨hsame, ?_, ?_⟩
  · rw [Module.ofSource, Module.ofSource, hsame]
  · rw [Lint.checkSource, Lint.checkSource, hsame]

/-- A carriage return in front of both characters of another mark. -/
def mixedMarks : MarkedText where
  closed := [("module é \x7b".toList, .cr), ([], .crlf), ("\x7d".toList, .lf)]
  tail := "// €".toList
  isLine_closed := by decide
  isLine_tail := by decide
  isChain := by decide

def plainMarks : MarkedText where
  closed := [("module é \x7b".toList, .lf), ([], .lf), ("\x7d".toList, .lf), ("// €".toList, .lf)]
  isLine_closed := by decide
  isLine_tail := by decide
  isChain := by decide

theorem line_ends_of_mixedMarks :
    mixedMarks.text = "module é \x7b\r\r\n\x7d\n// €" ∧
    Text.lines mixedMarks.text = ["module é \x7b", "", "\x7d", "// €"] ∧
    mixedMarks.lines = plainMarks.lines ∧
    Module.ofSource mixedMarks.text = Module.ofSource plainMarks.text ∧
    Lint.checkSource mixedMarks.text = Lint.checkSource plainMarks.text := by
  obtain ⟨hlines, -, hsame⟩ := line_ends_make_no_difference
  have hmarks : mixedMarks.lines = plainMarks.lines := rfl
  obtain ⟨-, hmodule, hreport⟩ := hsame mixedMarks plainMarks hmarks
  exact ⟨rfl, (hlines mixedMarks).trans rfl, hmarks, hmodule, hreport⟩

end YangCheck
