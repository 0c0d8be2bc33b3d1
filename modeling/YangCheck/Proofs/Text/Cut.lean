import YangCheck.Proofs.Text.Lines

namespace YangCheck.Text

variable {α : Type} [DecidableEq α]

/-- The lines of what is left to read, where the line that has begun with `front`, backwards, is the
first of them. `behindReturn` tells whether a carriage return was the last to be read. -/
def cut (lf cr : α) (behindReturn : Bool) (front : List α) : List α → List (List α)
  | [] => if front.isEmpty then [] else [front.reverse]
  | c :: rest =>
    if c = lf then
      if behindReturn then cut lf cr false front rest else front.reverse :: cut lf cr false [] rest
    else if c = cr then front.reverse :: cut lf cr true [] rest
    else cut lf cr false (c :: front) rest

variable {lf cr : α} {behindReturn : Bool} {front : List α}

theorem cut_behindReturn {s : List α} (h : s.head? ≠ some lf) :
    cut lf cr behindReturn front s = cut lf cr false front s := by
  cases s with
  | nil => rfl
  | cons c rest =>
    have hc : c ≠ lf := fun hc => h (congrArg some hc)
    rw [cut, cut, if_neg hc, if_neg hc]

theorem cut_append {s : List α} (h : ∀ c ∈ s, c ≠ lf ∧ c ≠ cr) (rest : List α) :
    cut lf cr false front (s ++ rest) = cut lf cr false (s.reverse ++ front) rest := by
  induction s generalizing front with
  | nil => rfl
  | cons c s ih =>
    obtain ⟨hlf, hcr⟩ := h c List.mem_cons_self
    have hs : ∀ d ∈ s, d ≠ lf ∧ d ≠ cr := fun d hd => h d (List.mem_cons_of_mem c hd)
    rw [List.cons_append, cut, if_neg hlf, if_neg hcr, ih hs, List.reverse_cons,
      List.append_assoc]
    rfl

/-- The lines of a text are cut from the left, with one character to remember. -/
theorem linesAfter_eq_cut (front s : List Char) :
    linesAfter front s = cut '\n' '\r' false front s := by
  fun_induction linesAfter front s with
  | case1 front hempty => rw [cut, if_pos hempty]
  | case2 front hempty => rw [cut, if_neg hempty]
  | case3 front rest ih => simp [cut, ih]
  | case4 front rest ih => simp [cut, ih]
  | case5 front rest hlf ih =>
    have hhead : rest.head? ≠ some '\n' := by
      intro hhead
      obtain ⟨behind, rfl⟩ := List.head?_eq_some_iff.mp hhead
      exact hlf behind rfl
    simp [cut, ih, cut_behindReturn hhead]
  | case6 front c rest hlf hcrlf hcr ih =>
    rw [cut, if_neg hlf, if_neg hcr, ih]

theorem lines_eq_cut (text : String) :
    lines text = (cut '\n' '\r' false [] text.toList).map String.ofList := by
  rw [lines, linesAfter_eq_cut]

end YangCheck.Text
