import YangCheck.Text.Lines

namespace YangCheck.Text

/-- A text that no line end interrupts. -/
def IsLine (s : List Char) : Prop :=
  ∀ c ∈ s, c ≠ '\n' ∧ c ≠ '\r'

theorem isLine_nil : IsLine [] := by
  intro c hc
  cases hc

theorem isLine_reverse {s : List Char} (h : IsLine s) : IsLine s.reverse :=
  fun c hc => h c (List.mem_reverse.mp hc)

theorem isLine_append {a b : List Char} : IsLine (a ++ b) ↔ IsLine a ∧ IsLine b :=
  List.forall_mem_append

theorem linesAfter_cons {c : Char} (hc : c ≠ '\n' ∧ c ≠ '\r') (front rest : List Char) :
    linesAfter front (c :: rest) = linesAfter (c :: front) rest := by
  rw [linesAfter] <;> simp_all

theorem isLine_of_mem_linesAfter {front s line : List Char} (hfront : IsLine front)
    (h : line ∈ linesAfter front s) : IsLine line := by
  fun_induction linesAfter front s with
  | case1 front hempty => cases h
  | case2 front hempty =>
    obtain rfl := List.mem_singleton.mp h
    exact isLine_reverse hfront
  | case3 front rest ih =>
    rcases List.mem_cons.mp h with rfl | hrest
    · exact isLine_reverse hfront
    · exact ih isLine_nil hrest
  | case4 front rest ih =>
    rcases List.mem_cons.mp h with rfl | hrest
    · exact isLine_reverse hfront
    · exact ih isLine_nil hrest
  | case5 front rest hlf ih =>
    rcases List.mem_cons.mp h with rfl | hrest
    · exact isLine_reverse hfront
    · exact ih isLine_nil hrest
  | case6 front c rest hlf hcrlf hcr ih =>
    refine ih ?_ h
    intro d hd
    rcases List.mem_cons.mp hd with rfl | hd
    · exact ⟨hlf, hcr⟩
    · exact hfront d hd

theorem isLine_of_mem_lines {text line : String} (h : line ∈ lines text) : IsLine line.toList := by
  obtain ⟨chars, hchars, rfl⟩ := List.mem_map.mp h
  rw [String.toList_ofList]
  exact isLine_of_mem_linesAfter isLine_nil hchars

theorem linesAfter_append {line : List Char} (h : IsLine line) (front rest : List Char) :
    linesAfter front (line ++ rest) = linesAfter (line.reverse ++ front) rest := by
  induction line generalizing front with
  | nil => rfl
  | cons c line ih =>
    rw [List.cons_append, linesAfter_cons (h c List.mem_cons_self),
      ih (fun d hd => h d (List.mem_cons_of_mem c hd)), List.reverse_cons, List.append_assoc]
    rfl

theorem lines_join {ls : List String} (h : ∀ line ∈ ls, IsLine line.toList) :
    lines (String.join (ls.map (· ++ "\n"))) = ls := by
  have hchars : linesAfter [] (ls.flatMap fun line => line.toList ++ ['\n']) =
      ls.map String.toList := by
    induction ls with
    | nil => rfl
    | cons line ls ih =>
      rw [List.flatMap_cons, List.append_assoc, linesAfter_append (h line List.mem_cons_self),
        List.map_cons, ← ih fun l hl => h l (List.mem_cons_of_mem _ hl)]
      simp [linesAfter]
  have hlines : (String.join (ls.map (· ++ "\n"))).toList =
      ls.flatMap fun line => line.toList ++ ['\n'] := by
    simp only [String.toList_join, List.flatMap_map, String.toList_append]
    rfl
  rw [lines, hlines, hchars, List.map_map]
  simp

end YangCheck.Text
