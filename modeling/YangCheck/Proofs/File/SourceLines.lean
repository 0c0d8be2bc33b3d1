import Mathlib.Data.List.TakeWhile
import YangCheck.File.SourceLines
import YangCheck.Proofs.File.LineReader

namespace YangCheck

open Text LineReader

namespace LineCursor

/-- No chunk that is still to come is empty. -/
def Ready (cursor : LineCursor) : Prop :=
  ∀ chunk ∈ cursor.chunks, chunk ≠ []

/-- The lines that are still to come, the first of them begun. -/
def linesLeft (cursor : LineCursor) (begun : List UInt8) : List (List UInt8) :=
  cut lineFeed carriageReturn cursor.afterReturn begun.reverse cursor.chunks.flatten

variable {cursor : LineCursor}

theorem afterReturn_skip (cursor : LineCursor) (n : Nat) :
    (cursor.skip n).afterReturn = cursor.afterReturn := by
  obtain ⟨chunks, afterReturn⟩ := cursor
  cases chunks with
  | nil => rfl
  | cons chunk rest => rfl

theorem flatten_skip {taken rest : List UInt8} (h : cursor.chunks.flatten = taken ++ rest)
    (hlen : taken.length ≤ cursor.atHand.length) :
    (cursor.skip taken.length).chunks.flatten = rest := by
  obtain ⟨chunks, afterReturn⟩ := cursor
  cases chunks with
  | nil =>
    obtain ⟨rfl, rfl⟩ := List.append_eq_nil_iff.mp h.symm
    rfl
  | cons chunk later =>
    have hchunk : taken.length ≤ chunk.length := hlen
    have hdrop := congrArg (List.drop taken.length) h
    rw [List.flatten_cons, List.drop_append_of_le_length hchunk, List.drop_left] at hdrop
    rw [← hdrop, skip]
    by_cases hlt : taken.length < chunk.length
    · simp [hlt]
    · simp [hlt, Nat.not_lt.mp hlt]

theorem Ready.skip (h : cursor.Ready) (n : Nat) : (cursor.skip n).Ready := by
  obtain ⟨chunks, afterReturn⟩ := cursor
  cases chunks with
  | nil => exact h
  | cons chunk rest =>
    have hrest : ∀ c ∈ rest, c ≠ [] := fun c hc => h c (List.mem_cons_of_mem _ hc)
    simp only [Ready, LineCursor.skip]
    split
    case isTrue hlt =>
      intro c hc
      rcases List.mem_cons.mp hc with rfl | hc
      · simpa using hlt
      · exact hrest c hc
    case isFalse => exact hrest

theorem flatten_of_atHand {bytes : List UInt8} (h : cursor.atHand = bytes) (hne : bytes ≠ []) :
    ∃ rest, cursor.chunks.flatten = bytes ++ rest := by
  obtain ⟨chunks, afterReturn⟩ := cursor
  cases chunks with
  | nil => exact absurd h.symm hne
  | cons chunk rest =>
    obtain rfl : chunk = bytes := h
    exact ⟨rest.flatten, rfl⟩

theorem flatten_of_atHand_nil (hready : cursor.Ready) (h : cursor.atHand = []) :
    cursor.chunks.flatten = [] := by
  obtain ⟨chunks, afterReturn⟩ := cursor
  cases chunks with
  | nil => rfl
  | cons chunk rest => exact absurd h (hready chunk List.mem_cons_self)

theorem not_isMark {b : UInt8} (h : (!isMark b) = true) :
    b ≠ lineFeed ∧ b ≠ carriageReturn := by
  simpa [isMark] using h

theorem cut_mark {mark : UInt8} (h : isMark mark = true) (front rest : List UInt8) :
    cut lineFeed carriageReturn false front (mark :: rest) =
      front.reverse :: cut lineFeed carriageReturn (mark == carriageReturn) [] rest := by
  rw [cut]
  split
  case isTrue hlf =>
    subst mark
    rfl
  case isFalse hlf =>
    have hcr : mark = carriageReturn := by simpa [isMark, hlf] using h
    subst mark
    rfl

theorem cut_forget {flag : Bool} {b : UInt8} (h : ¬(flag && b == lineFeed) = true)
    (front rest : List UInt8) :
    cut lineFeed carriageReturn flag front (b :: rest) =
      cut lineFeed carriageReturn false front (b :: rest) := by
  cases flag with
  | false => rfl
  | true =>
    apply cut_behindReturn
    simpa using h

section steps

variable {b : UInt8} {behind : List UInt8} (hhand : cursor.atHand = b :: behind)

include hhand

/-- A line feed right behind a carriage return starts no line, whatever chunk it comes in. -/
theorem linesLeft_skip_lineFeed (begun : List UInt8)
    (hskip : (cursor.afterReturn && b == lineFeed) = true) :
    cursor.linesLeft begun = (cursor.forgetReturn.skip 1).linesLeft begun := by
  obtain ⟨hreturn, hlf⟩ := Bool.and_eq_true_iff.mp hskip
  obtain rfl := eq_of_beq hlf
  obtain ⟨rest, hrest⟩ := flatten_of_atHand hhand (List.cons_ne_nil _ _)
  have hleft : (cursor.forgetReturn.skip 1).chunks.flatten = behind ++ rest := by
    have hflat : cursor.forgetReturn.chunks.flatten = [lineFeed] ++ (behind ++ rest) := hrest
    have hat : cursor.forgetReturn.atHand = lineFeed :: behind := hhand
    exact flatten_skip hflat (by simp [hat])
  rw [linesLeft, linesLeft, hleft, hrest, afterReturn_skip, List.cons_append, cut, if_pos rfl,
    if_pos hreturn]
  rfl

theorem linesLeft_skip_chunk (begun : List UInt8)
    (hstay : ¬(cursor.afterReturn && b == lineFeed) = true)
    (hmarks : ∀ c ∈ b :: behind, c ≠ lineFeed ∧ c ≠ carriageReturn) :
    cursor.linesLeft begun =
      (cursor.forgetReturn.skip (behind.length + 1)).linesLeft (begun ++ b :: behind) := by
  obtain ⟨rest, hrest⟩ := flatten_of_atHand hhand (List.cons_ne_nil _ _)
  have hleft : (cursor.forgetReturn.skip (behind.length + 1)).chunks.flatten = rest := by
    have hflat : cursor.forgetReturn.chunks.flatten = (b :: behind) ++ rest := hrest
    have hat : cursor.forgetReturn.atHand = b :: behind := hhand
    exact flatten_skip hflat (by simp [hat])
  rw [linesLeft, linesLeft, hleft, hrest, afterReturn_skip, List.cons_append, cut_forget hstay,
    ← List.cons_append, cut_append hmarks, List.reverse_append]
  rfl

theorem linesLeft_skip_mark (begun : List UInt8)
    (hstay : ¬(cursor.afterReturn && b == lineFeed) = true) {front tail : List UInt8} {mark : UInt8}
    (hsplit : front ++ mark :: tail = b :: behind)
    (hmarks : ∀ c ∈ front, c ≠ lineFeed ∧ c ≠ carriageReturn) (hend : isMark mark = true) :
    cursor.linesLeft begun =
      (begun ++ front) ::
        { cursor.skip (front.length + 1) with
          afterReturn := mark == carriageReturn }.linesLeft [] := by
  obtain ⟨rest, hrest⟩ := flatten_of_atHand hhand (List.cons_ne_nil _ _)
  have hleft : (cursor.skip (front.length + 1)).chunks.flatten = tail ++ rest := by
    have hflat : cursor.chunks.flatten = (front ++ [mark]) ++ (tail ++ rest) := by
      rw [hrest, ← hsplit]
      simp
    have hlen : (front ++ [mark]).length ≤ cursor.atHand.length := by
      rw [hhand, ← hsplit]
      simp
    simpa using flatten_skip hflat hlen
  simp only [linesLeft]
  rw [hrest, List.cons_append, cut_forget hstay, ← List.cons_append, ← hsplit,
    List.append_assoc, cut_append hmarks, List.cons_append, cut_mark hend, hleft]
  simp

end steps

theorem readLine_spec (begun : List UInt8) (hready : cursor.Ready) :
    (cursor.readLine begun).2.Ready ∧
      cursor.linesLeft begun =
        match cursor.readLine begun with
        | (none, _) => []
        | (some line, later) => line :: later.linesLeft [] := by
  fun_induction readLine cursor begun with
  | case1 cursor begun hhand =>
    refine ⟨hready, ?_⟩
    rw [linesLeft, flatten_of_atHand_nil hready hhand, cut, List.isEmpty_reverse]
    split <;> simp_all [linesLeft, cut, flatten_of_atHand_nil hready hhand]
  | case2 cursor begun b behind hhand hskip ih =>
    have hforgotten : cursor.forgetReturn.Ready := hready
    rw [linesLeft_skip_lineFeed hhand begun hskip]
    exact ih (hforgotten.skip 1)
  | case3 cursor begun b behind hhand hstay front hnone ih =>
    have hforgotten : cursor.forgetReturn.Ready := hready
    have hfront : front = b :: behind := by
      have hsplit := List.takeWhile_append_dropWhile (p := (!isMark ·)) (l := b :: behind)
      rw [hnone, List.append_nil] at hsplit
      exact hsplit
    have hmarks : ∀ c ∈ b :: behind, c ≠ lineFeed ∧ c ≠ carriageReturn := fun c hc =>
      not_isMark (List.mem_takeWhile_imp (p := (!isMark ·)) (hfront.symm ▸ hc))
    rw [linesLeft_skip_chunk hhand begun hstay hmarks, ← hfront]
    exact ih (hforgotten.skip _)
  | case4 cursor begun b behind hhand hstay front mark tail hmark =>
    have hsplit : front ++ mark :: tail = b :: behind := by
      rw [← hmark]
      exact List.takeWhile_append_dropWhile
    have hmarks : ∀ c ∈ front, c ≠ lineFeed ∧ c ≠ carriageReturn := fun c hc =>
      not_isMark (List.mem_takeWhile_imp (p := (!isMark ·)) hc)
    have hend : isMark mark = true := by
      have hhead := List.head_dropWhile_not (!isMark ·) (l := b :: behind) (by simp [hmark])
      simpa [hmark] using hhead
    exact ⟨hready.skip _, linesLeft_skip_mark hhand begun hstay hsplit hmarks hend⟩

end LineCursor

namespace SourceLines

/-- Texts, one call after another, then the error that ends them, then nothing. -/
def answers (texts : List String) (error? : Option FileError) (count : Nat) : List Item :=
  (texts.map (fun text => some (Except.ok text)) ++
    error?.toList.map (fun error => some (Except.error error)) ++
    List.replicate count none).take count

theorem answers_nil (count : Nat) : answers [] none count = List.replicate count none := by
  simp [answers]

theorem answers_error (error : FileError) (count : Nat) :
    answers [] (some error) (count + 1) = some (.error error) :: List.replicate count none := by
  simp [answers, List.replicate_succ']

theorem answers_cons (text : String) (texts : List String) (error? : Option FileError)
    (count : Nat) :
    answers (text :: texts) error? (count + 1) = some (.ok text) :: answers texts error? count := by
  rw [answers, answers, List.map_cons, List.cons_append, List.cons_append, List.take_succ_cons,
    List.replicate_succ', ← List.append_assoc]
  rw [List.take_append_of_le_length (by simp; omega)]

variable {source : SourceLines}

theorem calls_succ (source : SourceLines) (count : Nat) :
    source.calls (count + 1) =
      (source.next.1 :: (source.next.2.calls count).1, (source.next.2.calls count).2) :=
  rfl

theorem calls_of_finished (h : source.finished = true) (count : Nat) :
    source.calls count = (List.replicate count none, source) := by
  induction count with
  | zero => rfl
  | succ count ih =>
    have hnext : source.next = (none, source) := by rw [next, if_pos h]
    rw [calls_succ, hnext, ih]
    rfl

theorem next_of_readLine_none (h : source.finished = false) {later : LineCursor}
    (hread : source.cursor.readLine [] = (none, later)) :
    source.next = (none, { source with cursor := later, finished := true }) := by
  rw [next, if_neg (by simp [h]), hread]

theorem next_ok (h : source.finished = false) {line : List UInt8} {later : LineCursor}
    (hread : source.cursor.readLine [] = (some line, later)) {text : String}
    (hdecode : decodeUtf8 line.toByteArray = .ok text) :
    source.next =
      (some (.ok text), { source with cursor := later, linesRead := source.linesRead + 1 }) := by
  rw [next, if_neg (by simp [h]), hread]
  simp only [hdecode]

theorem next_error (h : source.finished = false) {line : List UInt8} {later : LineCursor}
    (hread : source.cursor.readLine [] = (some line, later)) {fault : Utf8Fault}
    (hdecode : decodeUtf8 line.toByteArray = .error fault) :
    source.next =
      (some (.error (.invalidEncoding source.path)),
        { source with cursor := later, finished := true }) := by
  rw [next, if_neg (by simp [h]), hread]
  simp only [hdecode]

/-- However often a file is asked, it gives its lines up to the first that is not UTF-8, then the
error, then nothing, and it counts the lines that it has given. -/
theorem calls_spec (hready : source.cursor.Ready) (h : source.finished = false) (count : Nat)
    {texts : List String} {fault : Option Utf8Fault}
    (hleft : decodeFrom #[] ((source.cursor.linesLeft []).map List.toByteArray) = (texts, fault)) :
    (source.calls count).1 =
        answers texts (fault.map fun _ => .invalidEncoding source.path) count ∧
      (source.calls count).2.linesRead = source.linesRead + min count texts.length := by
  have hdone : ∀ s : SourceLines, s.finished = true → ∀ n, s.calls n = _ := fun _ hs n =>
    calls_of_finished hs n
  induction count generalizing source texts with
  | zero => simp [calls, answers]
  | succ count ih =>
    obtain ⟨hlater, hlines⟩ := LineCursor.readLine_spec [] hready
    rcases hread : source.cursor.readLine [] with ⟨line?, later⟩
    rw [hread] at hlater hlines
    rw [hlines] at hleft
    cases line? with
    | none =>
      obtain ⟨rfl, rfl⟩ := Prod.mk.inj hleft
      rw [calls_succ, next_of_readLine_none h hread, hdone _ rfl]
      exact ⟨(answers_nil (count + 1)).symm, by simp⟩
    | some line =>
      rw [List.map_cons] at hleft
      cases hdecode : decodeUtf8 line.toByteArray with
      | ok text =>
        let rest : SourceLines :=
          { source with cursor := later, linesRead := source.linesRead + 1 }
        have hrest : rest.cursor.Ready := hlater
        have hopen : rest.finished = false := h
        rcases hmore : decodeFrom #[] ((later.linesLeft []).map List.toByteArray) with
          ⟨more, last⟩
        rw [decodeUtf8_eq_ok_iff.mp hdecode, decodeFrom_cons, hmore] at hleft
        obtain ⟨rfl, rfl⟩ := Prod.mk.inj hleft
        obtain ⟨hitems, hcount⟩ := ih hrest hopen hmore
        rw [calls_succ, next_ok h hread hdecode, answers_cons]
        refine ⟨congrArg _ hitems, hcount.trans ?_⟩
        have hrestRead : rest.linesRead = source.linesRead + 1 := rfl
        simp only [hrestRead, List.length_cons]
        omega
      | error fault' =>
        rw [decodeFrom, hdecode] at hleft
        obtain ⟨rfl, rfl⟩ := Prod.mk.inj hleft
        rw [calls_succ, next_error h hread hdecode, hdone _ rfl]
        exact ⟨(answers_error _ count).symm, by simp⟩

end SourceLines

end YangCheck
