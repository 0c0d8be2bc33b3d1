import Mathlib.Data.List.Basic
import YangCheck.CommandLine.Options

namespace YangCheck.CommandLine

open CommandLine.Flag

def Flag.takesValue (text : String) : Bool :=
  text == "--threads" || text == "--max-files"

/-- Whether the argument at a place is an option: it is not the value of an option in front of
it. -/
def isOptionAt (arguments : List String) : Nat → Bool
  | 0 => true
  | i + 1 => !(isOptionAt arguments i && arguments[i]?.any takesValue)

/-- Whether a text stands among the arguments as an option. -/
def Occurs (text : String) (arguments : List String) : Prop :=
  ∃ i, isOptionAt arguments i = true ∧ arguments[i]? = some text

/-- All that is found in the options in their order, each looked at with the argument behind it. -/
def found {α : Type} (look : String → Option String → Option α) (arguments : List String) :
    List α :=
  (List.range arguments.length).filterMap fun i =>
    if isOptionAt arguments i then arguments[i]?.bind (look · arguments[i + 1]?) else none

/-- The option that a text is, in front of an argument. -/
def Flag.ofOption (text : String) (next : Option String) : Flag :=
  if text = "--threads" then .threads next
  else if text = "--max-files" then .maxFiles next
  else ofText text

/-- Arguments are read as options with their values, one after another. -/
@[elab_as_elim]
theorem arguments_induction {motive : List String → Prop} (nil : motive [])
    (last : ∀ option, takesValue option = true → motive [option])
    (pair : ∀ option value rest, takesValue option = true → motive rest →
      motive (option :: value :: rest))
    (cons : ∀ option rest, takesValue option = false → motive rest →
      motive (option :: rest)) :
    (arguments : List String) → motive arguments
  | [] => nil
  | [option] => by
    cases h : takesValue option with
    | true => exact last option h
    | false => exact cons option [] h nil
  | option :: value :: rest => by
    cases h : takesValue option with
    | true => exact pair option value rest h (arguments_induction nil last pair cons rest)
    | false =>
      exact cons option (value :: rest) h (arguments_induction nil last pair cons (value :: rest))

theorem takesValue_iff {text : String} :
    takesValue text = true ↔ text = "--threads" ∨ text = "--max-files" := by
  rw [takesValue, Bool.or_eq_true, beq_iff_eq, beq_iff_eq]

section places

variable {option : String}

theorem isOptionAt_append (front rest : List String) {i : Nat} (h : i ≤ front.length) :
    isOptionAt (front ++ rest) i = isOptionAt front i := by
  induction i with
  | zero => rfl
  | succ i ih =>
    rw [isOptionAt, isOptionAt, ih (Nat.le_of_succ_le h), List.getElem?_append_left h]

theorem isOptionAt_length (front rest : List String) :
    isOptionAt (front ++ rest) front.length = isOptionAt front front.length :=
  isOptionAt_append front rest (Nat.le_refl _)

/-- Behind arguments that do not end in front of a value, the places start again. -/
theorem isOptionAt_append_right {front : List String} (h : isOptionAt front front.length = true)
    (rest : List String) (i : Nat) :
    isOptionAt (front ++ rest) (front.length + i) = isOptionAt rest i := by
  induction i with
  | zero => exact (isOptionAt_length front rest).trans h
  | succ i ih =>
    rw [← Nat.add_assoc, isOptionAt, ih, isOptionAt,
      List.getElem?_append_right (Nat.le_add_right _ _), Nat.add_sub_cancel_left]

theorem isOptionAt_value (h : takesValue option = true) (rest : List String) :
    isOptionAt (option :: rest) 1 = false := by
  simp [isOptionAt, h]

theorem isOptionAt_cons (h : takesValue option = false) (rest : List String) (i : Nat) :
    isOptionAt (option :: rest) (i + 1) = isOptionAt rest i := by
  rw [Nat.add_comm]
  have hsingle : isOptionAt [option] 1 = true := by simp [isOptionAt, h]
  exact isOptionAt_append_right hsingle rest i

theorem isOptionAt_pair (h : takesValue option = true) (value : String) (rest : List String)
    (i : Nat) : isOptionAt (option :: value :: rest) (i + 2) = isOptionAt rest i := by
  rw [Nat.add_comm]
  have hpair : isOptionAt [option, value] 2 = true := by simp [isOptionAt, h]
  exact isOptionAt_append_right hpair rest i

end places

section found

variable {α : Type} {look : String → Option String → Option α} {option : String}

theorem found_eq (option : String) (rest : List String) :
    found look (option :: rest) = (look option rest.head?).toList ++
      (List.range rest.length).filterMap fun i =>
        if isOptionAt (option :: rest) (i + 1) then rest[i]?.bind (look · rest[i + 1]?)
        else none := by
  rw [found, List.length_cons, List.range_succ_eq_map, List.filterMap_cons, List.filterMap_map,
    List.head?_eq_getElem?]
  have hfirst : (if isOptionAt (option :: rest) 0 then
      (option :: rest)[0]?.bind (look · (option :: rest)[0 + 1]?) else none) =
        look option rest[0]? := rfl
  rw [hfirst]
  cases look option rest[0]? <;> rfl

theorem found_cons (h : takesValue option = false) (rest : List String) :
    found look (option :: rest) = (look option rest.head?).toList ++ found look rest := by
  rw [found_eq, found]
  simp only [isOptionAt_cons h]

theorem found_singleton (option : String) :
    found look [option] = (look option none).toList := by
  rw [found_eq]
  exact List.append_nil _

theorem found_pair (h : takesValue option = true) (value : String) (rest : List String) :
    found look (option :: value :: rest) =
      (look option (some value)).toList ++ found look rest := by
  -- The first place behind the option is that of its value, where nothing is looked for.
  rw [found_eq, List.length_cons, List.range_succ_eq_map, List.filterMap_cons, List.filterMap_map,
    isOptionAt_value h, found]
  simp only [Function.comp_def, Nat.succ_eq_add_one, Nat.add_assoc, Nat.reduceAdd,
    isOptionAt_pair h, List.getElem?_cons_succ]
  rfl

end found

theorem ofOption_of_not_takesValue {text : String} (h : takesValue text = false)
    (next : Option String) : ofOption text next = ofText text := by
  have hnot := mt takesValue_iff.mpr (Bool.eq_false_iff.mp h)
  rw [not_or] at hnot
  rw [ofOption, if_neg hnot.1, if_neg hnot.2]

theorem ofArguments_cons {option : String} (h : takesValue option = false) (rest : List String) :
    ofArguments (option :: rest) = ofText option :: ofArguments rest := by
  have hnot := mt takesValue_iff.mpr (Bool.eq_false_iff.mp h)
  rw [not_or] at hnot
  rw [ofArguments]
  · exact fun heq => absurd heq hnot.1
  · exact fun heq => absurd heq hnot.2
  · exact fun _ _ heq => absurd heq hnot.1
  · exact fun _ _ heq => absurd heq hnot.2

theorem ofArguments_last {option : String} (h : takesValue option = true) :
    ofArguments [option] = [ofOption option none] := by
  rcases takesValue_iff.mp h with rfl | rfl <;> rfl

theorem ofArguments_pair {option : String} (h : takesValue option = true) (value : String)
    (rest : List String) :
    ofArguments (option :: value :: rest) = ofOption option (some value) :: ofArguments rest := by
  rcases takesValue_iff.mp h with rfl | rfl
  · rw [ofArguments]
    rfl
  · rw [ofArguments]
    rfl

theorem ofArguments_eq (arguments : List String) :
    ofArguments arguments = found (fun text next => some (ofOption text next)) arguments := by
  induction arguments using arguments_induction with
  | nil => rfl
  | last option h =>
    rw [ofArguments_last h, found_singleton]
    rfl
  | pair option value rest h ih =>
    rw [ofArguments_pair h, found_pair h, ih]
    rfl
  | cons option rest h ih =>
    rw [ofArguments_cons h, found_cons h, ih, ofOption_of_not_takesValue h]
    rfl

/-- Where a list of arguments does not end in front of a value that is missing, what follows is
read for itself. -/
theorem ofArguments_append {front : List String} (h : isOptionAt front front.length = true)
    (rest : List String) :
    ofArguments (front ++ rest) = ofArguments front ++ ofArguments rest := by
  induction front using arguments_induction with
  | nil => rfl
  | last option hoption =>
    rw [List.length_singleton, isOptionAt_value hoption] at h
    cases h
  | pair option value front hoption ih =>
    rw [List.length_cons, List.length_cons, isOptionAt_pair hoption] at h
    rw [List.cons_append, List.cons_append, ofArguments_pair hoption, ofArguments_pair hoption,
      ih h, List.cons_append]
  | cons option front hoption ih =>
    rw [List.length_cons, isOptionAt_cons hoption] at h
    rw [List.cons_append, ofArguments_cons hoption, ofArguments_cons hoption, ih h,
      List.cons_append]

theorem found_eq_filterMap {α : Type} {look : String → Option String → Option α}
    {ofFlag : Flag → Option α} (h : ∀ text next, look text next = ofFlag (ofOption text next))
    (arguments : List String) :
    found look arguments = (ofArguments arguments).filterMap ofFlag := by
  rw [ofArguments_eq, found, found, List.filterMap_filterMap]
  congr 1
  funext i
  split
  case isTrue => cases arguments[i]? <;> simp [h]
  case isFalse => rfl

theorem mem_ofArguments_iff {flag : Flag} {arguments : List String} :
    flag ∈ ofArguments arguments ↔ ∃ i text, isOptionAt arguments i = true ∧
      arguments[i]? = some text ∧ ofOption text arguments[i + 1]? = flag := by
  rw [ofArguments_eq, found, List.mem_filterMap]
  constructor
  · rintro ⟨i, -, hflag⟩
    obtain ⟨hoption, hflag⟩ := Option.ite_none_right_eq_some.mp hflag
    obtain ⟨text, htext, hread⟩ := Option.bind_eq_some_iff.mp hflag
    exact ⟨i, text, hoption, htext, Option.some.inj hread⟩
  · rintro ⟨i, text, hoption, htext, hread⟩
    obtain ⟨hlt, -⟩ := List.getElem?_eq_some_iff.mp htext
    refine ⟨i, List.mem_range.mpr hlt, ?_⟩
    rw [if_pos hoption, htext, Option.bind_some, hread]

/-- The text of an option, without its value. -/
def Flag.text : Flag → String
  | .validateOnly => "--validate-only"
  | .buildOnly => "--build-only"
  | .json => "--json"
  | .sequential => "--sequential"
  | .threads _ => "--threads"
  | .noRecursive => "--no-recursive"
  | .maxFiles _ => "--max-files"
  | .failFast => "--fail-fast"
  | .quiet => "--quiet"
  | .unknown text => text

theorem text_ofText (text : String) : (ofText text).text = text := by
  fun_cases ofText text <;> rfl

theorem text_ofOption (text : String) (next : Option String) :
    (ofOption text next).text = text := by
  by_cases hthreads : text = "--threads"
  · rw [ofOption, if_pos hthreads, hthreads]
    rfl
  by_cases hfiles : text = "--max-files"
  · rw [ofOption, if_neg hthreads, if_pos hfiles, hfiles]
    rfl
  · rw [ofOption, if_neg hthreads, if_neg hfiles, text_ofText]

theorem mem_iff_occurs (text : String) (h : takesValue text = false) {flag : Flag}
    (hflag : ofText text = flag) {arguments : List String} :
    flag ∈ ofArguments arguments ↔ Occurs text arguments := by
  rw [mem_ofArguments_iff, ← hflag]
  constructor
  · rintro ⟨i, other, hoption, hother, hread⟩
    have htexts := congrArg Flag.text hread
    rw [text_ofOption, text_ofText] at htexts
    exact ⟨i, hoption, htexts ▸ hother⟩
  · rintro ⟨i, hoption, htext⟩
    exact ⟨i, text, hoption, htext, ofOption_of_not_takesValue h _⟩

end YangCheck.CommandLine
