import Mathlib.Data.List.Induction
import YangCheck.Proofs.CommandLine.Arguments
import YangCheck.Proofs.CommandLine.Number

namespace YangCheck.CommandLine

open CommandLine.Flag

/-- The number of threads that an option asks for. -/
def threadCount? (option : String) (next : Option String) : Option Nat :=
  if option = "--sequential" then some 1
  else if option = "--threads" then (next.bind number?).map (max · 1)
  else none

/-- The limit of files that an option sets. -/
def fileLimit? (option : String) (next : Option String) : Option Nat :=
  if option = "--max-files" then next.bind number? else none

/-- Whether an option is nothing but on or off, as are those that are not known. -/
def isSwitch (option : String) : Bool :=
  !takesValue option && option != "--sequential"

namespace Flag

def threadCount? : Flag → Option Nat
  | .sequential => some 1
  | .threads value => (value.bind number?).map (max · 1)
  | _ => none

def fileLimit? : Flag → Option Nat
  | .maxFiles value => value.bind number?
  | _ => none

theorem threadCount?_ofOption (text : String) (next : Option String) :
    CommandLine.threadCount? text next = (ofOption text next).threadCount? := by
  fun_cases ofOption text next with
  | case1 heq => simp [CommandLine.threadCount?, threadCount?, heq]
  | case2 _ heq => simp [CommandLine.threadCount?, threadCount?, heq]
  | case3 => fun_cases ofText text <;> simp_all [CommandLine.threadCount?, threadCount?]

theorem fileLimit?_ofOption (text : String) (next : Option String) :
    CommandLine.fileLimit? text next = (ofOption text next).fileLimit? := by
  fun_cases ofOption text next with
  | case1 heq => simp [CommandLine.fileLimit?, fileLimit?, heq]
  | case2 _ heq => simp [CommandLine.fileLimit?, fileLimit?, heq]
  | case3 => fun_cases ofText text <;> simp_all [CommandLine.fileLimit?, fileLimit?]

end Flag

namespace Options

/-- The options that hold without any arguments. -/
def usual (threads : Nat) (policy : FilePolicy) : Options :=
  { batch := { maxThreads := threads, policy } }

/-- What flags come to where no two of them exclude each other. The mode of the batch is not set by
any of them. -/
def chosen (threads : Nat) (policy : FilePolicy) (flags : List Flag) : Options where
  mode := if .validateOnly ∈ flags then .validateOnly
    else if .buildOnly ∈ flags then .buildOnly
    else .full
  json := .json ∈ flags
  batch :=
    { maxThreads := (flags.filterMap Flag.threadCount?).getLast?.getD threads
      recursive := .noRecursive ∉ flags
      maxFiles := (flags.filterMap Flag.fileLimit?).getLast?
      showProgress := .quiet ∉ flags
      failFast := .failFast ∈ flags
      policy }

theorem applyAll_concat (o : Options) (flags : List Flag) (flag : Flag) :
    o.applyAll (flags ++ [flag]) = o.applyAll flags >>= (apply · flag) := by
  rw [applyAll, List.foldlM_append]
  simp [applyAll]

theorem apply_chosen (threads : Nat) (policy : FilePolicy) (flags : List Flag) (flag : Flag)
    (h : ¬ (.validateOnly ∈ flags ∧ .buildOnly ∈ flags)) :
    (chosen threads policy flags).apply flag =
      if .validateOnly ∈ flags ++ [flag] ∧ .buildOnly ∈ flags ++ [flag] then
        .error .conflictingModes
      else .ok (chosen threads policy (flags ++ [flag])) := by
  -- The mode so far tells which of the two flags have come, so the cases are on these first.
  by_cases hvalidate : Flag.validateOnly ∈ flags <;> by_cases hbuild : Flag.buildOnly ∈ flags
  · exact absurd ⟨hvalidate, hbuild⟩ h
  all_goals
    cases flag with
    | threads value =>
      cases hnumber : value.bind number? <;>
        simp [chosen, apply, Flag.threadCount?, Flag.fileLimit?, hvalidate, hbuild, hnumber]
    | maxFiles value =>
      cases hnumber : value.bind number? <;>
        simp [chosen, apply, Flag.threadCount?, Flag.fileLimit?, hvalidate, hbuild, hnumber]
    | _ =>
      simp [chosen, apply, selectMode, Flag.threadCount?, Flag.fileLimit?, hvalidate, hbuild]

theorem applyAll_eq (threads : Nat) (policy : FilePolicy) (flags : List Flag) :
    (usual threads policy).applyAll flags =
      if .validateOnly ∈ flags ∧ .buildOnly ∈ flags then .error .conflictingModes
      else .ok (chosen threads policy flags) := by
  induction flags using List.reverseRecOn with
  | nil => rfl
  | append_singleton flags flag ih =>
    rw [applyAll_concat, ih]
    split
    case isTrue hboth =>
      rw [if_pos ⟨List.mem_append_left _ hboth.1, List.mem_append_left _ hboth.2⟩]
      rfl
    case isFalse hnot => exact apply_chosen threads policy flags flag hnot

/-- The order of flags that are only on or off, and how often they stand, makes no difference. -/
theorem applyAll_congr (threads : Nat) (policy : FilePolicy) {flags flags' : List Flag}
    (hthreads : flags'.filterMap Flag.threadCount? = flags.filterMap Flag.threadCount?)
    (hfiles : flags'.filterMap Flag.fileLimit? = flags.filterMap Flag.fileLimit?)
    (hmem : ∀ flag, flag ∈ flags' ↔ flag ∈ flags) :
    (usual threads policy).applyAll flags' = (usual threads policy).applyAll flags := by
  rw [applyAll_eq, applyAll_eq, chosen, chosen, hthreads, hfiles]
  simp only [hmem]

end Options

theorem takesValue_of_isSwitch {text : String} (h : isSwitch text = true) :
    takesValue text = false := by
  simpa using (Bool.and_eq_true_iff.mp h).1

theorem threadCount?_ofText {text : String} (h : isSwitch text = true) :
    (ofText text).threadCount? = none := by
  fun_cases ofText text with
  | case4 => exact absurd h (by decide)
  | _ => rfl

theorem fileLimit?_ofText (text : String) : (ofText text).fileLimit? = none := by
  fun_cases ofText text <;> rfl

/-- The options that are told apart from others. -/
def known : List String :=
  ["--validate-only", "--build-only", "--json", "--sequential", "--threads", "--no-recursive",
    "--max-files", "--fail-fast", "--quiet"]

theorem ofText_of_not_known {text : String} (h : text ∉ known) : ofText text = .unknown text := by
  fun_cases ofText text with
  | case8 => rfl
  | _ => exact absurd (by decide) h

theorem takesValue_of_not_known {text : String} (h : text ∉ known) : takesValue text = false := by
  rw [Bool.eq_false_iff]
  intro htakes
  rcases takesValue_iff.mp htakes with rfl | rfl <;> exact absurd (by decide) h

namespace Options

section switches

variable {front middle back : List String} {a b : String}

theorem ofArguments_switch (hfront : isOptionAt front front.length = true)
    (ha : isSwitch a = true) :
    ofArguments (front ++ a :: back) = ofArguments front ++ ofText a :: ofArguments back := by
  rw [ofArguments_append hfront, ofArguments_cons (takesValue_of_isSwitch ha)]

theorem parse_exchange (threads : Nat) (policy : FilePolicy)
    (hfront : isOptionAt front front.length = true)
    (hmiddle : isOptionAt middle middle.length = true) (ha : isSwitch a = true)
    (hb : isSwitch b = true) :
    parse (usual threads policy) (front ++ b :: (middle ++ a :: back)) =
      parse (usual threads policy) (front ++ a :: (middle ++ b :: back)) := by
  rw [parse, parse, ofArguments_switch hfront ha, ofArguments_switch hfront hb,
    ofArguments_switch hmiddle ha, ofArguments_switch hmiddle hb]
  apply congrArg (Except.map shareMode) (applyAll_congr threads policy ?_ ?_ ?_)
  · simp [threadCount?_ofText ha, threadCount?_ofText hb]
  · simp [fileLimit?_ofText]
  · intro flag
    simp only [List.mem_append, List.mem_cons]
    tauto

theorem parse_repeat (threads : Nat) (policy : FilePolicy)
    (hfront : isOptionAt front front.length = true) (ha : isSwitch a = true)
    (hoccurs : Occurs a (front ++ back)) :
    parse (usual threads policy) (front ++ a :: back) =
      parse (usual threads policy) (front ++ back) := by
  rw [← mem_iff_occurs a (takesValue_of_isSwitch ha) rfl, ofArguments_append hfront,
    List.mem_append] at hoccurs
  rw [parse, parse, ofArguments_switch hfront ha, ofArguments_append hfront]
  apply congrArg (Except.map shareMode) (applyAll_congr threads policy ?_ ?_ ?_)
  · simp [threadCount?_ofText ha]
  · simp [fileLimit?_ofText]
  · intro flag
    simp only [List.mem_append, List.mem_cons]
    constructor
    · rintro (hflag | rfl | hflag)
      · exact .inl hflag
      · exact hoccurs
      · exact .inr hflag
    · exact Or.imp_right .inr

end switches

section ignored

variable {front : List String} {option : String}

theorem apply_of_warning {flag : Flag} (h : flag.warning?.isSome = true) (o : Options) :
    o.apply flag = .ok o := by
  fun_cases warning? flag with
  | case2 value hnumber => simp [warning?, hnumber] at h
  | case3 value hnumber =>
    rw [apply, Option.bind_some, Option.not_isSome_iff_eq_none.mp hnumber]
  | case5 value hnumber => simp [warning?, hnumber] at h
  | case6 value hnumber =>
    rw [apply, Option.bind_some, Option.not_isSome_iff_eq_none.mp hnumber]
  | _ => simp_all [warning?, apply]

/-- Arguments that come to no more than a warning could be left out. -/
theorem parse_ignored (o : Options) (hfront : isOptionAt front front.length = true)
    (ignored back : List String) {flag : Flag} (hwarning : flag.warning?.isSome = true)
    (hread : ofArguments (ignored ++ back) = flag :: ofArguments back) :
    parse o (front ++ (ignored ++ back)) = parse o (front ++ back) := by
  rw [parse, parse, ofArguments_append hfront, ofArguments_append hfront, hread, applyAll,
    List.foldlM_append, applyAll, List.foldlM_append]
  congr 2
  funext reached
  rw [List.foldlM_cons, apply_of_warning hwarning]
  rfl

theorem parse_unknown (o : Options) (hfront : isOptionAt front front.length = true)
    (hunknown : option ∉ known) (back : List String) :
    parse o (front ++ option :: back) = parse o (front ++ back) := by
  have hread : ofArguments ([option] ++ back) = .unknown option :: ofArguments back := by
    rw [List.singleton_append, ofArguments_cons (takesValue_of_not_known hunknown),
      ofText_of_not_known hunknown]
  exact parse_ignored o hfront [option] back rfl hread

theorem warning?_ofOption (htakes : takesValue option = true) {next : Option String}
    (hnumber : next.bind number? = none) : (ofOption option next).warning?.isSome = true := by
  rcases takesValue_iff.mp htakes with rfl | rfl <;> cases next <;>
    simp_all [ofOption, warning?]

theorem parse_malformed (o : Options) (hfront : isOptionAt front front.length = true)
    (htakes : takesValue option = true) {value : String} (hvalue : number? value = none)
    (back : List String) :
    parse o (front ++ option :: value :: back) = parse o (front ++ back) :=
  parse_ignored o hfront [option, value] back
    (warning?_ofOption htakes ((Option.bind_some value number?).trans hvalue))
    (ofArguments_pair htakes value back)

theorem parse_missing (o : Options) (hfront : isOptionAt front front.length = true)
    (htakes : takesValue option = true) : parse o (front ++ [option]) = parse o front := by
  have h := parse_ignored o hfront [option] [] (warning?_ofOption htakes rfl)
    (ofArguments_last htakes)
  rwa [List.append_nil, List.append_nil] at h

end ignored

/-- What arguments come to that do not ask for two modes. -/
structure GivenBy (o : Options) (threads : Nat) (policy : FilePolicy)
    (arguments : List String) : Prop where
  mode_eq : o.mode = o.batch.mode
  validateOnly : Occurs "--validate-only" arguments → o.mode = .validateOnly
  buildOnly : Occurs "--build-only" arguments → o.mode = .buildOnly
  full : ¬ Occurs "--validate-only" arguments → ¬ Occurs "--build-only" arguments →
    o.mode = .full
  json : o.json = true ↔ Occurs "--json" arguments
  failFast : o.batch.failFast = true ↔ Occurs "--fail-fast" arguments
  recursive : o.batch.recursive = false ↔ Occurs "--no-recursive" arguments
  showProgress : o.batch.showProgress = false ↔ Occurs "--quiet" arguments
  maxFiles : o.batch.maxFiles = (found CommandLine.fileLimit? arguments).getLast?
  maxThreads :
    o.batch.maxThreads = (found CommandLine.threadCount? arguments).getLast?.getD threads
  policy : o.batch.policy = policy

section modes

variable {arguments : List String}

theorem validateOnly_iff :
    Flag.validateOnly ∈ ofArguments arguments ↔ Occurs "--validate-only" arguments :=
  mem_iff_occurs "--validate-only" rfl rfl

theorem buildOnly_iff :
    Flag.buildOnly ∈ ofArguments arguments ↔ Occurs "--build-only" arguments :=
  mem_iff_occurs "--build-only" rfl rfl

theorem chosen_givenBy (threads : Nat) (policy : FilePolicy)
    (h : ¬ (Occurs "--validate-only" arguments ∧ Occurs "--build-only" arguments)) :
    (chosen threads policy (ofArguments arguments)).shareMode.GivenBy threads policy arguments where
  mode_eq := (batch_mode_shareMode _).symm
  validateOnly hvalidate := if_pos (validateOnly_iff.mpr hvalidate)
  buildOnly hbuild := by
    have hnot : Flag.validateOnly ∉ ofArguments arguments := fun hvalidate =>
      h ⟨validateOnly_iff.mp hvalidate, hbuild⟩
    rw [mode_shareMode, chosen, if_neg hnot, if_pos (buildOnly_iff.mpr hbuild)]
  full hvalidate hbuild := by
    rw [mode_shareMode, chosen, if_neg (mt validateOnly_iff.mp hvalidate),
      if_neg (mt buildOnly_iff.mp hbuild)]
  json := decide_eq_true_iff.trans (mem_iff_occurs "--json" rfl rfl)
  failFast := decide_eq_true_iff.trans (mem_iff_occurs "--fail-fast" rfl rfl)
  recursive :=
    decide_eq_false_iff_not.trans (not_not.trans (mem_iff_occurs "--no-recursive" rfl rfl))
  showProgress := decide_eq_false_iff_not.trans (not_not.trans (mem_iff_occurs "--quiet" rfl rfl))
  maxFiles := by
    rw [found_eq_filterMap fileLimit?_ofOption]
    rfl
  maxThreads := by
    rw [found_eq_filterMap threadCount?_ofOption]
    rfl
  policy := rfl

theorem parse_eq_error (threads : Nat) (policy : FilePolicy)
    (h : Occurs "--validate-only" arguments ∧ Occurs "--build-only" arguments) :
    parse (usual threads policy) arguments = .error .conflictingModes :=
  congrArg (Except.map shareMode) ((applyAll_eq threads policy _).trans
    (if_pos ⟨validateOnly_iff.mpr h.1, buildOnly_iff.mpr h.2⟩))

theorem parse_eq_ok (threads : Nat) (policy : FilePolicy)
    (h : ¬ (Occurs "--validate-only" arguments ∧ Occurs "--build-only" arguments)) :
    parse (usual threads policy) arguments =
      .ok (chosen threads policy (ofArguments arguments)).shareMode :=
  congrArg (Except.map shareMode) ((applyAll_eq threads policy _).trans
    (if_neg fun hboth => h ⟨validateOnly_iff.mp hboth.1, buildOnly_iff.mp hboth.2⟩))

end modes

/-- Options are parsed without a failure unless two modes are asked for, and the mode is then that
of the batch, too. Of a number it is the last that counts, of all else whether it occurs; what is not
understood is passed over, and switches may change places and stand more than once. A value is
understood where it spells a number. -/
theorem parse_closed_form (threads : Nat) (policy : FilePolicy) (arguments : List String) :
    (∀ value n, number? value = some n ↔ Spells value n) ∧
    (parse (usual threads policy) arguments = .error .conflictingModes ↔
      Occurs "--validate-only" arguments ∧ Occurs "--build-only" arguments) ∧
    (¬ (Occurs "--validate-only" arguments ∧ Occurs "--build-only" arguments) →
      ∃ o, parse (usual threads policy) arguments = .ok o ∧
        o.GivenBy threads policy arguments) ∧
    (∀ front back, arguments = front ++ back → isOptionAt arguments front.length = true →
      (∀ option ∉ known,
        parse (usual threads policy) (front ++ option :: back) =
          parse (usual threads policy) arguments) ∧
      (∀ option value, takesValue option = true → (∀ n, ¬ Spells value n) →
        parse (usual threads policy) (front ++ option :: value :: back) =
          parse (usual threads policy) arguments) ∧
      ∀ option, isSwitch option = true → Occurs option arguments →
        parse (usual threads policy) (front ++ option :: back) =
          parse (usual threads policy) arguments) ∧
    (isOptionAt arguments arguments.length = true → ∀ option, takesValue option = true →
      parse (usual threads policy) (arguments ++ [option]) =
        parse (usual threads policy) arguments) ∧
    (∀ front middle back a b, arguments = front ++ a :: (middle ++ b :: back) →
      isOptionAt arguments front.length = true →
      isOptionAt arguments (front.length + 1 + middle.length) = true →
      isSwitch a = true → isSwitch b = true →
        parse (usual threads policy) (front ++ b :: (middle ++ a :: back)) =
          parse (usual threads policy) arguments) := by
  refine ⟨fun _ _ => number?_eq_some_iff, ⟨?alone, parse_eq_error threads policy⟩, ?given,
    ?places, ?missing, ?exchange⟩
  case alone =>
    intro herror
    by_contra hnot
    rw [parse_eq_ok threads policy hnot] at herror
    cases herror
  case given =>
    intro hnot
    exact ⟨_, parse_eq_ok threads policy hnot, chosen_givenBy threads policy hnot⟩
  case places =>
    rintro front back rfl hplace
    have hfront := (isOptionAt_length front back).symm.trans hplace
    refine ⟨?unknown, ?malformed, ?repeated⟩
    case unknown =>
      intro option hunknown
      exact parse_unknown _ hfront hunknown back
    case malformed =>
      intro option value htakes hvalue
      exact parse_malformed _ hfront htakes (number?_eq_none_iff.mpr hvalue) back
    case repeated =>
      intro option hswitch hoccurs
      exact parse_repeat threads policy hfront hswitch hoccurs
  case missing =>
    intro hplace option htakes
    exact parse_missing _ hplace htakes
  case exchange =>
    rintro front middle back a b rfl hfirst hsecond ha hb
    have hfront := (isOptionAt_length front _).symm.trans hfirst
    have hmiddle : isOptionAt middle middle.length = true := by
      rwa [Nat.add_assoc, isOptionAt_append_right hfront, Nat.add_comm,
        isOptionAt_cons (takesValue_of_isSwitch ha), isOptionAt_length] at hsecond
    exact parse_exchange threads policy hfront hmiddle ha hb

/-- Where a value is expected, a switch is no more than a value that is not a number. -/
example : parse (usual 8 {}) ["--threads", "--json", "--quiet", "--max-files"] =
    parse (usual 8 {}) ["--quiet"] := by decide

end Options

end YangCheck.CommandLine
