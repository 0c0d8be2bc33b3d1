import Mathlib.Data.List.DropRight
import YangCheck.Log.Delivery

namespace YangCheck.Log

/-- What has been left out once is not missed later. -/
theorem rtake_append_rtake (n : Nat) (events more : List Event) :
    (events.rtake n ++ more).rtake n = (events ++ more).rtake n := by
  simp [List.rtake_eq_reverse_take_reverse, List.take_append, List.take_take]

namespace Window

variable [Limits]

theorem toList_push (window : Window) (event : Event) :
    (window.push event).events.toList =
      (window.events.toList ++ [event]).rtake Limits.logCapacity := by
  have hroom := Limits.le_logCapacity
  rw [push, List.rtake, List.length_append, List.length_singleton, Array.length_toList,
    List.drop_append_of_le_length (by rw [Array.length_toList]; omega)]
  split
  case isTrue hfull =>
    have hdropped : window.events.size - Limits.logCapacity + 1 =
        window.events.size + 1 - Limits.logCapacity := by omega
    have hkept : window.events.toList.extract
          (window.events.size + 1 - Limits.logCapacity) window.events.size =
        window.events.toList.drop (window.events.size + 1 - Limits.logCapacity) := by
      rw [List.extract_eq_take_drop, List.take_of_length_le]
      rw [List.length_drop, Array.length_toList]
    rw [Array.toList_push, Array.toList_extract, hdropped, hkept]
  case isFalse hspace =>
    have hdropped : window.events.size + 1 - Limits.logCapacity = 0 := by omega
    rw [hdropped, Array.toList_push, List.drop_zero]

/-- The window that is left of some events. -/
def keeping (events : List Event) : Window :=
  ⟨(events.rtake Limits.logCapacity).toArray⟩

theorem keeping_nil : keeping [] = {} := by
  rw [keeping, List.rtake_nil]

theorem push_keeping (events : List Event) (event : Event) :
    (keeping events).push event = keeping (events ++ [event]) := by
  have hevents : ((keeping events).push event).events.toList =
      (keeping (events ++ [event])).events.toList := by
    rw [toList_push, keeping, keeping, rtake_append_rtake]
  exact congrArg Window.mk (Array.toList_inj.mp hevents)

end Window

namespace Operation

variable {level fanLevel : Level} {attached : Bool} {index : Nat}

theorem received_concat (operations : List Operation) (operation : Operation) :
    received level fanLevel attached index (operations ++ [operation]) =
      if operation.clears index then []
      else received level fanLevel attached index operations ++
        (operation.delivered? level fanLevel attached index).toList := by
  rw [received, sinceCleared, List.reverse_append, List.reverse_singleton, List.singleton_append]
  cases hclears : operation.clears index with
  | true => simp [hclears]
  | false =>
    rw [List.takeWhile_cons_of_pos (by simp [hclears]), List.reverse_cons, List.filterMap_append]
    cases hevent : operation.delivered? level fanLevel attached index <;>
      simp [hevent, received, sinceCleared]

end Operation

namespace Target

/-- The target that an operation leaves where it was at a place among the targets. -/
def after [Limits] (level fanLevel : Level) (index : Nat) (operation : Operation)
    (target : Target) : Target :=
  if operation.clears index then { target with window := {} }
  else (operation.delivered? level fanLevel target.attached index).elim target fun event =>
    { target with window := target.window.push event }

end Target

namespace Service

variable [Limits] {service : Service}

theorem level_apply (operation : Operation) : (service.apply operation).level = service.level := by
  cases operation with
  | log event =>
    rw [apply, log]
    split <;> rfl
  | logInto | clear => rfl

theorem fanLevel_apply (operation : Operation) :
    (service.apply operation).fanLevel = service.fanLevel := by
  cases operation with
  | log event =>
    rw [apply, log]
    split <;> rfl
  | logInto | clear => rfl

omit [Limits] in
theorem delivers_iff (event : Event) : service.delivers event = true ↔
    event.level.rank ≤ service.level.rank ∧ event.level.rank ≤ service.fanLevel.rank := by
  rw [delivers, admits, Level.passes, Level.passes, Bool.and_eq_true, decide_eq_true_iff,
    decide_eq_true_iff]

/-- Each target goes on for itself. -/
theorem getElem?_targets_apply (operation : Operation) (index : Nat) :
    (service.apply operation).targets[index]? =
      service.targets[index]?.map
        (Target.after service.level service.fanLevel index operation) := by
  cases operation with
  | log event =>
    rw [apply, log]
    split
    case isTrue hdelivers =>
      have hlevels := (delivers_iff event).mp hdelivers
      rw [List.getElem?_map]
      congr 1
      funext target
      cases hattached : target.attached <;>
        simp [Target.receive, Target.after, Operation.clears, Operation.delivered?, hattached,
          hlevels]
    case isFalse hdelivers =>
      have hlevels := mt (delivers_iff event).mpr hdelivers
      have hsame : Target.after service.level service.fanLevel index (.log event) = id := by
        funext target
        simp [Target.after, Operation.clears, Operation.delivered?, hlevels]
      rw [hsame, Option.map_id_fun, id]
  | logInto i event =>
    rw [apply, logInto, List.getElem?_modify]
    congr 1
    funext target
    by_cases heq : i = index <;>
      simp [Target.after, Operation.clears, Operation.delivered?, heq]
  | clear i =>
    rw [apply, clear, List.getElem?_modify]
    congr 1
    funext target
    by_cases heq : i = index <;>
      simp [Target.after, Operation.clears, Operation.delivered?, heq]

theorem run_concat (operations : List Operation) (operation : Operation) :
    service.run (operations ++ [operation]) = (service.run operations).apply operation := by
  rw [run, List.foldl_append]
  rfl

theorem level_run (service : Service) (operations : List Operation) :
    (service.run operations).level = service.level ∧
      (service.run operations).fanLevel = service.fanLevel := by
  induction operations using List.reverseRecOn with
  | nil => exact ⟨rfl, rfl⟩
  | append_singleton operations operation ih =>
    rw [run_concat, level_apply, fanLevel_apply]
    exact ih

theorem getElem?_targets_run (level fanLevel : Level) (attached : List Bool)
    (operations : List Operation) (index : Nat) :
    ((start level fanLevel attached).run operations).targets[index]? =
      attached[index]?.map fun attached =>
        ⟨.keeping (Operation.received level fanLevel attached index operations), attached⟩ := by
  induction operations using List.reverseRecOn with
  | nil =>
    rw [run, List.foldl_nil, start, List.getElem?_map]
    apply Option.map_congr
    intro attached _
    rw [Operation.received, Operation.sinceCleared, List.reverse_nil, List.takeWhile_nil,
      List.reverse_nil, List.filterMap_nil, Window.keeping_nil]
  | append_singleton operations operation ih =>
    -- What the last operation delivers depends on the levels, which are those of the start.
    obtain ⟨hlevel, hfanLevel⟩ := level_run (start level fanLevel attached) operations
    rw [run_concat, getElem?_targets_apply, ih, hlevel, hfanLevel, Option.map_map]
    apply Option.map_congr
    intro attached _
    rw [Function.comp_apply, Operation.received_concat, Target.after, start]
    cases operation.clears index with
    | true => rw [if_pos rfl, if_pos rfl, Window.keeping_nil]
    | false =>
      rw [if_neg Bool.false_ne_true, if_neg Bool.false_ne_true]
      cases operation.delivered? level fanLevel attached index with
      | none => rw [Option.elim_none, Option.toList_none, List.append_nil]
      | some event => rw [Option.elim_some, Option.toList_some, Window.push_keeping]

/-- After any operations on a service and its windows, a window holds the latest of the events that
it received since it was cleared, as many as it has room for, in their order, and what it is asked
is answered about these. -/
theorem windows_hold_latest (level fanLevel : Level) (attached : List Bool)
    (operations : List Operation) (index : Fin attached.length) :
    let window := ((start level fanLevel attached).run operations).window index
    let received := Operation.received level fanLevel attached[index] index
    window.events.toList = (received operations).rtake Limits.logCapacity ∧
      window.events.size = min (received operations).length Limits.logCapacity ∧
      (∀ event, received (operations ++ [.log event]) = received operations ++
        if attached[index] ∧ event.level.rank ≤ level.rank ∧ event.level.rank ≤ fanLevel.rank
        then [event] else []) ∧
      window.errors.toList = window.events.toList.filter (·.level = .error) ∧
      (∀ code, window.hasError code = true ↔
        ∃ event ∈ window.events.toList, event.level = .error ∧ event.code = code) ∧
      ∀ code, window.hasSuccess code = true ↔
        ∃ event ∈ window.events.toList, event.level = .info ∧ event.code = code := by
  intro window received
  have hevents : window.events.toList = (received operations).rtake Limits.logCapacity := by
    have hindex : attached[index.val]? = some attached[index] :=
      List.getElem?_eq_getElem index.isLt
    simp only [window, Service.window, getElem?_targets_run, hindex, Option.map_some,
      Option.getD_some, Window.keeping, received]
  refine ⟨hevents, ?_, ?_, ?_, ?_, ?_⟩
  · rw [← Array.length_toList, hevents, List.rtake, List.length_drop]
    omega
  · intro event
    simp only [received, Operation.received_concat, Operation.clears, Bool.false_eq_true, if_false,
      Operation.delivered?]
    split <;> rfl
  · rw [Window.errors, Array.toList_filter]
    exact List.filter_congr fun event _ => rfl
  · intro code
    rw [Window.hasError, ← Array.any_toList, List.any_eq_true]
    simp [Event.isError]
  · intro code
    rw [Window.hasSuccess, ← Array.any_toList, List.any_eq_true]
    simp [Event.isInfo]

end Service

end YangCheck.Log
