import Mathlib.Data.List.Induction
import Std.Data.String.ToNat
import YangCheck.Log.Event
import YangCheck.Proofs.Json.Control
import YangCheck.Proofs.Json.Record

namespace YangCheck.Log

namespace Context

theorem lookup_insert (key value : String) (context : Context) (name : String) :
    (context.insert key value).lookup name =
      if name = key then some value else context.lookup name := by
  induction context with
  | nil => exact Json.lookup_cons_eq name key value []
  | cons entry rest ih =>
    obtain ⟨k, v⟩ := entry
    rw [Context.insert]
    split
    case isTrue => exact Json.lookup_cons_eq name key value _
    case isFalse =>
      split
      case isTrue heq =>
        subst heq
        rw [Json.lookup_cons_eq, Json.lookup_cons_eq]
        split <;> rfl
      case isFalse hne =>
        rw [Json.lookup_cons_eq, Json.lookup_cons_eq, ih]
        by_cases hk : name = k
        · rw [if_pos hk, if_pos hk, if_neg (hk.trans_ne (Ne.symm hne))]
        · rw [if_neg hk, if_neg hk]

theorem eq_or_mem_of_mem_insert {key value : String} {context : Context}
    {entry : String × String} (h : entry ∈ context.insert key value) :
    entry.1 = key ∨ entry ∈ context := by
  induction context with
  | nil => exact .inl (congrArg Prod.fst (List.mem_singleton.mp h))
  | cons first rest ih =>
    obtain ⟨k, v⟩ := first
    rw [Context.insert] at h
    split at h
    case isTrue =>
      rcases List.mem_cons.mp h with rfl | hmem
      · exact .inl rfl
      · exact .inr hmem
    case isFalse =>
      split at h
      case isTrue =>
        rcases List.mem_cons.mp h with rfl | hmem
        · exact .inl rfl
        · exact .inr (List.mem_cons_of_mem _ hmem)
      case isFalse =>
        rcases List.mem_cons.mp h with rfl | hmem
        · exact .inr List.mem_cons_self
        · exact (ih hmem).imp_right (List.mem_cons_of_mem _)

theorem pairwise_insert (key value : String) {context : Context}
    (h : context.Pairwise (·.1 < ·.1)) : (context.insert key value).Pairwise (·.1 < ·.1) := by
  induction context with
  | nil => exact List.pairwise_singleton _ _
  | cons first rest ih =>
    obtain ⟨k, v⟩ := first
    obtain ⟨hfirst, hrest⟩ := List.pairwise_cons.mp h
    rw [Context.insert]
    split
    case isTrue hlt =>
      refine List.pairwise_cons.mpr ⟨fun entry hentry => ?_, h⟩
      rcases List.mem_cons.mp hentry with rfl | hmem
      · exact hlt
      · exact String.lt_trans hlt (hfirst entry hmem)
    case isFalse hge =>
      split
      case isTrue heq =>
        subst heq
        exact List.pairwise_cons.mpr ⟨hfirst, hrest⟩
      case isFalse hne =>
        refine List.pairwise_cons.mpr ⟨fun entry hentry => ?_, ih hrest⟩
        rcases eq_or_mem_of_mem_insert hentry with heq | hmem
        · rw [heq]
          exact Std.lt_of_le_of_ne (String.not_lt.mp hge) (Ne.symm hne)
        · exact hfirst entry hmem

theorem insert_ne_nil (key value : String) (context : Context) :
    context.insert key value ≠ [] := by
  intro hnil
  have hlookup := lookup_insert key value context key
  rw [hnil, if_pos rfl] at hlookup
  cases hlookup

/-- The context that entries make one after another. -/
def ofEntries (entries : List (String × String)) : Context :=
  entries.foldl (fun context entry => context.insert entry.1 entry.2) []

theorem ofEntries_concat (entries : List (String × String)) (entry : String × String) :
    ofEntries (entries ++ [entry]) = (ofEntries entries).insert entry.1 entry.2 := by
  rw [ofEntries, List.foldl_append]
  rfl

theorem pairwise_ofEntries (entries : List (String × String)) :
    (ofEntries entries).Pairwise (·.1 < ·.1) := by
  induction entries using List.reverseRecOn with
  | nil => exact List.Pairwise.nil
  | append_singleton entries entry ih =>
    rw [ofEntries_concat]
    exact pairwise_insert entry.1 entry.2 ih

theorem lookup_ofEntries (entries : List (String × String)) (key : String) :
    (ofEntries entries).lookup key =
      (entries.filter (·.1 = key)).getLast?.map Prod.snd := by
  induction entries using List.reverseRecOn with
  | nil => rfl
  | append_singleton entries entry ih =>
    rw [ofEntries_concat, lookup_insert, ih, List.filter_append]
    by_cases heq : entry.1 = key
    · simp [heq]
    · simp [heq, Ne.symm heq]

theorem ofEntries_eq_nil_iff (entries : List (String × String)) :
    ofEntries entries = [] ↔ entries = [] := by
  induction entries using List.reverseRecOn with
  | nil => exact ⟨fun _ => rfl, fun _ => rfl⟩
  | append_singleton entries entry ih =>
    rw [ofEntries_concat]
    exact ⟨fun h => absurd h (insert_ne_nil _ _ _), fun h => absurd h (List.concat_ne_nil _ _)⟩

end Context

/-- What may be added to an event once it is made. -/
inductive Attachment where
  | line (number : Nat)
  | entry (key value : String)
deriving DecidableEq, Repr

namespace Attachment

def line? : Attachment → Option Nat
  | .line number => some number
  | .entry _ _ => none

def entry? : Attachment → Option (String × String)
  | .line _ => none
  | .entry key value => some (key, value)

end Attachment

namespace Event

def attach (event : Event) : Attachment → Event
  | .line number => event.atLine number
  | .entry key value => event.add key value

def attachAll (event : Event) (attachments : List Attachment) : Event :=
  attachments.foldl attach event

/-- The fields of a log line, whether they have a value or not. -/
def fields (event : Event) (time : Timestamp) : List (String × Option Json) :=
  [("action", if event.isError then some (Json.ofString event.code.action) else none),
    ("category", some (Json.ofString event.category)),
    ("code", some (Json.ofString event.code.text)),
    ("context", if event.context.isEmpty then none
      else some (Json.ofFields (event.context.map fun entry => (entry.1, Json.ofString entry.2)))),
    ("level", some (Json.ofString event.level.label)),
    ("line", event.line.map Json.ofNat),
    ("message", some (Json.ofString event.message)),
    ("severity", some (Json.ofString event.severity.name)),
    ("timestamp", some (Json.ofString time.render))]

theorem toJson_eq_present (event : Event) (time : Timestamp) :
    event.toJson time = Json.ofFields (Json.present (event.fields time)) := by
  rw [toJson, fields]
  cases event.isError <;> cases event.context.isEmpty <;> cases event.line <;> rfl

theorem nodup_fields (event : Event) (time : Timestamp) :
    ((event.fields time).map Prod.fst).Nodup := by
  change ["action", "category", "code", "context", "level", "line", "message", "severity",
    "timestamp"].Nodup
  decide

theorem isSpelled_toJson (event : Event) (time : Timestamp) : (event.toJson time).IsSpelled := by
  have htext (text : String) (value : Json) (h : some (Json.ofString text) = some value) :
      value.IsSpelled := by
    cases h
    exact Json.isSpelled_ofString text
  have haction (value : Json) (h : (if event.isError then
      some (Json.ofString event.code.action) else none) = some value) : value.IsSpelled :=
    htext _ value (Option.ite_none_right_eq_some.mp h).2
  have hcontext (value : Json) (h : (if event.context.isEmpty then none
      else some (Json.ofFields (event.context.map fun entry =>
        (entry.1, Json.ofString entry.2)))) = some value) : value.IsSpelled := by
    obtain ⟨-, hsome⟩ := Option.ite_none_left_eq_some.mp h
    cases hsome
    refine Json.isSpelled_ofFields fun member hmember => ?_
    obtain ⟨entry, -, rfl⟩ := List.mem_map.mp hmember
    exact Json.isSpelled_ofString entry.2
  have hline (value : Json) (h : event.line.map Json.ofNat = some value) : value.IsSpelled := by
    obtain ⟨number, -, rfl⟩ := Option.map_eq_some_iff.mp h
    exact ⟨number, rfl⟩
  rw [toJson_eq_present]
  apply Json.isSpelled_present
  simp only [fields, List.forall_mem_cons]
  exact ⟨haction, htext _, htext _, hcontext, htext _, hline, htext _, htext _, htext _, nofun⟩

theorem keys_toJson (event : Event) (time : Timestamp) :
    (event.toJson time).keys = (if event.level = .error then ["action"] else []) ++
      ["category", "code"] ++ (if event.context = [] then [] else ["context"]) ++ ["level"] ++
      (if event.line = none then [] else ["line"]) ++ ["message", "severity", "timestamp"] := by
  rw [toJson_eq_present, Json.keys_present, fields, isError]
  obtain ⟨level, code, message, line, context⟩ := event
  cases level <;> cases line <;> cases context <;> rfl

theorem member?_toJson (event : Event) (time : Timestamp) {name : String} {value : Option Json}
    (h : (name, value) ∈ event.fields time) : (event.toJson time).member? name = value := by
  rw [toJson_eq_present]
  exact Json.member?_present (event.nodup_fields time) h

section attachAll

variable {event : Event}

theorem attachAll_concat (attachments : List Attachment) (attachment : Attachment) :
    event.attachAll (attachments ++ [attachment]) =
      (event.attachAll attachments).attach attachment := by
  rw [attachAll, List.foldl_append]
  rfl

theorem attachAll_eq (event : Event) (attachments : List Attachment) :
    (event.attachAll attachments).level = event.level ∧
      (event.attachAll attachments).code = event.code ∧
      (event.attachAll attachments).message = event.message := by
  induction attachments using List.reverseRecOn with
  | nil => exact ⟨rfl, rfl, rfl⟩
  | append_singleton attachments attachment ih =>
    rw [attachAll_concat]
    cases attachment <;> exact ih

theorem line_attachAll (hline : event.line = none) (attachments : List Attachment) :
    (event.attachAll attachments).line = (attachments.filterMap Attachment.line?).getLast? := by
  induction attachments using List.reverseRecOn with
  | nil => exact hline
  | append_singleton attachments attachment ih =>
    rw [attachAll_concat, List.filterMap_append]
    cases attachment with
    | line number => exact List.getLast?_concat.symm
    | entry key value =>
      change (event.attachAll attachments).line = _
      rw [ih]
      exact congrArg List.getLast? (List.append_nil _).symm

theorem context_attachAll (hcontext : event.context = []) (attachments : List Attachment) :
    (event.attachAll attachments).context =
      Context.ofEntries (attachments.filterMap Attachment.entry?) := by
  induction attachments using List.reverseRecOn with
  | nil => exact hcontext
  | append_singleton attachments attachment ih =>
    rw [attachAll_concat, List.filterMap_append]
    cases attachment with
    | line number =>
      change (event.attachAll attachments).context = _
      rw [ih]
      exact congrArg Context.ofEntries (List.append_nil _).symm
    | entry key value =>
      change (event.attachAll attachments).context.insert key value = _
      rw [ih]
      exact (Context.ofEntries_concat _ (key, value)).symm

end attachAll

/-- Whatever texts an event holds, its log line is one line, and it is read back as an object with
the keys that it has values for. The message is read back as it was kept, the number as it was
attached last, and each key of the context with the value that was given for it last. -/
theorem json_line_is_lossless [Limits] (level : Level) (code : Code) (message : String)
    (attachments : List Attachment) (time : Timestamp) :
    let event := (make level code message).attachAll attachments
    let numbers := attachments.filterMap Attachment.line?
    let entries := attachments.filterMap Attachment.entry?
    (∀ c ∈ (event.toJson time).compact.toList, 0x20 ≤ c.toNat) ∧
      ∃ json, Json.parse? (event.toJson time).compact = some json ∧
        json.keys = (if level = .error then ["action"] else []) ++ ["category", "code"] ++
          (if entries = [] then [] else ["context"]) ++ ["level"] ++
          (if numbers = [] then [] else ["line"]) ++ ["message", "severity", "timestamp"] ∧
        (json.member? "timestamp").bind Json.text? = some time.render ∧
        (json.member? "level").bind Json.text? = some level.label ∧
        (json.member? "code").bind Json.text? = some code.text ∧
        (json.member? "category").bind Json.text? = some code.category ∧
        (json.member? "severity").bind Json.text? = some code.severity.name ∧
        (json.member? "action").bind Json.text? =
          (if level = .error then some code.action else none) ∧
        (json.member? "message").bind Json.text? = some (limitMessage message) ∧
        (json.member? "line").bind Json.nat? = numbers.getLast? ∧
        ∃ context : Context,
          (json.member? "context").bind Json.textsByName? =
            (if entries = [] then none else some context) ∧
          context.Pairwise (·.1 < ·.1) ∧
          ∀ key, context.lookup key = (entries.filter (·.1 = key)).getLast?.map Prod.snd := by
  intro event numbers entries
  obtain ⟨hlevel, hcode, hmessage⟩ := attachAll_eq (make level code message) attachments
  have hline : event.line = numbers.getLast? := line_attachAll rfl attachments
  have hcontext : event.context = Context.ofEntries entries := context_attachAll rfl attachments
  have hspelled := event.isSpelled_toJson time
  have hfields : ∀ field ∈ event.fields time, (event.toJson time).member? field.1 = field.2 :=
    fun _ => event.member?_toJson time
  simp only [fields, List.forall_mem_cons] at hfields
  obtain ⟨haction, hcategory, hcodeText, hentries, hlevelText, hnumber, hmessageText, hseverity,
    htime, -⟩ := hfields
  refine ⟨Json.isPrintable_compact hspelled, event.toJson time, Json.parse?_compact hspelled,
    ?_, ?_, ?_, ?_, ?_, ?_, ?_, ?_, ?_, Context.ofEntries entries, ?_,
    Context.pairwise_ofEntries entries, Context.lookup_ofEntries entries⟩
  · rw [keys_toJson, hlevel, hline, hcontext]
    simp only [Context.ofEntries_eq_nil_iff, List.getLast?_eq_none_iff]
    rfl
  · rw [htime, Option.bind_some, Json.text?_ofString]
  · rw [hlevelText, Option.bind_some, Json.text?_ofString, hlevel]
    rfl
  · rw [hcodeText, Option.bind_some, Json.text?_ofString, hcode]
    rfl
  · rw [hcategory, Option.bind_some, Json.text?_ofString, category, hcode]
    rfl
  · rw [hseverity, Option.bind_some, Json.text?_ofString, severity, hcode]
    rfl
  · rw [haction, isError, hlevel, hcode]
    cases level <;> simp [make, Json.text?_ofString]
  · rw [hmessageText, Option.bind_some, Json.text?_ofString, hmessage]
    rfl
  · rw [hnumber, hline]
    cases numbers.getLast? with
    | none => rfl
    | some number => exact Nat.toNat?_repr number
  · rw [hentries, hcontext]
    by_cases hnone : entries = []
    · simp [hnone, Context.ofEntries]
    · have hsome : (Context.ofEntries entries).isEmpty = false := by
        simpa [Context.ofEntries_eq_nil_iff] using hnone
      simp [hnone, hsome, Json.textsByName?_ofFields]

end Event

end YangCheck.Log
