import YangCheck.Batch.Run
import YangCheck.Proofs.File.Path

namespace YangCheck.Batch

open Log

/-- A file and what came of it. -/
abbrev Entry := String × Except InspectionError Inspection

namespace Entry

def success? (entry : Entry) : Option (String × Inspection) :=
  match entry.2 with
  | .ok inspection => some (entry.1, inspection)
  | .error _ => none

def failure? (entry : Entry) : Option (String × InspectionError) :=
  match entry.2 with
  | .ok _ => none
  | .error error => some (entry.1, error)

def isFailure (entry : Entry) : Bool :=
  entry.failure?.isSome

/-- Whether no file is taken any more once this one is recorded. -/
def endsBatch (config : Config) (entry : Entry) : Bool :=
  config.failFast && entry.isFailure

variable (path : String) (inspection : Inspection) (error : InspectionError)

theorem success?_ok : success? (path, .ok inspection) = some (path, inspection) := rfl

theorem success?_error : success? (path, .error error) = none := rfl

theorem failure?_ok : failure? (path, .ok inspection) = none := rfl

theorem failure?_error : failure? (path, .error error) = some (path, error) := rfl

theorem fst_of_success? {entry : Entry} {found : String × Inspection}
    (h : entry.success? = some found) : found.1 = entry.1 := by
  obtain ⟨path, result⟩ := entry
  cases result with
  | ok inspection =>
    obtain rfl := Option.some.inj h
    rfl
  | error error => cases h

theorem fst_of_failure? {entry : Entry} {found : String × InspectionError}
    (h : entry.failure? = some found) : found.1 = entry.1 := by
  obtain ⟨path, result⟩ := entry
  cases result with
  | ok inspection => cases h
  | error error =>
    obtain rfl := Option.some.inj h
    rfl

theorem eq_of_failure? {entry : Entry} {path : String} {error : InspectionError}
    (h : entry.failure? = some (path, error)) : entry = (path, .error error) := by
  obtain ⟨name, result⟩ := entry
  cases result with
  | ok inspection => cases h
  | error failure =>
    cases h
    rfl

end Entry

namespace Results

def addAll (r : Results) (entries : List Entry) : Results :=
  entries.foldl (fun r entry => r.add entry.1 entry.2) r

theorem addAll_eq (r : Results) (entries : List Entry) :
    r.addAll entries =
      { r with
        successes := r.successes ++ (entries.filterMap Entry.success?).toArray
        failures := r.failures ++ (entries.filterMap Entry.failure?).toArray
        processed := r.processed + entries.length } := by
  induction entries generalizing r with
  | nil => simp [addAll]
  | cons entry rest ih =>
    obtain ⟨path, result⟩ := entry
    refine (ih _).trans ?_
    cases result with
    | ok inspection =>
      rw [List.filterMap_cons_none (Entry.failure?_ok path inspection),
        List.filterMap_cons_some (Entry.success?_ok path inspection)]
      simp [add, addSuccess]
      omega
    | error error =>
      rw [List.filterMap_cons_none (Entry.success?_error path error),
        List.filterMap_cons_some (Entry.failure?_error path error)]
      simp [add, addFailure]
      omega

/-- The results of a batch of so many files that has come to some entries. -/
def ofEntries (discovered : Nat) (entries : List Entry) : Results where
  successes := (entries.filterMap Entry.success?).toArray
  failures := (entries.filterMap Entry.failure?).toArray
  processed := entries.length
  discovered

theorem addAll_eq_ofEntries (discovered : Nat) (entries : List Entry) :
    addAll { discovered } entries = ofEntries discovered entries := by
  rw [addAll_eq, Array.empty_append, Array.empty_append, Nat.zero_add]
  rfl

theorem mem_failures_ofEntries {discovered : Nat} {entries : List Entry}
    {found : String × InspectionError} :
    found ∈ (ofEntries discovered entries).failures ↔
      ∃ entry ∈ entries, entry.failure? = some found := by
  rw [ofEntries, List.mem_toArray, List.mem_filterMap]

theorem length_filterMap_success?_add (entries : List Entry) :
    (entries.filterMap Entry.success?).length + (entries.filterMap Entry.failure?).length =
      entries.length := by
  induction entries with
  | nil => rfl
  | cons entry rest ih =>
    obtain ⟨path, result⟩ := entry
    cases result with
    | ok inspection =>
      rw [List.filterMap_cons_none (Entry.failure?_ok path inspection),
        List.filterMap_cons_some (Entry.success?_ok path inspection), List.length_cons,
        List.length_cons]
      omega
    | error error =>
      rw [List.filterMap_cons_none (Entry.success?_error path error),
        List.filterMap_cons_some (Entry.failure?_error path error), List.length_cons,
        List.length_cons]
      omega

theorem processed_ofEntries (discovered : Nat) (entries : List Entry) :
    (ofEntries discovered entries).processed =
      (ofEntries discovered entries).successes.size +
        (ofEntries discovered entries).failures.size := by
  rw [ofEntries, List.size_toArray, List.size_toArray, length_filterMap_success?_add]

theorem pairwise_filterMap {α : Type} {find? : Entry → Option (String × α)}
    (hfind : ∀ entry found, find? entry = some found → found.1 = entry.1) {entries : List Entry}
    (h : entries.Pairwise fun a b => Path.less a.1 b.1 = true) :
    (entries.filterMap find?).Pairwise fun a b => Path.less a.1 b.1 = true := by
  refine List.Pairwise.filterMap find? (fun a b hab a' ha b' hb => ?_) h
  rw [hfind a a' ha, hfind b b' hb]
  exact hab

/-- Recording in another order makes no difference once the results are sorted. -/
theorem sortByPath_ofEntries {entries recorded : List Entry} (h : recorded.Perm entries)
    (hsorted : entries.Pairwise fun a b => Path.less a.1 b.1 = true) (discovered : Nat) :
    (ofEntries discovered recorded).sortByPath = ofEntries discovered entries := by
  have hs : Path.sortBy Prod.fst (recorded.filterMap Entry.success?) =
      entries.filterMap Entry.success? :=
    Path.sortBy_eq_of_perm (h.filterMap _)
      (pairwise_filterMap (fun _ _ => Entry.fst_of_success?) hsorted)
  have hf : Path.sortBy Prod.fst (recorded.filterMap Entry.failure?) =
      entries.filterMap Entry.failure? :=
    Path.sortBy_eq_of_perm (h.filterMap _)
      (pairwise_filterMap (fun _ _ => Entry.fst_of_failure?) hsorted)
  simp only [ofEntries, sortByPath, hs, hf, h.length_eq]

end Results

section Work

variable (work : String → Nat → Traced Outcome)

/-- The files of a list, counted from `id` on, and what comes of them. -/
def entriesFrom : (id : Nat) → List String → List Entry
  | _, [] => []
  | id, path :: rest => (path, (work path id).value.result) :: entriesFrom (id + 1) rest

def outcomeAt? (files : List String) (file : Nat) : Option Entry :=
  files[file]?.map fun path => (path, (work path file).value.result)

theorem fst_entriesFrom (id : Nat) (files : List String) :
    (entriesFrom work id files).map Prod.fst = files := by
  induction files generalizing id with
  | nil => rfl
  | cons path rest ih => rw [entriesFrom, List.map_cons, ih]

theorem length_entriesFrom (id : Nat) (files : List String) :
    (entriesFrom work id files).length = files.length := by
  rw [← List.length_map Prod.fst, fst_entriesFrom]

theorem getElem?_entriesFrom (id : Nat) (files : List String) (file : Nat) :
    (entriesFrom work id files)[file]? =
      files[file]?.map fun path => (path, (work path (id + file)).value.result) := by
  induction files generalizing id file with
  | nil => rfl
  | cons path rest ih =>
    cases file with
    | zero => rfl
    | succ file =>
      rw [entriesFrom, List.getElem?_cons_succ, List.getElem?_cons_succ, ih, Nat.add_right_comm]
      rfl

theorem exists_work_of_mem {id : Nat} {files : List String} {path : String}
    {result : Except InspectionError Inspection} (h : (path, result) ∈ entriesFrom work id files) :
    path ∈ files ∧ ∃ file, (work path file).value.result = result := by
  obtain ⟨file, hfile⟩ := List.mem_iff_getElem?.mp h
  rw [getElem?_entriesFrom, Option.map_eq_some_iff] at hfile
  obtain ⟨name, hname, hsame⟩ := hfile
  cases hsame
  exact ⟨List.mem_of_getElem? hname, id + file, rfl⟩

theorem outcomeAt?_eq (files : List String) (file : Nat) :
    outcomeAt? work files file = (entriesFrom work 0 files)[file]? := by
  rw [getElem?_entriesFrom, Nat.zero_add, outcomeAt?]

theorem filterMap_range_outcomeAt? (files : List String) (taken : Nat) :
    (List.range taken).filterMap (outcomeAt? work files) =
      (entriesFrom work 0 files).take taken := by
  induction taken with
  | zero => rfl
  | succ taken ih =>
    rw [List.range_succ, List.filterMap_append, ih, List.take_add_one, ← outcomeAt?_eq]
    cases h : outcomeAt? work files taken with
    | none => rw [List.filterMap_cons_none h]; rfl
    | some entry => rw [List.filterMap_cons_some h]; rfl

theorem value_record (config : Config) (files : List String) (position : Nat)
    (recorded : List Nat) (r : Results) :
    (record work config files.toArray position recorded r).value =
      r.addAll (recorded.filterMap (outcomeAt? work files)) := by
  induction recorded generalizing position r with
  | nil => rfl
  | cons file rest ih =>
    rw [record, List.getElem?_toArray]
    cases hfile : files[file]? with
    | none =>
      have hnone : outcomeAt? work files file = none := by rw [outcomeAt?, hfile]; rfl
      rw [List.filterMap_cons_none hnone]
      exact ih position r
    | some path =>
      have hentry : outcomeAt? work files file = some (path, (work path file).value.result) := by
        rw [outcomeAt?, hfile]
        rfl
      rw [List.filterMap_cons_some hentry]
      exact ih (position + 1) _

/-- The files that are reached one after another: all of them, or those up to the first that ends
the batch. -/
def reached (config : Config) (entries : List Entry) : List Entry :=
  entries.take (entries.findIdx (Entry.endsBatch config) + 1)

theorem reached_cons (config : Config) (entry : Entry) (rest : List Entry) :
    reached config (entry :: rest) =
      entry :: if entry.endsBatch config then [] else reached config rest := by
  cases h : entry.endsBatch config <;> simp [reached, List.findIdx_cons, h]

theorem reached_of_not_failFast {config : Config} (h : config.failFast = false)
    (entries : List Entry) : reached config entries = entries := by
  induction entries with
  | nil => rfl
  | cons entry rest ih => simp [reached_cons, Entry.endsBatch, h, ih]

theorem isFailure_outcome (path : String) (outcome : Outcome) :
    outcome.isFailure = Entry.isFailure (path, outcome.result) := by
  rw [Outcome.isFailure, Entry.isFailure, Entry.failure?]
  cases outcome.result <;> rfl

theorem value_runInOrder [Limits] (config : Config) (total id : Nat) (files : List String)
    (r : Results) :
    (runInOrder work config total id files r).value =
      r.addAll (reached config (entriesFrom work id files)) := by
  induction files generalizing id r with
  | nil => rfl
  | cons path rest ih =>
    have hends : Entry.endsBatch config (path, (work path id).value.result) =
        ((work path id).value.isFailure && config.failFast) := by
      rw [Entry.endsBatch, isFailure_outcome path, Bool.and_comm]
    rw [runInOrder, entriesFrom, reached_cons, hends]
    simp only [Traced.value_bind]
    cases (work path id).value.isFailure && config.failFast with
    | true => rfl
    | false => exact ih (id + 1) _

end Work

end YangCheck.Batch
