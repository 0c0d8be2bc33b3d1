import YangCheck.Model.Json
import YangCheck.Proofs.Json.Reading

namespace YangCheck.Json

/-- The fields that have a value. -/
def present (fields : List (String × Option Json)) : List (String × Json) :=
  fields.filterMap fun field => field.2.map (field.1, ·)

theorem mapM_map {α β γ : Type} {f : β → Option γ} {g : α → β} {k : α → γ} {l : List α}
    (h : ∀ a ∈ l, f (g a) = some (k a)) : (l.map g).mapM f = some (l.map k) := by
  induction l with
  | nil => rfl
  | cons a l ih =>
    have hl := ih fun b hb => h b (List.mem_cons_of_mem a hb)
    rw [List.map_cons, List.mapM_cons, h a List.mem_cons_self, hl]
    rfl

theorem members_ofFields (fields : List (String × Json)) :
    (ofFields fields).members = some fields := by
  have hread : ∀ field ∈ fields,
      (unescape? (escape field.1.toList)).map (·, field.2) = some (id field) := by
    intro field _
    rw [unescape?_escape, String.ofList_toList]
    rfl
  rw [ofFields, members, mapM_map hread, List.map_id]

theorem present_cons (field : String × Option Json) (fields : List (String × Option Json)) :
    present (field :: fields) = (field.2.map (field.1, ·)).toList ++ present fields := by
  rw [present, List.filterMap_cons]
  cases field.2 <;> rfl

theorem mem_of_mem_present {fields : List (String × Option Json)} {member : String × Json}
    (h : member ∈ present fields) : (member.1, some member.2) ∈ fields := by
  obtain ⟨field, hfield, hmap⟩ := List.mem_filterMap.mp h
  obtain ⟨value, hvalue, rfl⟩ := Option.map_eq_some_iff.mp hmap
  rw [← hvalue]
  exact hfield

theorem filter_present {fields : List (String × Option Json)}
    (hnodup : (fields.map Prod.fst).Nodup) {field : String × Option Json} (h : field ∈ fields) :
    (present fields).filter (·.1 == field.1) = (field.2.map (field.1, ·)).toList := by
  induction fields with
  | nil => cases h
  | cons first fields ih =>
    obtain ⟨hfirst, hrest⟩ := List.nodup_cons.mp hnodup
    rw [present_cons, List.filter_append]
    rcases List.mem_cons.mp h with rfl | hmem
    · have hother : (present fields).filter (·.1 == field.1) = [] := by
        refine List.filter_eq_nil_iff.mpr fun member hmember heq => hfirst ?_
        rw [← beq_iff_eq.mp heq]
        exact List.mem_map_of_mem (mem_of_mem_present hmember)
      rw [hother, List.append_nil]
      cases field.2 <;> simp
    · have hne : first.1 ≠ field.1 := by
        intro heq
        exact hfirst (heq ▸ List.mem_map_of_mem hmem)
      rw [ih hrest hmem]
      cases first.2 <;> simp [hne]

theorem record?_present {fields : List (String × Option Json)}
    (hnodup : (fields.map Prod.fst).Nodup) :
    record? (fields.map Prod.fst) (ofFields (present fields)) = some (fields.map Prod.snd) := by
  have hmembers := members_ofFields (present fields)
  rw [ofFields] at hmembers ⊢
  simp only [record?, hmembers, Option.bind_eq_bind, Option.bind_some]
  refine mapM_map fun field hfield => ?_
  rw [filter_present hnodup hfield]
  cases field.2 <;> rfl

/-- The names that an object gives, in their order. -/
def keys (json : Json) : List String :=
  (json.members.getD []).map Prod.fst

theorem keys_present (fields : List (String × Option Json)) :
    (ofFields (present fields)).keys = (fields.filter (·.2.isSome)).map Prod.fst := by
  rw [keys, members_ofFields, Option.getD_some]
  induction fields with
  | nil => rfl
  | cons field fields ih =>
    obtain ⟨name, value?⟩ := field
    rw [present_cons, List.map_append, ih]
    cases value? <;> rfl

/-- The value that an object gives for a name. -/
def member? (name : String) (json : Json) : Option Json :=
  (json.members.getD []).lookup name

theorem lookup_cons_eq {α : Type} (name key : String) (value : α) (rest : List (String × α)) :
    ((key, value) :: rest).lookup name = if name = key then some value else rest.lookup name := by
  by_cases heq : name = key
  · simp [heq]
  · rw [List.lookup_cons, beq_false_of_ne heq, if_neg heq]

theorem lookup_eq_head?_filter (name : String) (members : List (String × Json)) :
    members.lookup name = ((members.filter (·.1 == name)).head?).map Prod.snd := by
  induction members with
  | nil => rfl
  | cons member members ih =>
    rw [lookup_cons_eq]
    by_cases heq : name = member.1
    · simp [heq]
    · rw [if_neg heq, List.filter_cons_of_neg (by simp [Ne.symm heq])]
      exact ih

theorem member?_present {fields : List (String × Option Json)}
    (hnodup : (fields.map Prod.fst).Nodup) {name : String} {value : Option Json}
    (h : (name, value) ∈ fields) : (ofFields (present fields)).member? name = value := by
  rw [member?, members_ofFields, Option.getD_some, lookup_eq_head?_filter, filter_present hnodup h]
  cases value <;> rfl

/-- The texts that an object gives, under their names. -/
def textsByName? (json : Json) : Option (List (String × String)) :=
  json.members.bind (·.mapM fun member => member.2.text?.map (member.1, ·))

theorem textsByName?_ofFields (entries : List (String × String)) :
    (ofFields (entries.map fun entry => (entry.1, ofString entry.2))).textsByName? =
      some entries := by
  have hread : ∀ entry ∈ entries,
      (ofString entry.2).text?.map (entry.1, ·) = some (id entry) := by
    intro entry _
    rw [text?_ofString]
    rfl
  rw [textsByName?, members_ofFields, Option.bind_some, mapM_map hread, List.map_id]

theorem optional?_map {α : Type} {decode : Json → Option α} {encode : α → Json}
    (h : ∀ a, decode (encode a) = some a) (hnull : ∀ a, encode a ≠ .null) (value : Option α) :
    optional? decode (value.map encode) = some value := by
  cases value with
  | none => rfl
  | some a => simp [optional?, hnull, h]

mutual

/-- How many arrays and objects stand inside each other. -/
def nesting : Json → Nat
  | .array items => nestingOfAll items + 1
  | .object members => nestingOfMembers members + 1
  | _ => 0

def nestingOfAll : List Json → Nat
  | [] => 0
  | item :: items => max (nesting item) (nestingOfAll items)

def nestingOfMembers : List (List Char × Json) → Nat
  | [] => 0
  | (_, value) :: members => max (nesting value) (nestingOfMembers members)

end

theorem nesting_ofString (s : String) : (ofString s).nesting = 0 :=
  rfl

theorem nestingOfAll_map_ofString (texts : List String) :
    nestingOfAll (texts.map ofString) = 0 := by
  induction texts with
  | nil => rfl
  | cons s texts ih => rw [List.map_cons, nestingOfAll, nesting_ofString, ih]; rfl

theorem nesting_present (fields : List (String × Option Json)) :
    (ofFields (present fields)).nesting =
      (fields.map fun field => field.2.elim 0 nesting).foldr max 0 + 1 := by
  rw [ofFields, nesting]
  congr 1
  induction fields with
  | nil => rfl
  | cons field fields ih =>
    rw [present_cons, List.map_cons, List.foldr_cons, ← ih]
    cases field.2 with
    | none => exact (Nat.zero_max _).symm
    | some value => rfl

theorem nesting_text (text : Option String) : (text.map ofString).elim 0 nesting = 0 := by
  cases text <;> rfl

theorem isSpelled_ofString (s : String) : (ofString s).IsSpelled :=
  ⟨s.toList, rfl⟩

theorem isSpelled_of_text {text : Option String} {value : Json}
    (h : text.map ofString = some value) : value.IsSpelled := by
  obtain ⟨s, -, rfl⟩ := Option.map_eq_some_iff.mp h
  exact isSpelled_ofString s

theorem allSpelled_of_forall {items : List Json} (h : ∀ item ∈ items, item.IsSpelled) :
    AllSpelled items := by
  induction items with
  | nil => trivial
  | cons item items ih =>
    obtain ⟨hitem, hitems⟩ := List.forall_mem_cons.mp h
    exact ⟨hitem, ih hitems⟩

theorem isSpelled_ofFields {fields : List (String × Json)}
    (h : ∀ field ∈ fields, field.2.IsSpelled) : (ofFields fields).IsSpelled := by
  change MembersSpelled _
  induction fields with
  | nil => trivial
  | cons field fields ih =>
    obtain ⟨hfield, hfields⟩ := List.forall_mem_cons.mp h
    exact ⟨⟨field.1.toList, rfl⟩, hfield, ih hfields⟩

theorem isSpelled_present {fields : List (String × Option Json)}
    (h : ∀ field ∈ fields, ∀ value, field.2 = some value → value.IsSpelled) :
    (ofFields (present fields)).IsSpelled := by
  refine isSpelled_ofFields fun member hmember => ?_
  exact h _ (mem_of_mem_present hmember) _ rfl

end YangCheck.Json
