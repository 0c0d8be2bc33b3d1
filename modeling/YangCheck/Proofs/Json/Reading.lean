import YangCheck.Proofs.Json.Layout
import YangCheck.Proofs.Json.Literal
import YangCheck.Proofs.Json.Number

namespace YangCheck.Json

mutual

/-- Strings and keys are the escaped forms of texts, and numbers are natural ones. -/
def IsSpelled : Json → Prop
  | .null | .bool _ => True
  | .number literal => ∃ n, literal = Nat.toDigits 10 n
  | .string literal => ∃ s, literal = escape s
  | .array items => AllSpelled items
  | .object members => MembersSpelled members

def AllSpelled : List Json → Prop
  | [] => True
  | item :: items => IsSpelled item ∧ AllSpelled items

def MembersSpelled : List (List Char × Json) → Prop
  | [] => True
  | (key, value) :: members => (∃ s, key = escape s) ∧ IsSpelled value ∧ MembersSpelled members

end

/-- All that a layout adds are blanks. -/
structure Layout.IsBlank (layout : Layout) : Prop where
  margin : ∀ depth, ∀ c ∈ layout.margin depth, isSpace c = true
  gap : ∀ c ∈ layout.gap, isSpace c = true

theorem Layout.isBlank_compact : compact.IsBlank where
  margin := fun _ => List.forall_mem_nil _
  gap := List.forall_mem_nil _

theorem Layout.isBlank_pretty : pretty.IsBlank where
  margin := by
    intro depth c hc
    rcases List.mem_cons.mp hc with rfl | hspace
    · rfl
    · rw [List.eq_of_mem_replicate hspace]
      rfl
  gap := List.all_eq_true.mp rfl

section blanks

variable {blanks : List Char} (h : ∀ c ∈ blanks, isSpace c = true)

include h

theorem skipSpaces_append (s : List Char) : skipSpaces (blanks ++ s) = skipSpaces s :=
  List.dropWhile_append_of_pos h

theorem value?_append (fuel : Nat) (s : List Char) :
    value? fuel (blanks ++ s) = value? fuel s := by
  cases fuel with
  | zero => rfl
  | succ fuel => rw [value?, value?, skipSpaces_append h]

theorem items?_append (fuel : Nat) (s : List Char) :
    items? fuel (blanks ++ s) = items? fuel s := by
  cases fuel with
  | zero => rfl
  | succ fuel => rw [items?, items?, value?_append h]

theorem members?_append (fuel : Nat) (s : List Char) :
    members? fuel (blanks ++ s) = members? fuel s := by
  cases fuel with
  | zero => rfl
  | succ fuel => rw [members?, members?, skipSpaces_append h]

theorem ends_append {c : Char} (hc : c ∈ [',', ']', '}']) (rest : List Char) :
    Ends (blanks ++ c :: rest) := by
  intro first hfirst
  cases blanks with
  | nil =>
    cases hfirst
    exact .inr hc
  | cons blank blanks =>
    cases hfirst
    exact .inl (h first List.mem_cons_self)

end blanks

theorem skipSpaces_cons {c : Char} (h : isSpace c = false) (s : List Char) :
    skipSpaces (c :: s) = c :: s :=
  List.dropWhile_cons_of_neg (by rw [h]; exact Bool.false_ne_true)

theorem isSpace_of_isDigit {c : Char} (h : c.isDigit = true) : isSpace c = false := by
  cases hspace : isSpace c with
  | false => rfl
  | true =>
    have hnot := not_digit c (List.mem_append_left _ (mem_of_isSpace hspace))
    rw [hnot] at h
    cases h

section step

variable {fuel : Nat} {s more next rest : List Char} {item value : Json} {items : List Json}
  {members : List (List Char × Json)}

theorem value?_number (n fuel : Nat) (h : Ends rest) :
    value? (fuel + 1) (Nat.toDigits 10 n ++ rest) = some (ofNat n, rest) := by
  have hnumber := number?_toDigits n h
  obtain ⟨first, others, hdigits, hfirst, -⟩ := exists_toDigits n
  have hother : first ∉ ['n', 't', 'f', '"', '[', '{', '-', ']'] := by
    intro hmem
    have hnot := not_digit first (List.mem_append_right [' ', '\n', '\t', '\r'] hmem)
    rw [hnot] at hfirst
    cases hfirst
  simp only [List.mem_cons, List.not_mem_nil, or_false, not_or] at hother
  rw [hdigits, List.cons_append] at hnumber ⊢
  rw [value?, skipSpaces_cons (isSpace_of_isDigit hfirst)]
  simp [hother, hnumber]

theorem value?_string (s : List Char) (fuel : Nat) (rest : List Char) :
    value? (fuel + 1) (quote (escape s) rest) = some (.string (escape s), rest) := by
  have hquote : skipSpaces (quote (escape s) rest) = quote (escape s) rest := skipSpaces_cons rfl _
  rw [value?, hquote, quote]
  simp [stringFrom_escape]

theorem value?_array {c : Char} (hskip : skipSpaces s = c :: next) (hc : c ≠ ']')
    (h : items? fuel (c :: next) = some (items, rest)) :
    value? (fuel + 1) ('[' :: s) = some (.array items, rest) := by
  rw [value?, skipSpaces_cons rfl]
  simp [hskip, hc, h]

theorem value?_object {c : Char} (hskip : skipSpaces s = c :: next) (hc : c ≠ '}')
    (h : members? fuel (c :: next) = some (members, rest)) :
    value? (fuel + 1) ('\x7b' :: s) = some (.object members, rest) := by
  rw [value?, skipSpaces_cons rfl]
  simp [hskip, hc, h]

theorem items?_last (h : value? fuel s = some (item, more))
    (hskip : skipSpaces more = ']' :: rest) : items? (fuel + 1) s = some ([item], rest) := by
  rw [items?, h]
  simp [hskip]

theorem items?_cons (h : value? fuel s = some (item, more)) (hskip : skipSpaces more = ',' :: next)
    (hitems : items? fuel next = some (items, rest)) :
    items? (fuel + 1) s = some (item :: items, rest) := by
  rw [items?, h]
  simp [hskip, hitems]

theorem members?_last (key : List Char) (h : value? fuel s = some (value, more))
    (hskip : skipSpaces more = '}' :: rest) :
    members? (fuel + 1) (quote (escape key) (':' :: s)) = some ([(escape key, value)], rest) := by
  rw [members?, quote, List.cons_append, skipSpaces_cons rfl]
  simp [stringFrom_escape, skipSpaces_cons (c := ':') rfl, h, hskip]

theorem members?_cons (key : List Char) (h : value? fuel s = some (value, more))
    (hskip : skipSpaces more = ',' :: next)
    (hmembers : members? fuel next = some (members, rest)) :
    members? (fuel + 1) (quote (escape key) (':' :: s)) =
      some ((escape key, value) :: members, rest) := by
  rw [members?, quote, List.cons_append, skipSpaces_cons rfl]
  simp [stringFrom_escape, skipSpaces_cons (c := ':') rfl, h, hskip, hmembers]

end step

namespace Layout

variable (layout : Layout)

mutual

theorem length_le_write (depth : Nat) : (json : Json) → (rest : List Char) →
    rest.length ≤ (layout.write depth json rest).length
  | .null, _ | .bool true, _ | .bool false, _ | .array [], _ | .object [], _ => by
    simp only [write, List.length_cons]
    omega
  | .number _, _ => by
    rw [write, List.length_append]
    exact Nat.le_add_left _ _
  | .string _, _ => by
    simp only [write, quote, List.length_cons, List.length_append]
    omega
  | .array (item :: items), rest => by
    have hitem := length_le_write (depth + 1) item (layout.writeItems depth items rest)
    have hitems := length_le_writeItems depth items rest
    simp only [write, List.length_cons, List.length_append]
    omega
  | .object ((key, value) :: members), rest => by
    have hvalue := length_le_write (depth + 1) value (layout.writeMembers depth members rest)
    have hmembers := length_le_writeMembers depth members rest
    simp only [write, quote, List.length_cons, List.length_append]
    omega

theorem length_le_writeItems (depth : Nat) : (items : List Json) → (rest : List Char) →
    rest.length ≤ (layout.writeItems depth items rest).length
  | [], rest => by
    simp only [writeItems, List.length_cons, List.length_append]
    omega
  | item :: items, rest => by
    have hitem := length_le_write (depth + 1) item (layout.writeItems depth items rest)
    have hitems := length_le_writeItems depth items rest
    simp only [writeItems, List.length_cons, List.length_append]
    omega

theorem length_le_writeMembers (depth : Nat) : (members : List (List Char × Json)) →
    (rest : List Char) → rest.length ≤ (layout.writeMembers depth members rest).length
  | [], rest => by
    simp only [writeMembers, List.length_cons, List.length_append]
    omega
  | (key, value) :: members, rest => by
    have hvalue := length_le_write (depth + 1) value (layout.writeMembers depth members rest)
    have hmembers := length_le_writeMembers depth members rest
    simp only [writeMembers, quote, List.length_cons, List.length_append]
    omega

end

/-- What a value starts with is neither a blank nor the end of an array. -/
theorem exists_write (depth : Nat) (json : Json) (h : json.IsSpelled) (rest : List Char) :
    ∃ c tail, layout.write depth json rest = c :: tail ∧ isSpace c = false ∧ c ≠ ']' := by
  match json, h with
  | .null, _ => exact ⟨'n', _, rfl, rfl, by decide⟩
  | .bool true, _ => exact ⟨'t', _, rfl, rfl, by decide⟩
  | .bool false, _ => exact ⟨'f', _, rfl, rfl, by decide⟩
  | .string _, _ => exact ⟨'"', _, rfl, rfl, by decide⟩
  | .array [], _ | .array (_ :: _), _ => exact ⟨'[', _, rfl, rfl, by decide⟩
  | .object [], _ | .object (_ :: _), _ => exact ⟨'\x7b', _, rfl, rfl, by decide⟩
  | .number literal, ⟨n, hn⟩ =>
    subst hn
    obtain ⟨first, others, hdigits, hfirst, -⟩ := exists_toDigits n
    refine ⟨first, others ++ rest, ?_, isSpace_of_isDigit hfirst, ?_⟩
    · rw [write, hdigits]
      rfl
    · rintro rfl
      cases hfirst

variable {layout}

theorem ends_writeItems (h : layout.IsBlank) (depth : Nat) (items : List Json) (rest : List Char) :
    Ends (layout.writeItems depth items rest) := by
  cases items with
  | nil => exact ends_append (h.margin depth) (by decide) rest
  | cons item items => exact @ends_append [] (List.forall_mem_nil _) _ (by decide) _

theorem ends_writeMembers (h : layout.IsBlank) (depth : Nat) (members : List (List Char × Json))
    (rest : List Char) : Ends (layout.writeMembers depth members rest) := by
  cases members with
  | nil => exact ends_append (h.margin depth) (by decide) rest
  | cons member members => exact @ends_append [] (List.forall_mem_nil _) _ (by decide) _

mutual

/-- Two steps for each character that a value is written with are enough to read it. -/
theorem value?_write (h : layout.IsBlank) : (json : Json) → json.IsSpelled →
    ∀ (depth fuel : Nat) (rest : List Char), Ends rest →
      2 * (layout.write depth json rest).length ≤ fuel + 2 * rest.length →
      value? (fuel + 1) (layout.write depth json rest) = some (json, rest)
  | .null, _, _, _, _, _, _ => rfl
  | .bool true, _, _, _, _, _, _ => rfl
  | .bool false, _, _, _, _, _, _ => rfl
  | .number _, ⟨n, rfl⟩, _, fuel, _, hends, _ => value?_number n fuel hends
  | .string _, ⟨s, rfl⟩, _, fuel, rest, _, _ => value?_string s fuel rest
  | .array items, hitems, depth, fuel, rest, _, hfuel => by
    have hread := items?_write h items hitems depth fuel rest
    cases items with
    | nil => rfl
    | cons item items =>
      obtain ⟨c, tail, hc, hspace, hclose⟩ :=
        layout.exists_write (depth + 1) item hitems.1 (layout.writeItems depth items rest)
      have hall := hread (List.cons_ne_nil item items) hfuel
      rw [writeItems, List.tail_cons, items?_append (h.margin (depth + 1)), hc] at hall
      refine value?_array ?_ hclose hall
      rw [skipSpaces_append (h.margin (depth + 1)), hc, skipSpaces_cons hspace]
  | .object members, hmembers, depth, fuel, rest, _, hfuel => by
    have hread := members?_write h members hmembers depth fuel rest
    cases members with
    | nil => rfl
    | cons member members =>
      have hall := hread (List.cons_ne_nil member members) hfuel
      rw [writeMembers, List.tail_cons, members?_append (h.margin (depth + 1))] at hall
      refine value?_object ?_ (by decide) hall
      rw [skipSpaces_append (h.margin (depth + 1))]
      exact skipSpaces_cons rfl _

theorem items?_write (h : layout.IsBlank) : (items : List Json) → AllSpelled items →
    ∀ (depth fuel : Nat) (rest : List Char), items ≠ [] →
      2 * (layout.writeItems depth items rest).length ≤ fuel + 2 * rest.length →
      items? fuel (layout.writeItems depth items rest).tail = some (items, rest)
  | [], _, _, _, _, hne, _ => absurd rfl hne
  | item :: items, ⟨hitem, hitems⟩, depth, fuel, rest, _, hfuel => by
    have hlength := layout.length_le_write (depth + 1) item (layout.writeItems depth items rest)
    have hrest := layout.length_le_writeItems depth items rest
    simp only [writeItems, List.length_cons, List.length_append] at hfuel
    -- The comma or the bracket in front pays for a step of the list and a step of the value.
    obtain ⟨fuel, rfl⟩ : ∃ f, fuel = f + 2 := ⟨fuel - 2, by omega⟩
    have hread : value? (fuel + 1) _ = some (item, layout.writeItems depth items rest) :=
      value?_write h item hitem (depth + 1) fuel _ (ends_writeItems h depth items rest) (by omega)
    have hmore := items?_write h items hitems depth (fuel + 1) rest
    rw [writeItems, List.tail_cons, items?_append (h.margin (depth + 1))]
    cases items with
    | nil => exact items?_last hread (skipSpaces_append (h.margin depth) _)
    | cons next items =>
      have hall := hmore (List.cons_ne_nil next items) (by omega)
      exact items?_cons hread (skipSpaces_cons rfl _) hall

theorem members?_write (h : layout.IsBlank) : (members : List (List Char × Json)) →
    MembersSpelled members → ∀ (depth fuel : Nat) (rest : List Char), members ≠ [] →
      2 * (layout.writeMembers depth members rest).length ≤ fuel + 2 * rest.length →
      members? fuel (layout.writeMembers depth members rest).tail = some (members, rest)
  | [], _, _, _, _, hne, _ => absurd rfl hne
  | (_, value) :: members, ⟨⟨key, rfl⟩, hvalue, hmembers⟩, depth, fuel, rest, _, hfuel => by
    have hlength :=
      layout.length_le_write (depth + 1) value (layout.writeMembers depth members rest)
    have hrest := layout.length_le_writeMembers depth members rest
    simp only [writeMembers, quote, List.length_cons, List.length_append] at hfuel
    obtain ⟨fuel, rfl⟩ : ∃ f, fuel = f + 2 := ⟨fuel - 2, by omega⟩
    have hread : value? (fuel + 1) _ = some (value, layout.writeMembers depth members rest) :=
      value?_write h value hvalue (depth + 1) fuel _ (ends_writeMembers h depth members rest)
        (by omega)
    rw [← value?_append h.gap] at hread
    have hmore := members?_write h members hmembers depth (fuel + 1) rest
    rw [writeMembers, List.tail_cons, members?_append (h.margin (depth + 1))]
    cases members with
    | nil => exact members?_last key hread (skipSpaces_append (h.margin depth) _)
    | cons next members =>
      have hall := hmore (List.cons_ne_nil next members) (by omega)
      exact members?_cons key hread (skipSpaces_cons rfl _) hall

end

theorem parse?_write (h : layout.IsBlank) {json : Json} (hjson : json.IsSpelled) :
    parse? (String.ofList (layout.write 0 json [])) = some json := by
  have hends : Ends [] := fun c hc => nomatch hc
  rw [parse?, String.toList_ofList]
  have hread := value?_write h json hjson 0 (2 * (layout.write 0 json []).length + 1) [] hends
    (Nat.le_succ _)
  simp [hread, skipSpaces]

end Layout

theorem parse?_compact {json : Json} (h : json.IsSpelled) : parse? json.compact = some json := by
  rw [compact, ← Layout.write_compact 0]
  exact Layout.parse?_write Layout.isBlank_compact h

theorem parse?_pretty {json : Json} (h : json.IsSpelled) : parse? json.pretty = some json := by
  rw [pretty, ← Layout.write_pretty]
  exact Layout.parse?_write Layout.isBlank_pretty h

end YangCheck.Json
