import YangCheck.Proofs.Json.Reading

namespace YangCheck.Json

/-- A text without control characters below the space. -/
def IsPrintable (s : List Char) : Prop :=
  ∀ c ∈ s, 0x20 ≤ c.toNat

theorem isPrintable_append {a b : List Char} :
    IsPrintable (a ++ b) ↔ IsPrintable a ∧ IsPrintable b :=
  List.forall_mem_append

theorem isPrintable_cons {c : Char} {s : List Char} :
    IsPrintable (c :: s) ↔ 0x20 ≤ c.toNat ∧ IsPrintable s :=
  List.forall_mem_cons

theorem isPrintable_hexDigit : ∀ n < 16, 0x20 ≤ (hexDigit n).toNat := by
  decide

theorem isPrintable_escapeChar (c : Char) : IsPrintable (escapeChar c) := by
  fun_cases escapeChar c
  case case8 hcontrol =>
    have hhigh := isPrintable_hexDigit (c.toNat / 16) (by omega)
    have hlow := isPrintable_hexDigit (c.toNat % 16) (by omega)
    simp [IsPrintable, hhigh, hlow]
  case case9 hplain =>
    rw [IsPrintable, List.forall_mem_singleton]
    exact Nat.le_of_not_lt hplain
  all_goals
    simp [IsPrintable]

theorem isPrintable_escape (s : List Char) : IsPrintable (escape s) := by
  induction s with
  | nil => exact List.forall_mem_nil _
  | cons c s ih =>
    rw [escape_cons, isPrintable_append]
    exact ⟨isPrintable_escapeChar c, ih⟩

theorem isPrintable_toDigits (n : Nat) : IsPrintable (Nat.toDigits 10 n) := by
  intro c hc
  have hdigit := Nat.isDigit_of_mem_toDigits (by decide) (by decide) hc
  have hzero : 48 ≤ c.toNat := by
    rw [Char.isDigit, Bool.and_eq_true, decide_eq_true_iff] at hdigit
    exact hdigit.1
  omega

theorem isPrintable_quote (key : List Char) {rest : List Char} (h : IsPrintable rest) :
    IsPrintable (quote (escape key) rest) := by
  rw [quote, List.cons_append, isPrintable_cons, isPrintable_append, isPrintable_cons]
  exact ⟨by decide, isPrintable_escape key, by decide, h⟩

mutual

theorem isPrintable_writeCompact : (json : Json) → json.IsSpelled → (rest : List Char) →
    IsPrintable rest → IsPrintable (json.writeCompact rest)
  | .null, _, rest, h | .bool true, _, rest, h | .bool false, _, rest, h
  | .array [], _, rest, h | .object [], _, rest, h => by
    simp only [writeCompact, isPrintable_cons, h, and_true]
    decide
  | .number _, ⟨n, rfl⟩, rest, h => isPrintable_append.mpr ⟨isPrintable_toDigits n, h⟩
  | .string _, ⟨s, rfl⟩, rest, h => isPrintable_quote s h
  | .array (item :: items), ⟨hitem, hitems⟩, rest, h => by
    rw [writeCompact, isPrintable_cons]
    refine ⟨by decide, ?_⟩
    apply isPrintable_writeCompact item hitem
    apply isPrintable_writeItems items hitems
    exact isPrintable_cons.mpr ⟨by decide, h⟩
  | .object ((_, value) :: members), ⟨⟨key, rfl⟩, hvalue, hmembers⟩, rest, h => by
    rw [writeCompact, isPrintable_cons]
    refine ⟨by decide, isPrintable_quote key (isPrintable_cons.mpr ⟨by decide, ?_⟩)⟩
    apply isPrintable_writeCompact value hvalue
    apply isPrintable_writeMembers members hmembers
    exact isPrintable_cons.mpr ⟨by decide, h⟩

theorem isPrintable_writeItems : (items : List Json) → AllSpelled items → (rest : List Char) →
    IsPrintable rest → IsPrintable (writeItems items rest)
  | [], _, rest, h => h
  | item :: items, ⟨hitem, hitems⟩, rest, h => by
    rw [writeItems, isPrintable_cons]
    refine ⟨by decide, ?_⟩
    apply isPrintable_writeCompact item hitem
    exact isPrintable_writeItems items hitems rest h

theorem isPrintable_writeMembers : (members : List (List Char × Json)) → MembersSpelled members →
    (rest : List Char) → IsPrintable rest → IsPrintable (writeMembers members rest)
  | [], _, rest, h => h
  | (_, value) :: members, ⟨⟨key, rfl⟩, hvalue, hmembers⟩, rest, h => by
    rw [writeMembers, isPrintable_cons]
    refine ⟨by decide, isPrintable_quote key (isPrintable_cons.mpr ⟨by decide, ?_⟩)⟩
    apply isPrintable_writeCompact value hvalue
    exact isPrintable_writeMembers members hmembers rest h

end

theorem isPrintable_compact {json : Json} (h : json.IsSpelled) :
    IsPrintable json.compact.toList := by
  rw [compact, String.toList_ofList]
  exact isPrintable_writeCompact json h [] (List.forall_mem_nil _)

end YangCheck.Json
