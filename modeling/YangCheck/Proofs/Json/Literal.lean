import YangCheck.Json.Parser

namespace YangCheck.Json

/-- How a character can stand in a literal. -/
inductive Spells (c : Char) : List Char → Prop where
  | letter {l : Char} (hl : l ≠ 'u') (h : escaped? l = some c) : Spells c ['\\', l]
  | hex {a b d e : Char} (h : hexQuad? a b d e = some c.toNat) : Spells c ['\\', 'u', a, b, d, e]
  | plain (hquote : c ≠ '"') (hbackslash : c ≠ '\\') (h : ¬ c.toNat < 0x20) : Spells c [c]

theorem hexValue?_hexDigit : ∀ n < 16, hexValue? (hexDigit n) = some n := by
  decide

theorem hexQuad?_hexDigit {n : Nat} (h : n < 256) :
    hexQuad? '0' '0' (hexDigit (n / 16)) (hexDigit (n % 16)) = some n := by
  have hzero : hexValue? '0' = some 0 := by decide
  have hhigh := hexValue?_hexDigit (n / 16) (by omega)
  have hlow := hexValue?_hexDigit (n % 16) (by omega)
  have hsum : n / 16 * 16 + n % 16 = n := Nat.div_add_mod' n 16
  simp [hexQuad?, hzero, hhigh, hlow, hsum]

theorem spells_escapeChar (c : Char) : Spells c (escapeChar c) := by
  fun_cases escapeChar c
  case case8 hcontrol => exact .hex (hexQuad?_hexDigit (by omega))
  case case9 hquote hbackslash _ _ _ _ _ hplain => exact .plain hquote hbackslash hplain
  all_goals
    subst c
    exact .letter (by decide) rfl

namespace Spells

variable {c : Char} {literal : List Char}

theorem stringFrom (h : Spells c literal) (front rest : List Char) :
    stringFrom front (literal ++ rest) = stringFrom (literal.reverse ++ front) rest := by
  cases h with
  | letter hl h => simp [Json.stringFrom, hl, h]
  | hex h => simp [Json.stringFrom, h]
  | plain hquote hbackslash h => simp [Json.stringFrom, hbackslash, h]

theorem codesFrom (h : Spells c literal) (front : List Nat) (rest : List Char) :
    codesFrom front (literal ++ rest) = codesFrom (c.toNat :: front) rest := by
  cases h with
  | letter hl h => simp [Json.codesFrom, hl, h]
  | hex h => simp [Json.codesFrom, h]
  | plain hquote hbackslash h => simp [Json.codesFrom, hbackslash]

end Spells

theorem escape_cons (c : Char) (s : List Char) : escape (c :: s) = escapeChar c ++ escape s :=
  List.flatMap_cons

theorem stringFrom_escape (front s rest : List Char) :
    stringFrom front (escape s ++ '"' :: rest) = some (front.reverse ++ escape s, rest) := by
  induction s generalizing front with
  | nil => simp [escape, stringFrom]
  | cons c s ih =>
    rw [escape_cons, List.append_assoc, (spells_escapeChar c).stringFrom, ih]
    simp

theorem codesFrom_escape (front : List Nat) (s : List Char) :
    codesFrom front (escape s) = some (front.reverse ++ s.map Char.toNat) := by
  induction s generalizing front with
  | nil => simp [escape, codesFrom]
  | cons c s ih =>
    rw [escape_cons, (spells_escapeChar c).codesFrom, ih]
    simp

theorem isSurrogate_toNat (c : Char) :
    isHighSurrogate c.toNat = false ∧ isLowSurrogate c.toNat = false := by
  have hvalid : c.toNat < 0xD800 ∨ 0xDFFF < c.toNat ∧ c.toNat < 0x110000 := c.valid
  simp only [isHighSurrogate, isLowSurrogate, Bool.and_eq_false_iff, decide_eq_false_iff_not]
  omega

theorem charsFrom_map_toNat (front s : List Char) :
    charsFrom front (s.map Char.toNat) = some (front.reverse ++ s) := by
  induction s generalizing front with
  | nil => simp [charsFrom]
  | cons c s ih =>
    cases s with
    | nil => simp [charsFrom, isSurrogate_toNat c]
    | cons next rest =>
      rw [List.map_cons] at ih
      simp [charsFrom, isSurrogate_toNat c, ih]

theorem unescape?_escape (s : List Char) : unescape? (escape s) = some (String.ofList s) := by
  rw [unescape?, codesFrom_escape]
  simp [charsFrom_map_toNat]

theorem text?_ofString (s : String) : (ofString s).text? = some s := by
  rw [ofString, text?, unescape?_escape, String.ofList_toList]

theorem ofString_injective : Function.Injective ofString := by
  intro s s' h
  have htext := congrArg text? h
  rw [text?_ofString, text?_ofString] at htext
  exact Option.some.inj htext

end YangCheck.Json
