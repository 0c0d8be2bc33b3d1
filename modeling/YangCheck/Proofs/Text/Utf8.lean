import YangCheck.Proofs.Text.Cut
import YangCheck.Text.Utf8

namespace YangCheck.Text

/-- The bytes that spell characters. -/
def encode (s : List Char) : List UInt8 :=
  s.flatMap String.utf8EncodeChar

theorem encode_append (s t : List Char) : encode (s ++ t) = encode s ++ encode t :=
  List.flatMap_append

theorem encode_cons (c : Char) (s : List Char) :
    encode (c :: s) = String.utf8EncodeChar c ++ encode s :=
  rfl

theorem encode_nil : encode [] = [] :=
  rfl

theorem encode_lf (s : List Char) : encode ('\n' :: s) = 10 :: encode s :=
  rfl

theorem encode_cr (s : List Char) : encode ('\r' :: s) = 13 :: encode s :=
  rfl

theorem encode_singleton (c : Char) : encode [c] = String.utf8EncodeChar c :=
  List.append_nil _

theorem encode_eq_nil_iff {s : List Char} : encode s = [] ↔ s = [] := by
  cases s with
  | nil => simp [encode]
  | cons c s => simp [encode_cons]

theorem toByteArray_eq_encode (text : String) :
    text.toByteArray = (encode text.toList).toByteArray := by
  have h := @String.toByteArray_ofList text.toList
  rw [String.ofList_toList] at h
  exact h

theorem fromUTF8?_eq_some_iff {bytes : ByteArray} {text : String} :
    String.fromUTF8? bytes = some text ↔ bytes = text.toByteArray := by
  rw [String.fromUTF8?]
  split
  case isTrue hvalid =>
    rw [Option.some.injEq, ← String.toByteArray_inj]
    rfl
  case isFalse hvalid =>
    refine iff_of_false nofun fun h => hvalid ?_
    rw [h]
    exact text.isValidUTF8

theorem decodeUtf8_eq_ok_iff {bytes : ByteArray} {text : String} :
    decodeUtf8 bytes = .ok text ↔ bytes = text.toByteArray := by
  rw [← fromUTF8?_eq_some_iff, decodeUtf8]
  cases String.fromUTF8? bytes with
  | none => simp
  | some found => simp

theorem eq_of_mem_utf8EncodeChar {c d : Char} (hd : d.toNat < 128)
    (h : UInt8.ofNat d.toNat ∈ String.utf8EncodeChar c) : c = d := by
  have hc : c.val.toNat = c.toNat := rfl
  have hval : c.toNat = d.toNat := by
    revert h
    fun_cases String.utf8EncodeChar c <;> simp [← UInt8.toNat_inj] <;> omega
  exact Char.ext (UInt32.toNat_inj.mp hval)

/-- The lines of the bytes of a text are the bytes of its lines. -/
theorem cut_encode (behindReturn : Bool) (front s : List Char) :
    cut 10 13 behindReturn (encode front.reverse).reverse (encode s) =
      (cut '\n' '\r' behindReturn front s).map encode := by
  induction s generalizing behindReturn front with
  | nil =>
    have hempty : (encode front.reverse).reverse.isEmpty = front.isEmpty := by
      cases front <;> simp [encode_eq_nil_iff]
    rw [encode_nil, cut, cut, hempty]
    split <;> simp
  | cons c s ih =>
    by_cases hlf : c = '\n'
    · subst c
      have hline := ih false []
      rw [encode_lf, cut, cut, if_pos rfl, if_pos rfl]
      cases behindReturn with
      | false => simpa [encode_nil] using hline
      | true => exact ih false front
    by_cases hcr : c = '\r'
    · subst c
      have hline := ih true []
      rw [encode_cr, cut, cut, if_neg (by decide), if_neg hlf, if_pos rfl, if_pos rfl]
      simpa [encode_nil] using hline
    -- No byte of any other character is a mark, however many it has.
    have hbytes : ∀ b ∈ String.utf8EncodeChar c, b ≠ 10 ∧ b ≠ 13 := by
      intro b hb
      constructor
      · rintro rfl
        exact hlf (eq_of_mem_utf8EncodeChar (by decide) hb)
      · rintro rfl
        exact hcr (eq_of_mem_utf8EncodeChar (by decide) hb)
    have hhead : (encode (c :: s)).head? ≠ some 10 := by
      obtain ⟨b, rest, hchar⟩ := List.exists_cons_of_ne_nil (@String.utf8EncodeChar_ne_nil c)
      have hb := (hbytes b (hchar ▸ List.mem_cons_self)).1
      simpa [encode_cons, hchar] using hb
    rw [cut_behindReturn hhead, encode_cons, cut_append hbytes, cut, if_neg hlf, if_neg hcr, ← ih]
    simp [encode_append, encode_singleton]

theorem exists_encode_of_cut {behindReturn : Bool} {front bytes : List UInt8}
    (hfront : behindReturn = true → front = [])
    (h : ∀ line ∈ cut 10 13 behindReturn front bytes, ∃ s, line = encode s) :
    ∃ s, front.reverse ++ bytes = encode s := by
  have hclosed : ∀ front : List UInt8, false = true → front = [] := fun _ h => Bool.noConfusion h
  induction bytes generalizing behindReturn front with
  | nil =>
    rw [cut] at h
    split at h
    case isTrue hempty => exact ⟨[], by simp_all [encode_nil]⟩
    case isFalse => simpa using h
  | cons b bytes ih =>
    rw [cut] at h
    split at h
    case isTrue hlf =>
      subst b
      split at h
      case isTrue hreturn =>
        obtain ⟨s, hs⟩ := ih (hclosed _) h
        obtain rfl := hfront hreturn
        exact ⟨'\n' :: s, by rw [encode_lf, ← hs]; rfl⟩
      case isFalse =>
        obtain ⟨⟨line, hline⟩, hrest⟩ := List.forall_mem_cons.mp h
        obtain ⟨s, hs⟩ := ih (hclosed _) hrest
        exact ⟨line ++ '\n' :: s, by rw [encode_append, encode_lf, ← hs, hline]; rfl⟩
    case isFalse hlf =>
      split at h
      case isTrue hcr =>
        subst b
        obtain ⟨⟨line, hline⟩, hrest⟩ := List.forall_mem_cons.mp h
        obtain ⟨s, hs⟩ := ih (fun _ => rfl) hrest
        exact ⟨line ++ '\r' :: s, by rw [encode_append, encode_cr, ← hs, hline]; rfl⟩
      case isFalse hcr =>
        obtain ⟨s, hs⟩ := ih (hclosed _) h
        exact ⟨s, by simpa using hs⟩

end YangCheck.Text
