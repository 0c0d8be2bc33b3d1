import Mathlib.Data.String.Basic
import YangCheck.Text.Utf8

namespace YangCheck.Text

/-- How many steps the search takes from a place back to the end of a whole character; none where
it would have to go back further than to the start. -/
def stepsBack? (s : String) : Nat → Option Nat
  | 0 => if String.Pos.Raw.isValid s ⟨0⟩ then some 0 else none
  | n + 1 => if String.Pos.Raw.isValid s ⟨n + 1⟩ then some 0 else (stepsBack? s n).map (· + 1)

/-- A front made of whole characters that has room in a number of bytes, and of which every other
such front is a part. -/
structure IsLongestFront (s : String) (limit : Nat) (front : String) : Prop where
  isFront : front.toList <+: s.toList
  fits : front.utf8ByteSize ≤ limit
  longest : ∀ other : String, other.toList <+: s.toList → other.utf8ByteSize ≤ limit →
    other.toList <+: front.toList

variable {s front other : String} {limit place : Nat}

theorem utf8Len_toList (s : String) : String.utf8Len s.toList = s.utf8ByteSize := by
  rw [← String.utf8ByteSize_ofList, String.ofList_toList]

theorem isValid_of_front (h : front.toList <+: s.toList) :
    String.Pos.Raw.IsValid s ⟨front.utf8ByteSize⟩ := by
  obtain ⟨behind, hbehind⟩ := h
  refine String.Pos.Raw.isValid_iff_exists_append.mpr ⟨front, String.ofList behind, ?_, rfl⟩
  rw [← String.toList_inj, String.toList_append, String.toList_ofList, hbehind]

theorem boundaryWithin_le (s : String) (limit : Nat) : boundaryWithin s limit ≤ limit := by
  induction limit with
  | zero => exact Nat.le_refl 0
  | succ n ih =>
    rw [boundaryWithin]
    split
    · exact Nat.le_refl (n + 1)
    · exact Nat.le_succ_of_le ih

theorem isValid_boundaryWithin (s : String) (limit : Nat) :
    String.Pos.Raw.IsValid s ⟨boundaryWithin s limit⟩ := by
  induction limit with
  | zero => exact String.Pos.Raw.isValid_zero
  | succ n ih =>
    rw [boundaryWithin]
    split
    case isTrue hvalid => exact String.Pos.Raw.isValid_eq_true_iff.mp hvalid
    case isFalse => exact ih

theorem le_boundaryWithin (h : String.Pos.Raw.IsValid s ⟨place⟩) (hle : place ≤ limit) :
    place ≤ boundaryWithin s limit := by
  induction limit with
  | zero => exact hle
  | succ n ih =>
    rw [boundaryWithin]
    split
    case isTrue => exact hle
    case isFalse hvalid =>
      rcases Nat.le_succ_iff.mp hle with hle | rfl
      · exact ih hle
      · exact absurd (String.Pos.Raw.isValid_eq_true_iff.mpr h) hvalid

theorem stepsBack?_eq (s : String) (limit : Nat) :
    stepsBack? s limit = some (limit - boundaryWithin s limit) := by
  induction limit with
  | zero =>
    have hvalid : String.Pos.Raw.isValid s ⟨0⟩ = true :=
      String.Pos.Raw.isValid_eq_true_iff.mpr String.Pos.Raw.isValid_zero
    rw [stepsBack?, if_pos hvalid]
    rfl
  | succ n ih =>
    rw [stepsBack?, boundaryWithin]
    split
    · rw [Nat.sub_self]
    · rw [ih, Option.map_some, Nat.succ_sub (boundaryWithin_le s n)]

theorem frontWithin_append (s : String) (limit : Nat) :
    ∃ behind, s = frontWithin s limit ++ behind ∧
      (frontWithin s limit).utf8ByteSize = boundaryWithin s limit := by
  obtain ⟨front, behind, hs, hplace⟩ :=
    String.Pos.Raw.isValid_iff_exists_append.mp (isValid_boundaryWithin s limit)
  have hsize : front.utf8ByteSize = boundaryWithin s limit :=
    (congrArg String.Pos.Raw.byteIdx hplace).symm
  have hfront : frontWithin s limit = front := by
    have hcut := String.extract_of_valid [] front.toList behind.toList
    rw [List.nil_append, ← String.toList_append, ← hs, String.ofList_toList, String.ofList_toList,
      String.utf8Len_nil, Nat.zero_add, utf8Len_toList, hsize] at hcut
    exact hcut
  exact ⟨behind, hfront ▸ hs, hfront ▸ hsize⟩

theorem isLongestFront_frontWithin (s : String) (limit : Nat) :
    IsLongestFront s limit (frontWithin s limit) := by
  obtain ⟨behind, hs, hsize⟩ := frontWithin_append s limit
  have hfront : (frontWithin s limit).toList <+: s.toList :=
    ⟨behind.toList, by rw [← String.toList_append, ← hs]⟩
  refine ⟨hfront, hsize ▸ boundaryWithin_le s limit, fun other hother hfits => ?_⟩
  have hle := le_boundaryWithin (isValid_of_front hother) hfits
  rcases List.prefix_or_prefix_of_prefix hother hfront with hpart | ⟨more, hmore⟩
  · exact hpart
  -- What is longer than the front has no more bytes, so it is the front.
  · rw [← hsize, ← utf8Len_toList, ← hmore, String.utf8Len_append, utf8Len_toList] at hle
    have hnil : more = [] := String.utf8Len_eq_zero.mp (by omega)
    have hsame : other.toList = (frontWithin s limit).toList := by
      rw [← hmore, hnil, List.append_nil]
    exact hsame ▸ List.prefix_rfl

/-- The next character has no room, and it has four bytes at most. -/
theorem lt_utf8ByteSize_frontWithin (h : limit ≤ s.utf8ByteSize) :
    limit < (frontWithin s limit).utf8ByteSize + 4 := by
  obtain ⟨behind, hs, hsize⟩ := frontWithin_append s limit
  generalize frontWithin s limit = front at hs hsize ⊢
  subst hs
  rw [String.utf8ByteSize_append, ← utf8Len_toList behind] at h
  cases hbehind : behind.toList with
  | nil =>
    rw [hbehind, String.utf8Len_nil] at h
    omega
  | cons c rest =>
    have hchar := c.utf8Size_le_four
    have hpos := c.utf8Size_pos
    have hnext : (front ++ String.singleton c).toList <+: (front ++ behind).toList := by
      rw [String.toList_append, String.toList_append, String.toList_singleton, hbehind]
      exact (List.prefix_append_right_inj _).mpr ⟨rest, rfl⟩
    have hplace := isValid_of_front hnext
    rw [String.utf8ByteSize_append, String.utf8ByteSize_singleton] at hplace
    by_contra hroom
    have hle := le_boundaryWithin hplace (Nat.le_trans (Nat.add_le_add_left hchar _)
      (Nat.le_of_not_lt hroom))
    omega

end YangCheck.Text
