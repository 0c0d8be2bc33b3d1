import YangCheck.Log.Event
import YangCheck.Proofs.Text.Front

namespace YangCheck.Log

open Text

/-- A message that has room is kept as it is. Of a longer one the longest front made of whole
characters is kept that has room, and dots are put behind it. The search for its end takes three
steps back at most and does not pass the start of the message. -/
theorem limitMessage_keeps_longest_front [Limits] (message : String) :
    (message.utf8ByteSize ≤ Limits.maxMessageBytes → limitMessage message = message) ∧
    (Limits.maxMessageBytes < message.utf8ByteSize → ∃ front steps,
      limitMessage message = front ++ "..." ∧
      IsLongestFront message Limits.maxMessageBytes front ∧
      stepsBack? message Limits.maxMessageBytes = some steps ∧ steps ≤ 3 ∧
      front.utf8ByteSize + steps = Limits.maxMessageBytes) := by
  constructor
  · intro hroom
    rw [limitMessage, if_pos hroom]
  · intro hlong
    obtain ⟨behind, -, hsize⟩ := frontWithin_append message Limits.maxMessageBytes
    have hnear := lt_utf8ByteSize_frontWithin hlong.le
    have hfront := isLongestFront_frontWithin message Limits.maxMessageBytes
    have hfits := hfront.fits
    refine ⟨_, _, if_neg (Nat.not_le.mpr hlong), hfront, stepsBack?_eq _ _, ?_, ?_⟩
    · omega
    · omega

theorem limitMessage_keeps_longest_front_splitCharacter :
    let whole := String.ofList (List.replicate 4093 'x')
    Limits.maxMessageBytes < (whole ++ "😀").utf8ByteSize ∧
      limitMessage (whole ++ "😀") = whole ++ "..." ∧
      stepsBack? (whole ++ "😀") Limits.maxMessageBytes = some 3 := by
  intro whole
  have hwhole : whole.utf8ByteSize = 4093 := by
    rw [String.utf8ByteSize_ofList]
    decide +kernel
  have hlast : "😀".utf8ByteSize = 4 := by decide
  have hlong : Limits.maxMessageBytes < (whole ++ "😀").utf8ByteSize := by
    rw [String.utf8ByteSize_append, hwhole, hlast]
    decide
  obtain ⟨front, steps, hmessage, hfront, hsteps, -, hsize⟩ :=
    (limitMessage_keeps_longest_front (whole ++ "😀")).2 hlong
  have hpart : whole.toList <+: front.toList := by
    refine hfront.longest whole ?_ (hwhole ▸ by decide)
    rw [String.toList_append]
    exact List.prefix_append _ _
  have hface : "😀".toList = ['😀'] := by decide
  have hkept : front = whole := by
    have hcases := hfront.isFront
    rw [String.toList_append, hface, List.prefix_concat_iff, ← hface, ← String.toList_append]
      at hcases
    rcases hcases with hall | hfits
    · have hsame := String.toList_inj.mp hall
      have hroom := hfront.fits
      rw [hsame] at hroom
      exact absurd hlong (Nat.not_lt.mpr hroom)
    · exact String.toList_inj.mp (hfits.eq_of_length_le hpart.length_le)
  subst hkept
  have hthree : steps = 3 := by
    rw [hwhole] at hsize
    have hmax : Limits.maxMessageBytes = 4096 := rfl
    omega
  exact ⟨hlong, hmessage, hthree ▸ hsteps⟩

end YangCheck.Log
