import SpeechClient.Text.Bytes

/-!
# Text in octets

The octets of a text are those of its characters, one after another.  A character of ASCII is one
octet; any other has an octet that is no ASCII, so texts of ASCII are told by their octets.
-/

namespace SpeechClient

theorem utf8_eq_flatMap (s : String) : utf8 s = s.toList.flatMap String.utf8EncodeChar := by
  conv => lhs; rw [← String.ofList_toList (s := s)]
  rw [utf8, String.toByteArray_ofList, List.utf8Encode]
  simp

theorem utf8_inj {a b : String} : utf8 a = utf8 b ↔ a = b := by
  refine ⟨fun same => ?_, congrArg utf8⟩
  refine String.toByteArray_inj.1 (ByteArray.ext ?_)
  simpa [utf8] using same

theorem utf8EncodeChar_of_ascii {c : Char} (ascii : c.toNat < 128) :
    String.utf8EncodeChar c = [UInt8.ofNat c.toNat] := by
  have small : c.val.toNat ≤ 127 := Nat.le_of_lt_succ ascii
  unfold String.utf8EncodeChar
  rw [if_pos small]
  rfl

theorem exists_mem_utf8EncodeChar {c : Char} (beyond : ¬c.toNat < 128) :
    ∃ b ∈ String.utf8EncodeChar c, 128 ≤ b.toNat := by
  have large : ¬c.val.toNat ≤ 127 := fun small => beyond (Nat.lt_succ_of_le small)
  -- The last octet has the low six bits of the character.
  refine ⟨UInt8.ofNat (c.val.toNat % 64 + 128), ?_, ?_⟩
  · unfold String.utf8EncodeChar
    rw [if_neg large]
    split
    · simp
    split <;> simp
  · rw [UInt8.toNat_ofNat']
    omega

end SpeechClient
