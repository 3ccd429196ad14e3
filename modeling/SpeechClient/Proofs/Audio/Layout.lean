import SpeechClient.Audio.Wav
import SpeechClient.Proofs.Fallible

/-!
# Where the samples of a WAVE file lie

Every part of the head is read from the front of the octets, and what remains stands at their end.
So do the samples, behind a mark and their length.

- `Wav.Samples.Ends`: octets end with the head of the samples and what follows it.
- `Wav.parse_ends`: so do those of a file that is read, and the length is that of whole samples.
-/

namespace SpeechClient.Wav

variable {b rest : Bytes} {size bits value : Nat}

theorem take_eq_ok {n : Nat} {front : Bytes} (taken : take n b = .ok (front, rest)) :
    b = front ++ rest ∧ front.length = n := by
  unfold take at taken
  split at taken
  · cases taken
  next enough =>
    obtain ⟨rfl, rfl⟩ := Prod.mk.inj (Except.ok.inj taken)
    exact ⟨(List.take_append_drop n b).symm, List.length_take_of_le (Nat.not_lt.mp enough)⟩

theorem word32_eq_ok (read : word32 b = .ok (value, rest)) :
    ∃ word, b = word ++ rest ∧ word.length = 4 ∧ littleEndian word = value := by
  obtain ⟨⟨word, after⟩, taken, same⟩ := map_eq_ok_iff.1 read
  obtain ⟨rfl, rfl⟩ := Prod.mk.inj same
  obtain ⟨split, four⟩ := take_eq_ok taken
  exact ⟨word, split, four, rfl⟩

/-! ## What remains -/

theorem take_suffix {n : Nat} {front : Bytes} (taken : take n b = .ok (front, rest)) :
    rest <:+ b :=
  ⟨front, (take_eq_ok taken).1.symm⟩

theorem word16_suffix (read : word16 b = .ok (value, rest)) : rest <:+ b := by
  obtain ⟨⟨word, after⟩, taken, same⟩ := map_eq_ok_iff.1 read
  obtain ⟨-, rfl⟩ := Prod.mk.inj same
  exact take_suffix taken

theorem word32_suffix (read : word32 b = .ok (value, rest)) : rest <:+ b := by
  obtain ⟨word, split, -⟩ := word32_eq_ok read
  exact ⟨word, split.symm⟩

theorem readInteger_suffix (read : readInteger size bits b = .ok rest) : rest <:+ b := by
  unfold readInteger at read
  dsimp only at read
  split at read
  · obtain rfl := Except.ok.inj read
    exact List.suffix_rfl
  obtain ⟨-, read⟩ := check_eq_ok_iff.1 read
  obtain ⟨⟨_, b₁⟩, first, read⟩ := bind_eq_ok_iff.1 read
  obtain ⟨-, read⟩ := check_eq_ok_iff.1 read
  split at read
  · obtain ⟨⟨_, b₂⟩, second, read⟩ := bind_eq_ok_iff.1 read
    obtain rfl := Except.ok.inj read
    exact (take_suffix second).trans (word16_suffix first)
  · obtain rfl := Except.ok.inj read
    exact word16_suffix first

theorem readFloat_suffix (read : readFloat size bits b = .ok rest) : rest <:+ b := by
  unfold readFloat at read
  dsimp only at read
  obtain ⟨-, read⟩ := check_eq_ok_iff.1 read
  split at read
  · obtain ⟨⟨_, b₁⟩, first, read⟩ := bind_eq_ok_iff.1 read
    obtain ⟨-, read⟩ := check_eq_ok_iff.1 read
    obtain ⟨_, same, read⟩ := bind_eq_ok_iff.1 read
    obtain ⟨-, read⟩ := check_eq_ok_iff.1 read
    obtain rfl := Except.ok.inj same
    obtain rfl := Except.ok.inj read
    exact word16_suffix first
  · obtain ⟨_, same, read⟩ := bind_eq_ok_iff.1 read
    obtain ⟨-, read⟩ := check_eq_ok_iff.1 read
    obtain rfl := Except.ok.inj same
    obtain rfl := Except.ok.inj read
    exact List.suffix_rfl

theorem readExtensible_suffix (read : readExtensible size bits b = .ok (value, rest)) :
    rest <:+ b := by
  unfold readExtensible at read
  dsimp only at read
  obtain ⟨-, read⟩ := check_eq_ok_iff.1 read
  obtain ⟨⟨_, b₁⟩, first, read⟩ := bind_eq_ok_iff.1 read
  obtain ⟨-, read⟩ := check_eq_ok_iff.1 read
  obtain ⟨⟨_, b₂⟩, second, read⟩ := bind_eq_ok_iff.1 read
  obtain ⟨⟨_, b₃⟩, third, read⟩ := bind_eq_ok_iff.1 read
  obtain ⟨⟨_, b₄⟩, fourth, read⟩ := bind_eq_ok_iff.1 read
  obtain ⟨-, read⟩ := check_eq_ok_iff.1 read
  obtain ⟨-, rfl⟩ := Prod.mk.inj (Except.ok.inj read)
  exact (take_suffix fourth).trans <| (word32_suffix third).trans <|
    (word16_suffix second).trans (word16_suffix first)

theorem readFormat_suffix {spec : Spec} (read : readFormat size b = .ok (spec, rest)) :
    rest <:+ b := by
  unfold readFormat at read
  dsimp only at read
  obtain ⟨-, read⟩ := check_eq_ok_iff.1 read
  obtain ⟨⟨tag, b₁⟩, first, read⟩ := bind_eq_ok_iff.1 read
  obtain ⟨⟨channels, b₂⟩, second, read⟩ := bind_eq_ok_iff.1 read
  obtain ⟨⟨sampleRate, b₃⟩, third, read⟩ := bind_eq_ok_iff.1 read
  obtain ⟨⟨bytesPerSecond, b₄⟩, fourth, read⟩ := bind_eq_ok_iff.1 read
  obtain ⟨⟨frameBytes, b₅⟩, fifth, read⟩ := bind_eq_ok_iff.1 read
  obtain ⟨⟨bits, b₆⟩, sixth, read⟩ := bind_eq_ok_iff.1 read
  have fields : b₆ <:+ b := (word16_suffix sixth).trans <| (word16_suffix fifth).trans <|
    (word32_suffix fourth).trans <| (word32_suffix third).trans <|
    (word16_suffix second).trans (word16_suffix first)
  obtain ⟨-, read⟩ := check_eq_ok_iff.1 read
  obtain ⟨-, read⟩ := check_eq_ok_iff.1 read
  obtain ⟨-, read⟩ := check_eq_ok_iff.1 read
  obtain ⟨-, read⟩ := check_eq_ok_iff.1 read
  obtain ⟨-, read⟩ := check_eq_ok_iff.1 read
  dsimp only at read
  split at read
  · obtain ⟨_, remains, read⟩ := bind_eq_ok_iff.1 read
    obtain ⟨-, rfl⟩ := Prod.mk.inj (Except.ok.inj read)
    exact (readInteger_suffix remains).trans fields
  · obtain ⟨_, remains, read⟩ := bind_eq_ok_iff.1 read
    obtain ⟨-, rfl⟩ := Prod.mk.inj (Except.ok.inj read)
    exact (readFloat_suffix remains).trans fields
  · obtain ⟨⟨_, _⟩, remains, read⟩ := bind_eq_ok_iff.1 read
    obtain ⟨-, rfl⟩ := Prod.mk.inj (Except.ok.inj read)
    exact (readExtensible_suffix remains).trans fields
  · cases read

/-! ## The samples -/

/-- The octets end with the head of the samples, which declares their length, and with the samples and
what follows them. -/
def Samples.Ends (s : Samples) (b : Bytes) : Prop :=
  ∃ size, (utf8 "data" ++ size ++ s.rest) <:+ b ∧ size.length = 4 ∧ littleEndian size = s.dataLength

theorem Samples.Ends.later {s : Samples} {b' : Bytes} (ends : s.Ends b) (suffix : b <:+ b') :
    s.Ends b' := by
  obtain ⟨size, inside, rest⟩ := ends
  exact ⟨size, inside.trans suffix, rest⟩

theorem readChunks_ends {spec : Option Spec} {fuel : Nat} {samples : Samples}
    (read : readChunks spec b fuel = .ok samples) : samples.Ends b := by
  induction fuel generalizing spec b with
  | zero => cases read
  | succ fuel later =>
    unfold readChunks at read
    obtain ⟨⟨kind, b₁⟩, named, read⟩ := bind_eq_ok_iff.1 read
    obtain ⟨⟨length, b₂⟩, sized, read⟩ := bind_eq_ok_iff.1 read
    have head : b₂ <:+ b := (word32_suffix sized).trans (take_suffix named)
    dsimp only at read
    split at read
    · obtain ⟨⟨_, _⟩, format, read⟩ := bind_eq_ok_iff.1 read
      exact (later read).later ((readFormat_suffix format).trans head)
    split at read
    · exact (later read).later ((List.drop_suffix 4 b₂).trans head)
    split at read
    next data =>
      split at read
      · obtain rfl := Except.ok.inj read
        obtain ⟨rfl, -⟩ := take_eq_ok named
        obtain ⟨size, rfl, four, declared⟩ := word32_eq_ok sized
        exact ⟨size, by simp [data], four, declared⟩
      · cases read
    next =>
      obtain ⟨⟨_, _⟩, passed, read⟩ := bind_eq_ok_iff.1 read
      exact (later read).later ((take_suffix passed).trans head)

/-- A file that is read ends with the samples and what follows them, and the declared length is that
of whole samples, as many of every channel. -/
theorem parse_ends {samples : Samples} (parsed : parse b = .ok samples) :
    samples.Ends b ∧ samples.count * samples.spec.containerBytes = samples.dataLength ∧
      samples.spec.channels ∣ samples.count := by
  unfold parse at parsed
  obtain ⟨⟨riff, b₁⟩, first, parsed⟩ := bind_eq_ok_iff.1 parsed
  dsimp only at parsed
  obtain ⟨-, parsed⟩ := check_eq_ok_iff.1 parsed
  obtain ⟨⟨_, b₂⟩, second, parsed⟩ := bind_eq_ok_iff.1 parsed
  obtain ⟨⟨wave, b₃⟩, third, parsed⟩ := bind_eq_ok_iff.1 parsed
  dsimp only at parsed
  obtain ⟨-, parsed⟩ := check_eq_ok_iff.1 parsed
  obtain ⟨found, chunks, parsed⟩ := bind_eq_ok_iff.1 parsed
  obtain ⟨whole, parsed⟩ := check_eq_ok_iff.1 parsed
  obtain ⟨even, parsed⟩ := check_eq_ok_iff.1 parsed
  obtain rfl := Except.ok.inj parsed
  have head : b₃ <:+ b := (take_suffix third).trans <|
    (word32_suffix second).trans (take_suffix first)
  exact ⟨(readChunks_ends chunks).later head, not_ne_iff.1 whole,
    Nat.dvd_of_mod_eq_zero (not_ne_iff.1 even)⟩

end SpeechClient.Wav
