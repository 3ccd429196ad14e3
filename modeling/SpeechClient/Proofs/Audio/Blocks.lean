import SpeechClient.Audio.File
import SpeechClient.Proofs.Audio.Layout

/-!
# What a file source delivers

A file source gives its octets in blocks, in order and to the last one.  Of a WAVE file these are as
many octets from the first sample on as the bits of the samples need, and a sample may take up more
octets than that.

- `FileSource.Delivers`: the blocks that reads give up to the end of the stream.
- `FileSource.delivers_of_rest`: they hold what was still to be read.
- `FileSource.openFile_delivers`: what they hold of a WAVE file.
-/

namespace SpeechClient.FileSource

/-- Reads give these blocks one after another, and then report the end of the stream. -/
inductive Delivers : FileSource → List Bytes → Prop where
  | last {s after : FileSource} {block : Bytes} :
      s.read = (.ok (.endOfStream, block), after) → Delivers s [block]
  | more {s after : FileSource} {block : Bytes} {blocks : List Bytes} :
      s.read = (.ok (.data, block), after) → Delivers after blocks → Delivers s (block :: blocks)

theorem Delivers.unique {s : FileSource} {blocks other : List Bytes} (delivers : s.Delivers blocks)
    (others : s.Delivers other) : other = blocks := by
  induction delivers generalizing other with
  | last read =>
    cases others with
    | last read' =>
      obtain ⟨same, -⟩ := Prod.mk.inj (read.symm.trans read')
      cases same
      rfl
    | more read' => cases read.symm.trans read'
  | more read _ later =>
    cases others with
    | last read' => cases read.symm.trans read'
    | more read' others =>
      cases read.symm.trans read'
      rw [later others]

theorem delivers_of_rest {s : FileSource} {bytes : Bytes}
    (content : s.content = some (.rest bytes)) :
    ∃ blocks, s.Delivers blocks ∧ blocks.flatten = bytes := by
  have reads : s.read = (.ok (if (bytes.take blockSize).isEmpty then .endOfStream else .data,
      bytes.take blockSize), { s with content := some (.rest (bytes.drop blockSize)) }) := by
    simp [read, content]
  by_cases none : bytes = []
  · subst none
    exact ⟨[[]], .last reads, rfl⟩
  · have front : (bytes.take blockSize).isEmpty = false := by
      simp [none, blockSize]
    have shorter : (bytes.drop blockSize).length < bytes.length := by
      have positive := List.length_pos_iff.2 none
      rw [List.length_drop, blockSize]
      omega
    obtain ⟨blocks, delivers, whole⟩ :=
      delivers_of_rest (s := { s with content := some (.rest (bytes.drop blockSize)) }) rfl
    rw [front] at reads
    exact ⟨_, .more reads delivers, by rw [List.flatten_cons, whole, List.take_append_drop]⟩
termination_by bytes.length
decreasing_by exact shorter

/-- A source that opens on a path with the name of a WAVE file has read one. -/
theorem openFile_wav {files : FileTree} {path : Bytes} {s : FileSource} (wav : isWav path = true)
    (opened : openFile files path = .ok s) : ∃ file samples,
    files.look path = .ok (.file file) ∧ Wav.parse file = .ok samples ∧
      s.content = some (.rest (samples.rest.take (deliveredLength samples))) := by
  unfold openFile at opened
  split at opened
  · cases opened
  next node found =>
    simp only [wav, if_true] at opened
    cases node with
    | directory => cases opened
    | file file =>
      unfold openWav at opened
      dsimp only at opened
      split at opened
      · cases opened
      next samples parsed =>
        obtain rfl := Except.ok.inj opened
        exact ⟨file, samples, found, parsed, rfl⟩

/-- Of a WAVE file as many octets are delivered, from the first sample on, as the bits of the samples
would fill without gaps.  If all samples are present, these octets are the samples and nothing else
exactly if there are no samples, if their bits fill the octets that they take up, or if there should
be even more bits and the file ends with the samples. -/
theorem openFile_delivers {files : FileTree} {path : Bytes} {s : FileSource}
    (wav : isWav path = true) (opened : openFile files path = .ok s) : ∃ file samples blocks,
    files.look path = .ok (.file file) ∧ Wav.parse file = .ok samples ∧ samples.Ends file ∧
      samples.count * samples.spec.containerBytes = samples.dataLength ∧
      samples.spec.channels ∣ samples.count ∧
      s.Delivers blocks ∧ (∀ other, s.Delivers other → other = blocks) ∧
      blocks.flatten = samples.rest.take (samples.count * (samples.spec.bitsPerSample / 8)) ∧
      (samples.dataLength ≤ samples.rest.length →
        (blocks.flatten = samples.rest.take samples.dataLength ↔
          samples.dataLength = 0 ∨
          samples.spec.bitsPerSample / 8 = samples.spec.containerBytes ∨
          samples.spec.containerBytes < samples.spec.bitsPerSample / 8 ∧
            samples.rest.length = samples.dataLength)) := by
  obtain ⟨file, samples, found, parsed, content⟩ := openFile_wav wav opened
  obtain ⟨ends, whole, even⟩ := Wav.parse_ends parsed
  obtain ⟨blocks, delivers, all⟩ := delivers_of_rest content
  refine ⟨file, samples, blocks, found, parsed, ends, whole, even, delivers,
    fun _ => delivers.unique, all, fun present => ?_⟩
  rw [all, deliveredLength, List.take_eq_take_iff]
  obtain none | some := Nat.eq_zero_or_pos samples.count
  · have empty : samples.dataLength = 0 := by rw [← whole, none, Nat.zero_mul]
    simp [none, empty]
  · have declared : samples.dataLength ≠ 0 := by
      intro empty
      rw [Wav.Samples.count, empty, Nat.zero_div] at some
      exact Nat.lt_irrefl 0 some
    have fills (width : Nat) : width = samples.spec.containerBytes ↔
        samples.count * width = samples.dataLength := by
      rw [← whole, Nat.mul_right_inj (Nat.ne_of_gt some)]
    have exceeds (width : Nat) : samples.spec.containerBytes < width ↔
        samples.dataLength < samples.count * width := by
      rw [← whole, Nat.mul_lt_mul_left some]
    rw [fills, exceeds, or_iff_right declared]
    omega

/-- Three samples of sixteen bits that are packed are delivered as they stand in the file. -/
theorem openFile_delivers_packed :
    let head := utf8 "RIFF" ++ [42, 0, 0, 0] ++ utf8 "WAVEfmt " ++
      [16, 0, 0, 0, 1, 0, 1, 0, 0x80, 0x3e, 0, 0, 0, 0x7d, 0, 0, 2, 0, 16, 0] ++ utf8 "data"
    let file := head ++ [6, 0, 0, 0, 1, 0, 254, 255, 44, 1]
    let files := FileTree.ofNodes [(utf8 "audio.wav", .file file)]
    let s : FileSource :=
      { path := utf8 "audio.wav"
        format := { sampleRate := 16000 }
        content := some (.rest [1, 0, 254, 255, 44, 1]) }
    isWav (utf8 "audio.wav") = true ∧ openFile files (utf8 "audio.wav") = .ok s ∧
      ∃ blocks, s.Delivers blocks ∧ blocks.flatten = [1, 0, 254, 255, 44, 1] := by
  intro head file files s
  have wav : isWav (utf8 "audio.wav") = true := by decide +kernel
  have opened : openFile files (utf8 "audio.wav") = .ok s := by decide +kernel
  refine ⟨wav, opened, ?_⟩
  obtain ⟨_, samples, blocks, found, parsed, -, -, -, delivers, -, whole, -⟩ :=
    openFile_delivers wav opened
  have same : files.look (utf8 "audio.wav") = .ok (.file file) := by decide +kernel
  cases found.symm.trans same
  have read : Wav.parse file = .ok ⟨⟨1, 16000, 16, 2⟩, 6, [1, 0, 254, 255, 44, 1]⟩ := by
    decide +kernel
  cases parsed.symm.trans read
  exact ⟨blocks, delivers, whole⟩

/-- Two samples of twenty-four bits that take up four octets each are delivered without the last
two octets of the second one. -/
theorem delivers_of_wide_samples :
    let head := utf8 "RIFF" ++ [44, 0, 0, 0] ++ utf8 "WAVEfmt " ++
      [16, 0, 0, 0, 1, 0, 1, 0, 0x40, 0x1f, 0, 0, 0, 0x7d, 0, 0, 4, 0, 24, 0] ++ utf8 "data"
    let file := head ++ [8, 0, 0, 0, 1, 2, 3, 4, 5, 6, 7, 8]
    let files := FileTree.ofNodes [(utf8 "wide.wav", .file file)]
    ∃ s samples, openFile files (utf8 "wide.wav") = .ok s ∧ Wav.parse file = .ok samples ∧
      samples.dataLength = 8 ∧ samples.rest = [1, 2, 3, 4, 5, 6, 7, 8] ∧
      s.Delivers [[1, 2, 3, 4, 5, 6], []] ∧
      ∀ blocks, s.Delivers blocks → blocks.flatten ≠ samples.rest.take samples.dataLength := by
  intro head file files
  let s : FileSource :=
    { path := utf8 "wide.wav"
      format := { bitsPerSample := 24 }
      content := some (.rest [1, 2, 3, 4, 5, 6]) }
  have delivers : s.Delivers [[1, 2, 3, 4, 5, 6], []] := .more rfl (.last rfl)
  refine ⟨s, ⟨⟨1, 8000, 24, 4⟩, 8, [1, 2, 3, 4, 5, 6, 7, 8]⟩, ?_, ?_, rfl, rfl, delivers,
    fun blocks other => ?_⟩
  · decide +kernel
  · decide +kernel
  · rw [delivers.unique other]
    decide

end SpeechClient.FileSource
