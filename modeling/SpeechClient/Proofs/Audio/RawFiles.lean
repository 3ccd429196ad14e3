import SpeechClient.Proofs.Audio.Blocks
import SpeechClient.Proofs.Audio.Commands

/-!
# Files that are delivered as they are

A file that is no WAVE file is delivered as it is, ten thousand octets a read.  The end shows in the
first read that finds nothing left, and after a close in the next read.

- `FileSource.block`, `FileSource.delivery`: what each read is to give.
- `FileSource.outcomes_append`: what the reads give while the file is open.
- `FileSource.openFile_raw`: what they give of a file, with and without a close.
-/

namespace SpeechClient.FileSource

open AudioSource (Command)

def block (content : Bytes) (k : Nat) : Bytes :=
  content.extract (10000 * k) (min (10000 * (k + 1)) content.length)

def delivery (content : Bytes) (k : Nat) : ReadOutcome :=
  .ok (if 10000 * k < content.length then .data else .endOfStream, block content k)

variable {s : FileSource} {content : Bytes} {k : Nat}

theorem block_eq (content : Bytes) (k : Nat) :
    block content k = (content.drop (10000 * k)).take 10000 := by
  rw [block, List.extract_eq_take_drop, List.take_eq_take_iff, List.length_drop]
  omega

theorem block_eq_nil_iff : block content k = [] ↔ content.length ≤ 10000 * k := by
  rw [block_eq]
  simp

theorem length_block_of_next (next : block content (k + 1) ≠ []) :
    (block content k).length = 10000 := by
  rw [ne_eq, block_eq_nil_iff] at next
  rw [block_eq, List.length_take, List.length_drop]
  omega

/-- The blocks lie next to one another. -/
theorem flatten_blocks (content : Bytes) (n : Nat) :
    ((List.range n).map (block content)).flatten = content.take (10000 * n) := by
  induction n with
  | zero => simp
  | succ n before =>
    rw [List.range_succ, List.map_append, List.flatten_append, before, Nat.mul_succ, List.take_add]
    simp [block_eq]

/-! ## Reads -/

/-- A file of which `k` blocks have been read gives the next one. -/
theorem read_of_rest (rest : s.content = some (.rest (content.drop (10000 * k)))) :
    s.read = (delivery content k,
      { s with content := some (.rest (content.drop (10000 * (k + 1)))) }) := by
  have front : (content.drop (10000 * k)).take blockSize = block content k :=
    (block_eq content k).symm
  unfold read delivery
  simp only [rest, front, List.drop_drop]
  -- The file stays open at the end, so each later read finds the end again.
  by_cases left : 10000 * k < content.length
  · have some : block content k ≠ [] := mt block_eq_nil_iff.1 (Nat.not_le.2 left)
    simp only [left, some, List.isEmpty_iff, if_true, if_false]
    rfl
  · have none : block content k = [] := block_eq_nil_iff.2 (Nat.not_lt.1 left)
    simp only [left, none, List.isEmpty_nil, if_true, if_false]
    rfl

/-- Until the file is closed each read gives the next block, whatever else is done between. -/
theorem outcomes_append (rest : s.content = some (.rest (content.drop (10000 * k))))
    {before : List Command} (unclosed : .close ∉ before) :
    ∃ s' : FileSource, ∀ later, (AudioSource.file s).outcomes (before ++ later) =
      (List.range' k (before.count .read)).map (delivery content) ++
        (AudioSource.file s').outcomes later := by
  -- Only a read moves on in the file, by one block.
  induction before generalizing s k with
  | nil => exact ⟨s, fun later => rfl⟩
  | cons command before after =>
    obtain ⟨other, open'⟩ := not_or.1 (mt List.mem_cons.2 unclosed)
    cases command with
    | read =>
      have next := read_of_rest rest
      obtain ⟨s', outcomes⟩ := after (s := s.read.2) (k := k + 1) (by rw [next]) open'
      refine ⟨s', fun later => ?_⟩
      calc (AudioSource.file s).outcomes (.read :: before ++ later)
        _ = s.read.1 :: (AudioSource.file s.read.2).outcomes (before ++ later) := rfl
        _ = _ := by
          rw [outcomes later, next]
          simp [List.range'_succ]
    | write bytes => exact after rest open'
    | finish => exact after rest open'
    | close => exact absurd rfl other

/-- A file that is no WAVE file is delivered as it is.  Whatever is done to it between the reads,
they give one block after another and then the end of the stream, and only that once the file is
closed.  All blocks but the last are full, no data is empty, and together the blocks are the
file. -/
theorem openFile_raw {files : FileTree} {path content : Bytes} (raw : isWav path = false)
    (found : files.look path = .ok (.file content)) : ∃ s, openFile files path = .ok s ∧
      (∀ commands, .close ∉ commands → (AudioSource.file s).outcomes commands =
        (List.range (commands.count .read)).map (delivery content)) ∧
      (∀ before after, .close ∉ before →
        (AudioSource.file s).outcomes (before ++ .close :: after) =
          (List.range (before.count .read)).map (delivery content) ++
            List.replicate (after.count .read) (.ok (.endOfStream, []))) ∧
      (∀ k, block content k = [] ↔ content.length ≤ 10000 * k) ∧
      (∀ k, block content (k + 1) ≠ [] → (block content k).length = 10000) ∧
      ∀ n, ((List.range n).map (block content)).flatten = content.take (10000 * n) := by
  let s : FileSource := { path, format := { encoding := .raw }, content := some (.rest content) }
  have opened : openFile files path = .ok s := by
    unfold openFile
    rw [found]
    simp only [raw]
    rfl
  have start : s.content = some (.rest (content.drop (10000 * 0))) := rfl
  refine ⟨s, opened, fun commands unclosed => ?_, fun before after unclosed => ?_,
    fun k => block_eq_nil_iff, fun k => length_block_of_next, flatten_blocks content⟩
  · obtain ⟨s', outcomes⟩ := outcomes_append start unclosed
    have all := outcomes []
    rw [List.append_nil] at all
    rw [all, List.range_eq_range']
    exact List.append_nil _
  · obtain ⟨s', outcomes⟩ := outcomes_append start unclosed
    rw [outcomes, List.range_eq_range']
    exact congrArg _ (AudioSource.Exhausted.outcomes_eq (s := .file s'.close) rfl after)

/-- A file of exactly one block gives it and ends with the next read; after the close it stays
ended. -/
theorem openFile_raw_of_one_block :
    let content : Bytes := List.replicate 10000 7
    let files := FileTree.ofNodes [(utf8 "audio.raw", .file content)]
    isWav (utf8 "audio.raw") = false ∧ files.look (utf8 "audio.raw") = .ok (.file content) ∧
      ∃ s, openFile files (utf8 "audio.raw") = .ok s ∧
        (AudioSource.file s).outcomes [.read, .read, .close, .finish, .read] =
          [.ok (.data, content), .ok (.endOfStream, []), .ok (.endOfStream, [])] := by
  intro content files
  have raw : isWav (utf8 "audio.raw") = false := by decide +kernel
  have found : files.look (utf8 "audio.raw") = .ok (.file content) := rfl
  obtain ⟨s, opened, -, closed, empty, -⟩ := openFile_raw raw found
  refine ⟨raw, found, s, opened, (closed [.read, .read] [.finish, .read] (by decide)).trans ?_⟩
  have size : content.length = 10000 := List.length_replicate
  have first : block content 0 = content := by
    rw [block_eq]
    exact List.take_of_length_le (Nat.le_of_eq size)
  have last : block content 1 = [] := (empty 1).2 (Nat.le_of_eq size)
  have reads : (List.range 2).map (delivery content) =
      [.ok (.data, content), .ok (.endOfStream, [])] := by
    simp only [List.range_succ, List.range_zero, List.map_append, List.map_nil, List.map_cons,
      delivery, first, last, size]
    rfl
  exact congrArg (· ++ _) reads

end SpeechClient.FileSource
