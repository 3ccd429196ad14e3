import SpeechClient.Text.Bytes

/-!
# WAVE files

The head of a WAVE file is a sequence of chunks up to the one that holds the samples.  Reading it
yields the description of the samples and the octets from the first sample on.
-/

namespace SpeechClient.Wav

inductive WavError where
  | tooShort
  | unreadable (reason : String)
  | unsupported
  | noRiffTag
  | noWaveTag
  | invalidFormatSize
  | unexpectedFormatSize
  | zeroChannels
  | sampleTooWide
  | inconsistentFormat
  | bitsNotWholeOctets
  | zeroBits
  | bitsNotUsual
  | bitsNotThirtyTwo
  | unexpectedExtensionSize
  | unexpectedExtensibleSize
  | missingFormat
  | lengthNotWholeSamples
  | lengthNotWholeFrames
  deriving DecidableEq, Repr

def WavError.layoutFault? : WavError → Option String
  | .noRiffTag => some "no RIFF tag found"
  | .noWaveTag => some "no WAVE tag found"
  | .invalidFormatSize => some "invalid fmt chunk size"
  | .unexpectedFormatSize => some "unexpected fmt chunk size"
  | .zeroChannels => some "file contains zero channels"
  | .sampleTooWide => some "sample bits exceeds size of sample"
  | .inconsistentFormat => some "inconsistent fmt chunk"
  | .bitsNotWholeOctets => some "bits per sample is not a multiple of 8"
  | .zeroBits => some "bits per sample is 0"
  | .bitsNotUsual => some "bits per sample is not 8 or 16"
  | .bitsNotThirtyTwo => some "bits per sample is not 32"
  | .unexpectedExtensionSize => some "unexpected WAVEFORMATEX size"
  | .unexpectedExtensibleSize => some "unexpected WAVEFORMATEXTENSIBLE size"
  | .missingFormat => some "missing fmt chunk"
  | .lengthNotWholeSamples => some "data chunk length is not a multiple of sample size"
  | .lengthNotWholeFrames => some "invalid data chunk length"
  | .tooShort | .unreadable _ | .unsupported => none

def WavError.message (e : WavError) : String :=
  match e with
  | .tooShort => "Failed to read enough bytes."
  | .unreadable reason => reason
  | .unsupported => "The wave format of the file is not supported."
  | e => "Ill-formed WAVE file: " ++ e.layoutFault?.getD ""

structure Spec where
  channels : Nat
  sampleRate : Nat
  bitsPerSample : Nat
  /-- The octets a sample takes up. -/
  containerBytes : Nat
  deriving DecidableEq, Repr

/-- A file from its first sample on. -/
structure Samples where
  spec : Spec
  /-- The declared length of the samples in octets. -/
  dataLength : Nat
  rest : Bytes
  deriving DecidableEq, Repr

def Samples.count (s : Samples) : Nat :=
  s.dataLength / s.spec.containerBytes

def take (n : Nat) (b : Bytes) : Except WavError (Bytes × Bytes) :=
  if b.length < n then .error .tooShort else .ok (b.take n, b.drop n)

def littleEndian (b : Bytes) : Nat :=
  b.foldr (fun x n => x.toNat + 256 * n) 0

def word16 (b : Bytes) : Except WavError (Nat × Bytes) :=
  (take 2 b).map fun (n, rest) => (littleEndian n, rest)

def word32 (b : Bytes) : Except WavError (Nat × Bytes) :=
  (take 4 b).map fun (n, rest) => (littleEndian n, rest)

/-- The subformat that stands for integers or, with a three in front, for floating point. -/
def subformat (first : UInt8) : Bytes :=
  [first, 0, 0, 0, 0, 0, 0x10, 0, 0x80, 0, 0, 0xaa, 0, 0x38, 0x9b, 0x71]

/-- The rest of a format chunk of integers: nothing, or an extension that does not count. -/
def readInteger (size bits : Nat) (b : Bytes) : Except WavError Bytes := do
  if size = 16 then return b
  if size ≠ 18 ∧ size ≠ 40 then throw .unexpectedFormatSize
  let (_, b) ← word16 b
  if ¬[8, 16, 24].contains bits then throw .bitsNotUsual
  if size = 40 then return (← take 22 b).2
  return b

def readFloat (size bits : Nat) (b : Bytes) : Except WavError Bytes := do
  if size ≠ 16 ∧ size ≠ 18 then throw .unexpectedFormatSize
  let b ← if size = 18 then do
      let (extension, b) ← word16 b
      if extension ≠ 0 then throw .unexpectedExtensionSize
      pure b
    else pure b
  if bits ≠ 32 then throw .bitsNotThirtyTwo
  return b

/-- The rest of an extensible format chunk: the bits that count, unless they are zero. -/
def readExtensible (size bits : Nat) (b : Bytes) : Except WavError (Nat × Bytes) := do
  if size < 40 then throw .unexpectedFormatSize
  let (extension, b) ← word16 b
  if extension ≠ 22 then throw .unexpectedExtensibleSize
  let (valid, b) ← word16 b
  let (_, b) ← word32 b
  let (id, b) ← take 16 b
  if id ≠ subformat 1 ∧ id ≠ subformat 3 then throw .unsupported
  return (if 0 < valid then valid else bits, b)

def readFormat (size : Nat) (b : Bytes) : Except WavError (Spec × Bytes) := do
  if size < 16 then throw .invalidFormatSize
  let (tag, b) ← word16 b
  let (channels, b) ← word16 b
  let (sampleRate, b) ← word32 b
  let (bytesPerSecond, b) ← word32 b
  let (frameBytes, b) ← word16 b
  let (bits, b) ← word16 b
  if channels = 0 then throw .zeroChannels
  -- A sample may take up more octets than its bits fill.
  let containerBytes := frameBytes / channels
  if UInt16.size ≤ containerBytes * 8 ∨ containerBytes * 8 < bits then throw .sampleTooWide
  if UInt32.size ≤ frameBytes * sampleRate ∨ bytesPerSecond ≠ frameBytes * sampleRate then
    throw .inconsistentFormat
  if bits % 8 ≠ 0 then throw .bitsNotWholeOctets
  if bits = 0 then throw .zeroBits
  let spec : Spec := { channels, sampleRate, bitsPerSample := bits, containerBytes }
  match tag with
  | 0x0001 => return (spec, ← readInteger size bits b)
  | 0x0003 => return (spec, ← readFloat size bits b)
  | 0xfffe =>
    let (bitsPerSample, b) ← readExtensible size bits b
    return ({ spec with bitsPerSample }, b)
  | _ => throw .unsupported

/-- The chunks up to the samples.  Each chunk's head takes eight octets, so the length of the input
is fuel enough. -/
def readChunks (spec : Option Spec) (b : Bytes) : Nat → Except WavError Samples
  | 0 => .error .tooShort
  | fuel + 1 => do
    let (kind, b) ← take 4 b
    let (size, b) ← word32 b
    if kind = utf8 "fmt " then
      let (spec, b) ← readFormat size b
      readChunks (some spec) b fuel
    -- Only the first four octets of this chunk are passed over, whatever its size.
    else if kind = utf8 "fact" then
      readChunks spec (b.drop 4) fuel
    else if kind = utf8 "data" then
      match spec with
      | some spec => return { spec, dataLength := size, rest := b }
      | none => throw .missingFormat
    else
      let (_, b) ← take size b
      readChunks spec b fuel

def parse (b : Bytes) : Except WavError Samples := do
  let (riff, b) ← take 4 b
  if riff ≠ utf8 "RIFF" then throw .noRiffTag
  let (_, b) ← word32 b
  let (wave, b) ← take 4 b
  if wave ≠ utf8 "WAVE" then throw .noWaveTag
  let samples ← readChunks none b (b.length + 1)
  if samples.count * samples.spec.containerBytes ≠ samples.dataLength then
    throw .lengthNotWholeSamples
  if samples.count % samples.spec.channels ≠ 0 then throw .lengthNotWholeFrames
  return samples

end SpeechClient.Wav
