import TaggedLibrary.Tag.Error
/-!
The four-byte header that begins every frame of MPEG audio, and the search for the first frame:
a header counts when it leads, over its own frame, to another one like it.
-/

namespace TaggedLibrary.Mpeg

/-- The bit rates of a layer in thousands, by index; zero where there is none. -/
def bitRates (firstVersion : Bool) (layer : Nat) : List Nat :=
  match firstVersion, layer with
  | true, 1 => [0, 32, 64, 96, 128, 160, 192, 224, 256, 288, 320, 352, 384, 416, 448, 0]
  | true, 2 => [0, 32, 48, 56, 64, 80, 96, 112, 128, 160, 192, 224, 256, 320, 384, 0]
  | true, _ => [0, 32, 40, 48, 56, 64, 80, 96, 112, 128, 160, 192, 224, 256, 320, 0]
  | false, 1 => [0, 32, 48, 56, 64, 80, 96, 112, 128, 144, 160, 176, 192, 224, 256, 0]
  | false, _ => [0, 8, 16, 24, 32, 40, 48, 56, 64, 80, 96, 112, 128, 144, 160, 0]

inductive Version where
  | one
  | two
  | twoAndHalf
deriving Repr, DecidableEq

def Version.ofBits? : Nat → Option Version
  | 0 => some .twoAndHalf
  | 2 => some .two
  | 3 => some .one
  | _ => none

def Version.sampleRates : Version → List Nat
  | .one => [44100, 48000, 32000]
  | .two => [22050, 24000, 16000]
  | .twoAndHalf => [11025, 12000, 8000]

/-- What a header says about its frame: its length in bytes, and where the room for a summary
of the whole file starts in it. -/
structure FrameHeader where
  length : Nat
  summaryStart : Nat
deriving Repr, DecidableEq

/-- Reads the 32 bits of a header. -/
def FrameHeader.ofBits? (data : Nat) : Option FrameHeader := do
  let version ← Version.ofBits? (data >>> 19 % 4)
  let layer ← match data >>> 17 % 4 with
    | 0 => none
    | n => some (4 - n)
  let rate ← (bitRates (version = .one) layer)[data >>> 12 % 16]?
  if rate = 0 then none
  let sampleRate ← version.sampleRates[data >>> 10 % 4]?
  let padding := if data >>> 9 % 2 = 0 then 0 else if layer = 1 then 4 else 1
  let samples := if layer = 1 then 384 else if layer = 3 ∧ version ≠ .one then 576 else 1152
  let mono := data >>> 6 % 4 = 3
  let sideInformation :=
    if version = .one then if mono then 17 else 32 else if mono then 9 else 17
  return { length := samples * rate * 125 / sampleRate + padding
           summaryStart := sideInformation + 4 }

/-- Whether two bytes begin a header: eleven bits set. -/
def isSync (a b : UInt8) : Bool := a == 0xFF && b ≥ 0xE0

/-- The first place at or after `offset` where a header could begin, and the bytes from there. -/
def findSync : Nat → Bytes → Option (Nat × Bytes)
  | offset, a :: b :: rest =>
    if isSync a b then some (offset, a :: b :: rest) else findSync (offset + 1) (b :: rest)
  | _, _ => none

/-- The bits in which the headers of one stream agree. -/
def likeness : Nat := 0xFFFE0C00

/-- Two headers of one stream. -/
def alike (a b : Nat) : Bool := a &&& likeness == b &&& likeness

/-- What a place that could begin a frame turns out to be. -/
inductive Candidate where
  | frame (header : FrameHeader)
  /-- the file ends before the header that should follow -/
  | cutShort
  /-- no frame; the search goes on this many bytes and four more behind it -/
  | none (further : Nat)

/-- Tests the bytes from a sync on. -/
def Candidate.test (found : Bytes) : Candidate :=
  let data := bigEndian (found.take 4)
  match FrameHeader.ofBits? data with
  | .none => .none 0
  | some header =>
    let next := found.drop (max header.length 4)
    if lacks 4 next then .cutShort
    else if alike data (bigEndian (next.take 4)) then .frame header
    else .none (header.length - 4)

/-- Tries one candidate after another, at most `fuel` of them. -/
def findFrameWithin : Nat → Nat → Bytes → Except TagError (Option (FrameHeader × Nat))
  | 0, _, _ => .ok none
  | fuel + 1, offset, b =>
    match findSync offset b with
    | none => .ok none
    | some (pos, found) =>
      if lacks 4 found then .error .endOfFile
      else match Candidate.test found with
        | .frame header => .ok (some (header, pos))
        | .cutShort => .ok none
        | .none further => findFrameWithin fuel (pos + further + 4) (found.drop (further + 4))

/-- The first frame at or after `offset`, with its place. Each candidate uses up four bytes, so
there are fewer of them than bytes. -/
def findFrame (offset : Nat) (b : Bytes) : Except TagError (Option (FrameHeader × Nat)) :=
  findFrameWithin (b.length + 1) offset b

end TaggedLibrary.Mpeg
