import TaggedLibrary.Mpeg.FrameHeader
import TaggedLibrary.Tag.Id3v2.Tag
import TaggedLibrary.Tag.Id3v1
import TaggedLibrary.Tag.Ape
/-!
Reading the tags of an MPEG audio file: those in front of the first frame, and those at the end.
What a reader sees is the ID3v2 tag if there is one, else the ID3v1 tag, else the APE tag.
-/

namespace TaggedLibrary

/-- The tags that were found in a file. -/
structure AudioTags where
  id3v2 : Option (List Id3v2.Frame) := none
  id3v1 : Option TagFields := none
  ape : Option (List Ape.Item) := none
deriving Repr, DecidableEq

/-- The fields of the tag that counts. -/
def AudioTags.fields (t : AudioTags) : TagFields :=
  match t.id3v2, t.id3v1, t.ape with
  | some frames, _, _ => Id3v2.fields frames
  | none, some fields, _ => fields
  | none, none, some items => Ape.fields items
  | none, none, none => {}

namespace AudioFile

/-- How far into a file a tag is looked for before the first frame. -/
def junkLimit : Nat := 1024

/-- What was found before the audio, and the first frame with its place. -/
structure Front where
  tags : AudioTags
  frame : Option (Mpeg.FrameHeader × Nat)

/-- The bytes from the first `ID3` on, if it lies within the first `n`. -/
def findMarker : Nat → Bytes → Option Bytes
  | n + 3, a :: b :: c :: rest =>
    if [a, b, c] = Id3v2.marker then some (a :: b :: c :: rest)
    else findMarker (n + 2) (b :: c :: rest)
  | _, _ => none

/-- A tag buried in what lies before the first frame, at `place`. It has to be there in full. -/
def readBuried (file : Bytes) (place : Nat) : Except TagError (Option (List Id3v2.Frame)) :=
  match findMarker (min place junkLimit) file with
  | none => .ok none
  | some found =>
    match Id3v2.readHeader.split found with
    | .error _ => .ok none
    | .ok (header, rest) =>
      if lacks header.size rest then .error .endOfFile
      else (Id3v2.readTag found).map fun (_, frames, _) => some frames

/-- Frames of a further tag replace those of the first. -/
def addFrames (tags : AudioTags) (frames : List Id3v2.Frame) : AudioTags :=
  match tags.id3v2 with
  | none => { tags with id3v2 := some frames }
  | some before => { tags with id3v2 := some (frames.foldl Id3v2.insert before) }

/-- Looks for the first frame in `b`, the end of a file. Where no tag has been found, one is looked
for in all that lies before the frame. -/
def readAudio (file : Bytes) (tags : AudioTags) (b : Bytes) : Except TagError Front := do
  match ← Mpeg.findFrame (file.length - b.length) b with
  | none => return ⟨tags, none⟩
  | some (header, place) =>
    if tags.id3v2.isSome then return ⟨tags, some (header, place)⟩
    else match ← readBuried file place with
      | none => return ⟨tags, some (header, place)⟩
      | some frames => return ⟨addFrames tags frames, some (header, place)⟩

/-- Reads tags one after another, and then the audio. -/
def readTags (file : Bytes) : Nat → AudioTags → Bytes → Except TagError Front
  | 0, tags, _ => .ok ⟨tags, none⟩
  | fuel + 1, tags, b =>
    if lacks 4 b then .ok ⟨tags, none⟩
    else if b.take 3 = Id3v2.marker then do
      let (header, frames, rest) ← Id3v2.readTag b
      let rest :=
        if tags.id3v2.isNone && header.footer then rest.drop Id3v2.headerSize else rest
      readTags file fuel (addFrames tags frames) rest
    else if b.take 4 = Ape.marker.take 4 then
      if lacks 8 b then .error .endOfFile
      else if b.take 8 ≠ Ape.marker then .error .fakeTag
      else do
        let (tag, rest) ← (Ape.readAfter file.length).split (b.drop 8)
        readTags file fuel { tags with ape := some tag.items } rest
    else readAudio file tags b

/-- Reads the front of a file. Zeros before anything else are passed over; a file that has
nothing else is cut short. -/
def readFront (file : Bytes) : Except TagError Front :=
  match file.dropWhile (· = 0) with
  | [] => .error .endOfFile
  | b => readTags file (b.length + 1) {} b

/-- The room in which the end of a block of lyrics would stand. It has to be there, but such a
block is not passed over. -/
def lyricsRoom : Nat := 15

/-- The tags behind the audio. -/
structure Back where
  id3v1 : Option TagFields
  ape : Option (List Ape.Item)

/-- Where the ID3v1 tag begins, or else the file ends. -/
def tailStart (file : Bytes) : Nat :=
  if (Id3v1.find? file).isSome then file.length - Id3v1.size else file.length

/-- The APE tag at the end of a file, if there is one, and the place where its items and a footer
behind them end. -/
def readTailApe (file : Bytes) : Except TagError (Option (Ape.Tag × Nat)) :=
  if tailStart file < lyricsRoom then .error (.io .invalidArgument)
  else Ape.readBefore file (tailStart file)

/-- Reads the end of a file. -/
def readBack (file : Bytes) : Except TagError Back := do
  let id3v1 := (Id3v1.find? file).map Id3v1.fields
  match ← readTailApe file with
  | none => return { id3v1, ape := none }
  | some (tag, stop) =>
    if stop < tag.header.total then .error .sizeMismatch
    else return { id3v1, ape := some tag.items }

/-- The tags of a file and its first frame. -/
structure Contents where
  tags : AudioTags
  frame : Option (Mpeg.FrameHeader × Nat)

def readContents (file : Bytes) : Except TagError Contents := do
  let front ← readFront file
  let back ← readBack file
  return { tags := { front.tags with id3v1 := back.id3v1, ape := back.ape.or front.tags.ape }
           frame := front.frame }

/-- Reads the tags of a file. -/
def read (file : Bytes) : Except TagError AudioTags := (readContents file).map (·.tags)

def summarySize : Nat := 32

/-- Whether a player could make out what kind of audio this is: there is a frame, with room for
a summary of the whole file in it. -/
def hasProperties (file : Bytes) (c : Contents) : Bool :=
  match c.frame with
  | none => false
  | some (header, place) => !lacks summarySize (file.drop (place + header.summaryStart))

/-- What a file's tags say, read as a player does; nothing where they cannot be read. -/
def playerFields (file : Bytes) : Option TagFields :=
  match readContents file with
  | .ok c => if hasProperties file c then some c.tags.fields else none
  | .error _ => none

end AudioFile

end TaggedLibrary
