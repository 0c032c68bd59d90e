import TaggedLibrary.Tag.FileKind
import TaggedLibrary.Tag.Id3v2.Writer
/-!
Changing the tags of a file: its ID3v1 and APE tags are cut off, and a fresh ID3v2 tag is put in
front of its audio in the place of one that is there.
-/

namespace TaggedLibrary.AudioFile

/-- The kind of a file, by its contents, if it can hold a kind of tag. -/
def kindFor (tag : TagKind) (file : Bytes) : Except TagError FileKind :=
  match FileKind.ofContents? file with
  | none => .error .unknownFormat
  | some kind => if kind.canHold tag then .ok kind else .error .unsupportedTag

/-- Cuts off the ID3v1 tag. -/
def removeId3v1 (file : Bytes) : Except TagError Bytes := do
  let _ ← kindFor .id3v1 file
  return if (Id3v1.find? file).isSome then file.take (file.length - Id3v1.size) else file

/-- An APE tag in front of the audio, with the place where it begins. It is looked for eight bytes
behind the ID3v2 tag. -/
def readFrontApe (file : Bytes) : Except TagError (Option (Nat × Ape.Tag)) := do
  let rest ← Id3v2.dropTag file
  let (_, rest) ← (Reader.take 8).split rest
  let (mark, behind) ← (Reader.take Ape.marker.length).split rest
  if mark ≠ Ape.marker then return none
  else
    let tag ← (Ape.readAfter file.length).value behind
    return some (file.length - rest.length, tag)

/-- Cuts the APE tags off both ends. -/
def removeApe (file : Bytes) : Except TagError Bytes := do
  let _ ← kindFor .ape file
  let front ← readFrontApe file
  let back := (← readTailApe file).map (·.1)
  let stop := tailStart file
  let size := match back with
    | some tag => tag.header.total
    | none => 0
  if stop < size then .error .sizeMismatch
  else
    let file := file.take (stop - size) ++ file.drop stop
    return match front with
      | some (start, tag) => file.take start ++ file.drop (start + tag.header.total)
      | none => file

/-- How the numbers in a file of chunks are written. -/
structure ChunkNumbers where
  read : Bytes → Nat
  write : Nat → Bytes

/-- Names of chunks that hold a tag. -/
def tagChunkNames : List Bytes := [Utf8.encode "ID3 ", Utf8.encode "id3 "]

/-- The first chunk with a tag: its place and its length. A chunk has a name, a size, and as many
bytes; chunks of odd size are followed by one more. -/
def findTagChunk (numbers : ChunkNumbers) : Nat → Nat → Bytes → Option (Nat × Nat)
  | 0, _, _ => none
  | fuel + 1, place, b =>
    if lacks 8 b then none
    else
      let size := numbers.read ((b.drop 4).take 4)
      let length := 8 + size + size % 2
      if tagChunkNames.contains (b.take 4) then some (place, length)
      else findTagChunk numbers fuel (place + length) (b.drop length)

/-- Puts a tag as a chunk behind all others of a file of chunks, and takes out one that is there.
The file is itself a chunk, in which a name of four bytes comes first. -/
def putChunk (numbers : ChunkNumbers) (tag file : Bytes) : Except TagError Bytes :=
  let size := numbers.read ((file.drop 4).take 4)
  if lacks (8 + size) file then .error .sizeMismatch
  else
    let chunks := (file.take (8 + size)).drop 12
    let (size, file) := match findTagChunk numbers (chunks.length + 1) 12 chunks with
      | none => (size, file)
      | some (place, length) => (size - length, file.take place ++ file.drop (place + length))
    let chunk := Utf8.encode "ID3 " ++ numbers.write tag.length ++ tag
      ++ if tag.length % 2 = 0 then [] else [0]
    .ok (file.take 4 ++ numbers.write (size + chunk.length) ++ (file.drop 8).take size ++ chunk
      ++ file.drop (8 + size))

/-- Puts a track's tag into a file of a kind that has room for one. Of other kinds only an old tag
in front is cut off, or they are refused. -/
def putId3v2 (t : TrackTags) (file : Bytes) : Except TagError Bytes := do
  match ← kindFor .id3v2 file with
  | .mpeg | .aac => return (← Id3v2.encode t) ++ (← Id3v2.dropTag file)
  | .aiff => putChunk ⟨bigEndian, fun n => (fourBytes n).reverse⟩ (← Id3v2.encode t) file
  | .wav => putChunk ⟨littleEndian, fourBytes⟩ (← Id3v2.encode t) file
  | .flac | .ape => Id3v2.dropTag file
  | _ => .error .unsupportedTag

end TaggedLibrary.AudioFile
