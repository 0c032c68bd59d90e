import TaggedLibrary.Tag.AudioFile
import TaggedLibrary.Path
/-!
Kinds of audio file: told by the extension of a name or by the first bytes of the contents, and
which kinds of tag each can hold.
-/

namespace TaggedLibrary

inductive FileKind where
  | aac
  | aiff
  | ape
  | flac
  | mpeg
  | mp4
  | musepack
  | opus
  | vorbis
  | speex
  | wav
  | wavPack
deriving Repr, DecidableEq

inductive TagKind where
  | id3v2
  | id3v1
  | ape
deriving Repr, DecidableEq

namespace FileKind

/-- Extensions in small letters. -/
def extensions : List (String × FileKind) :=
  [("aac", .aac), ("ape", .ape), ("aiff", .aiff), ("aif", .aiff), ("afc", .aiff), ("aifc", .aiff),
   ("mp3", .mpeg), ("mp2", .mpeg), ("mp1", .mpeg), ("wav", .wav), ("wave", .wav),
   ("wv", .wavPack), ("opus", .opus), ("flac", .flac), ("ogg", .vorbis), ("mp4", .mp4),
   ("m4a", .mp4), ("m4b", .mp4), ("m4p", .mp4), ("m4r", .mp4), ("m4v", .mp4), ("3gp", .mp4),
   ("mpc", .musepack), ("mp+", .musepack), ("mpp", .musepack), ("spx", .speex)]

def lowerByte (b : UInt8) : UInt8 := if 0x41 ≤ b ∧ b ≤ 0x5A then b + 0x20 else b

/-- The kind that a name's extension stands for, in letters of either case. -/
def ofPath? (p : Path) : Option FileKind := do
  let extension : Bytes ← Path.extension? p
  (extensions.find? fun (name, _) => Utf8.encode name == extension.map lowerByte).map (·.2)

/-- The kinds of tag that a kind of file can have. -/
def canHold : FileKind → TagKind → Bool
  | .mpeg, _ | .ape, _ | .musepack, _ => true
  | .aac, .ape => false
  | .aac, _ => true
  | .aiff, .id3v2 | .flac, .id3v2 | .wav, .id3v2 => true
  | .wavPack, .id3v1 | .wavPack, .ape => true
  | _, _ => false

def startsWith (b : Bytes) (s : String) : Bool := (Utf8.encode s).isPrefixOf b

/-- The kind of an audio stream, by the second byte of a header. -/
def ofSync (b : UInt8) : FileKind :=
  if Id3v2.hasBit b 0x10 && b.toNat / 2 % 4 == 0 then .aac else .mpeg

/-- A stream whose first header lies within the first 1024 bytes. -/
def ofStream? (b : Bytes) : Option FileKind :=
  match Mpeg.findSync 0 (b.take AudioFile.junkLimit) with
  | some (_, _ :: second :: _) => some (ofSync second)
  | _ => none

/-- The kind of an Ogg stream, by the beginning of its first packet. -/
def ofOgg? (b : Bytes) : Option FileKind :=
  if startsWith (b.drop 29) "vorbis" then some .vorbis
  else if startsWith (b.drop 28) "OpusHead" then some .opus
  else if startsWith (b.drop 28) "Speex   " then some .speex
  else none

/-- The kind whose mark is at the very beginning. The mark of a container settles that no other kind
is meant, once there is room for the name of what it holds. -/
def ofMark? (b : Bytes) : Option FileKind :=
  let audio := match b with
    | first :: second :: _ => if Mpeg.isSync first second then some (ofSync second) else none
    | _ => none
  if startsWith b "MAC" then some .ape
  else if audio.isSome then audio
  else if startsWith b "FORM" && !lacks 12 b then
    if startsWith (b.drop 8) "AIFF" || startsWith (b.drop 8) "AIFC" then some .aiff else none
  else if startsWith b "OggS" && !lacks 36 b then ofOgg? b
  else if startsWith b "fLaC" then some .flac
  else if startsWith b "RIFF" && !lacks 12 b then
    if startsWith (b.drop 8) "WAVE" then some .wav else none
  else if startsWith b "wvpk" then some .wavPack
  else if startsWith (b.drop 4) "ftyp" then some .mp4
  else if startsWith b "MPCK" || startsWith b "MP+" then some .musepack
  else none

/-- The kind of some contents. Behind an ID3v2 tag three bytes are the mark; behind junk a header is
searched for. -/
def ofContents? (file : Bytes) : Option FileKind :=
  match ofMark? file with
  | some kind => some kind
  | none =>
    if file.take 3 = Id3v2.marker ∧ Id3v2.headerSize ≤ file.length then
      let rest := file.drop (Id3v2.headerSize + Id3v2.sevenBits ((file.drop 6).take 4))
      if startsWith rest "MAC" then some .ape
      else if startsWith rest "fLa" then some .flac
      else if startsWith rest "MPC" || startsWith rest "MP+" then some .musepack
      else ofStream? rest
    else ofStream? file

def oggError : TagError := .malformed "Ogg" "Page is missing a magic signature"

/-- Reads the tags of a file as one of its kind. Of containers only the mark is looked at. -/
def readTags (kind : FileKind) (file : Bytes) : Except TagError AudioTags :=
  match kind with
  | .mpeg => AudioFile.read file
  | .aac => do
    let front ← AudioFile.readFront file
    return { front.tags with id3v1 := (Id3v1.find? file).map Id3v1.fields }
  | .musepack | .wavPack => do
    let back ← AudioFile.readBack file
    return { id3v1 := back.id3v1, ape := back.ape }
  | .mp4 | .aiff => if ofMark? file = some kind then .ok {} else .error .unknownFormat
  | .ape =>
    if startsWith file "MAC" then .ok {}
    else .error (.malformed "Ape"
      "Invalid data found while reading header, expected any of [\"MAC \", \"APETAGEX\", \"ID3\"]")
  | .flac =>
    if startsWith file "fLaC" then .ok {}
    else .error (.malformed "Flac" "File missing \"fLaC\" stream marker")
  | .wav =>
    if ofMark? file = some .wav then .ok {}
    else .error (.malformed "Wav" "WAV file doesn't contain a RIFF chunk")
  | .opus | .vorbis | .speex => if ofMark? file = some kind then .ok {} else .error oggError

end FileKind

end TaggedLibrary
