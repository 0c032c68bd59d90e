import TaggedLibrary.Tag.Id3v2.FrameId
import TaggedLibrary.Tag.Encoding
import TaggedLibrary.Tag.Timestamp
/-!
What is inside a frame. Frames that hold no text of the track are read only to see whether they
are sound, and how far they reach: one that is not sound makes the whole tag unreadable.
-/

namespace TaggedLibrary.Id3v2

/-- A frame as far as a reader of tracks is concerned. -/
inductive Frame where
  | text (id : String) (value : String)
  | time (id : String) (value : Timestamp)
  | other
deriving Repr, DecidableEq

/-- Reads the content of a frame; there may be nothing in it. -/
abbrev ContentReader := Reader (Option Frame)

namespace Content

def anyEncoding (b : UInt8) : Reader TextEncoding :=
  match TextEncoding.ofByte? b with
  | some e => pure e
  | none => Reader.fail (.textDecode "Found invalid encoding")

/-- The encoding that a byte names. The first version had only two of them. -/
def encoding (version : Version) (b : UInt8) : Reader TextEncoding :=
  if version = .v2 ∧ 1 < b then Reader.fail (.id3v2 .encoding) else anyEncoding b

/-- A frame that begins with a byte. Without one there is nothing in it. -/
def startingWithByte (read : UInt8 → ContentReader) : ContentReader := do
  match ← Reader.byte? with
  | none => return none
  | some b => read b

/-- A frame that begins with the byte of its encoding. -/
def encoded (version : Version) (read : TextEncoding → ContentReader) : ContentReader :=
  startingWithByte fun b => do read (← encoding version b)

/-- A text. -/
def text (version : Version) (id : String) : ContentReader :=
  encoded version fun e => do return some (.text id (← e.toEnd))

/-- A date; nothing if it is empty or not ASCII. -/
def time (id : String) : ContentReader :=
  startingWithByte fun b => do
    let text ← (← anyEncoding b).toEnd
    if text.toList.any (fun c => 128 ≤ c.toNat) then return none
    else return (← Reader.ofExcept (Timestamp.parse (Utf8.encode text))).map (.time id)

/-- A text in UTF-16 that the user has named. It takes its order of bytes from its own mark or else
from its name. -/
def namedWideText (order : Option TextEncoding.ByteOrder) : Reader Unit := do
  let text ← Reader.toEnd
  if text = [] then return ()
  else
    let mark := TextEncoding.ByteOrder.ofMark? text
    match mark.or order with
    | none => Reader.fail (.textDecode "UTF-16 string has no BOM")
    | some order =>
      match TextEncoding.wideText order (if mark.isSome then text.drop 2 else text) with
      | .error _ => Reader.fail (.id3v2 .userText)
      | .ok _ => return ()

/-- A text that the user has named. -/
def namedText (version : Version) : ContentReader :=
  encoded version fun e => do
    let name ← e.upToZero none
    if e = .utf16 then namedWideText name.order else discard e.toEnd
    return some .other

/-- An address that the user has named. -/
def namedAddress (version : Version) : ContentReader :=
  encoded version fun e => do
    let _ ← e.upToZero none
    Reader.drain
    return some .other

/-- An address, up to a zero. -/
def address : ContentReader := do
  let found ← TextEncoding.latin1.upToZero none
  return if found.text = "" then none else some .other

/-- A comment or lyrics: a language of three letters, a description, a text. -/
def languageText (version : Version) : ContentReader :=
  encoded version fun e => do
    let _ ← Reader.take 3
    let _ ← e.upToZero none
    let _ ← e.toEnd
    return some .other

/-- Names and values in turn, until one of them is empty. -/
def morePairs (e : TextEncoding) (order : Option TextEncoding.ByteOrder) : Nat → Reader Unit
  | 0 => pure ()
  | fuel + 1 => do
    let name ← e.upToZero order
    let value ← e.upToZero order
    if name.text = "" ∨ value.text = "" then return () else morePairs e order fuel

/-- A list of names and values. In UTF-16 the first name tells the order of bytes for all. -/
def pairs (version : Version) : ContentReader :=
  encoded version fun e => do
    let name ← e.upToZero none
    if name.text = "" then return none
    else
      let _ ← e.upToZero name.order
      morePairs e name.order (← get).length
      return some .other

def pictureFormats : List Bytes := [[0x50, 0x4E, 0x47], [0x4A, 0x50, 0x47]]

/-- A picture: its kind of image, its use, a description. -/
def picture (version : Version) : ContentReader := do
  match TextEncoding.ofByte? (← Reader.byte) with
  | none => Reader.fail .notPicture
  | some e =>
    if version = .v2 then
      let format ← Reader.take 3
      if !pictureFormats.contains format then
        Reader.fail (.id3v2 (.pictureFormat (Utf8.decodeLossy format)))
    else discard (TextEncoding.latin1.upToZero none)
    let _ ← Reader.byte
    let _ ← e.upToZero none
    Reader.drain
    return some .other

/-- A rating: an address, then at least the rating itself. -/
def rating : ContentReader := do
  let _ ← TextEncoding.latin1.upToZero none
  let _ ← Reader.byte
  Reader.drain
  return some .other

/-- A purchase: a price, eight bytes of a date, a seller. -/
def purchase : ContentReader :=
  startingWithByte fun b => do
    let e ← anyEncoding b
    let _ ← TextEncoding.latin1.upToZero none
    match Utf8.fault? 0 (Utf8.pieces (← Reader.take 8)) with
    | some (place, length) => Reader.fail (.notUtf8 place length)
    | none =>
      let _ ← e.toEnd
      return some .other

/-- Events of five bytes each, in a unit of time. -/
def events : ContentReader :=
  startingWithByte fun b => do
    if b ≠ 1 ∧ b ≠ 2 then Reader.fail (.id3v2 .timeUnit)
    else if (← Reader.toEnd).length % 5 ≠ 0 then Reader.fail .endOfFile
    else return some .other

/-- Volumes of channels, each with as many bits of peak as it says. -/
def moreVolumes : Nat → Reader Unit
  | 0 => pure ()
  | fuel + 1 => do
    match ← Reader.byte? with
    | none => return ()
    | some _ =>
      let _ ← Reader.take 2
      let bits ← Reader.byte
      let _ ← Reader.take ((bits.toNat + 7) / 8)
      moreVolumes fuel

/-- The volumes of the channels behind a name. -/
def volumes : ContentReader := do
  let _ ← TextEncoding.latin1.upToZero none
  moreVolumes ((← get).length + 1)
  return some .other

/-- Bytes that are not looked into. -/
def binary : ContentReader := do
  Reader.drain
  return some .other

end Content

/-- The reader of a frame's content, by the frame's name. -/
def contentReader (version : Version) (id : String) : ContentReader :=
  match id with
  | "APIC" => Content.picture version
  | "TXXX" => Content.namedText version
  | "WXXX" => Content.namedAddress version
  | "COMM" | "USLT" => Content.languageText version
  | "TIPL" | "TMCL" => Content.pairs version
  | "RVA2" => Content.volumes
  | "OWNE" => Content.purchase
  | "ETCO" => Content.events
  | "POPM" => Content.rating
  | "TDEN" | "TDOR" | "TDRC" | "TDRL" | "TDTG" => Content.time id
  | "WFED" | "GRP1" | "MVNM" | "MVIN" => Content.text version id
  | _ =>
    match id.toList.head? with
    | some 'T' => Content.text version id
    | some 'W' => Content.address
    | _ => Content.binary

end TaggedLibrary.Id3v2
