import TaggedLibrary.Tag.Id3v2.Content
import TaggedLibrary.Tag.Fields
import TaggedLibrary.Tag.Genre
/-!
Reading an ID3v2 tag: its frames one after another, and what they say about the track.
-/

namespace TaggedLibrary.Id3v2

/-- The flags of a frame that change how its content is read. -/
structure FrameFlags where
  grouped : Bool
  compressed : Bool
  encrypted : Bool
  unsynchronised : Bool
  measured : Bool
deriving Repr, DecidableEq

def FrameFlags.ofBytes (version : Version) (b : UInt8) : FrameFlags :=
  if version = .v4 then
    { grouped := hasBit b 0x40, compressed := hasBit b 8, encrypted := hasBit b 4
      unsynchronised := hasBit b 2, measured := hasBit b 1 }
  else
    { grouped := hasBit b 0x20, compressed := hasBit b 0x80, encrypted := hasBit b 0x40
      unsynchronised := false, measured := false }

def FrameFlags.none : FrameFlags := ⟨false, false, false, false, false⟩

/-- The head of a frame. A name that is no name is `none`. -/
structure FrameHeader where
  id : Option String
  size : Nat
  flags : FrameFlags
deriving Repr, DecidableEq

/-- Reads a frame's head, if one is there: a zero or too few bytes end the frames. With a zero for
its last letter a name is one of three letters. In version 2.3 that is a name of version 2.2, but
not in version 2.4. -/
def readFrameHeader (version : Version) (b : Bytes) : Option (FrameHeader × Bytes) :=
  match version, b with
  | .v2, a :: c :: d :: s1 :: s2 :: s3 :: rest =>
    if a = 0 then none
    else some (⟨(idText? [a, c, d]).map (rename namesOfV2), bigEndian [s1, s2, s3], .none⟩, rest)
  | .v2, _ => none
  | _, a :: c :: d :: e :: s1 :: s2 :: s3 :: s4 :: _ :: f2 :: rest =>
    if a = 0 then none
    else
      let id := idText? (if e = 0 then [a, c, d] else [a, c, d, e])
      let id := if version = .v3 then id.map (rename (if e = 0 then namesOfV2 else namesOfV3))
        else id
      let size := [s1, s2, s3, s4]
      some (⟨id, if version = .v4 then sevenBits size else bigEndian size,
        FrameFlags.ofBytes version f2⟩, rest)
  | _, _ => none

/-- Reads `n` bytes before the content, where a flag says that they are there, and gives the size
that is left for the rest. -/
def readExtra (present : Bool) (n size : Nat) : Reader Nat :=
  if !present then pure size
  else if size < n then Reader.fail (.id3v2 .frameLength)
  else do
    let _ ← Reader.take n
    return size - n

/-- Reads an encrypted content, of which nothing can be made out. -/
def readEncrypted (measured : Bool) (size : Nat) : ContentReader :=
  if !measured then Reader.fail (.id3v2 .encryptedWithoutLength)
  else do
    let _ ← Reader.take size
    return some .other

/-- Reads the body of a frame whose name is known. What its content leaves unread is not passed over
if there is something in it, but read as the frames that follow. Compressed content is not
unpacked. -/
def readBody (version : Version) (id : String) (flags : FrameFlags) (size : Nat) :
    ContentReader := do
  let size ← readExtra flags.encrypted 1 size
  let size ← readExtra flags.grouped 1 size
  let size ← readExtra (flags.measured || flags.compressed) 4 size
  if size = 0 then Reader.fail (.id3v2 .frameLength)
  else if flags.compressed then Reader.fail (.io (.other "corrupt deflate stream"))
  else
    let content :=
      if flags.encrypted then readEncrypted flags.measured size else contentReader version id
    Reader.within size do
      let found ←
        if flags.unsynchronised then Reader.apart (resynchronise (← Reader.toEnd)) content
        else content
      if found.isNone then Reader.drain
      return found

/-- Whether a frame's value is known to be empty. -/
def Frame.isEmpty : Frame → Bool
  | .text _ value => value = ""
  | _ => false

/-- Two frames of which a tag holds only one: texts of one name, or the same date twice. -/
def Frame.sameAs : Frame → Frame → Bool
  | .text a _, .text b _ => a == b
  | .time _ a, .time _ b => a == b
  | _, _ => false

/-- Puts a frame into a tag, in the place of one like it. -/
def insert (frames : List Frame) (f : Frame) : List Frame :=
  match f with
  | .other => frames
  | f => frames.filter (fun g => !g.sameAs f) ++ [f]

/-- Puts a frame into a tag, unless it is empty and one like it is there. -/
def insertValue (frames : List Frame) (f : Frame) : List Frame :=
  if f.isEmpty && frames.any (·.sameAs f) then frames else insert frames f

/-- Reads frames until there are no more. -/
def readFrames (version : Version) : Nat → List Frame → Bytes → Except TagError (List Frame)
  | 0, frames, _ => .ok frames
  | fuel + 1, frames, b =>
    match readFrameHeader version b with
    | none => .ok frames
    | some (header, rest) =>
      match header.id with
      | none => readFrames version fuel frames (rest.drop header.size)
      | some id =>
        if header.size = 0 then readFrames version fuel frames rest
        else
          match (readBody version id header.flags header.size).run rest with
          | (.error e, _) => .error e
          | (.ok none, rest) => readFrames version fuel frames rest
          | (.ok (some f), rest) => readFrames version fuel (insertValue frames f) rest

def text? (frames : List Frame) (id : String) : Option String :=
  frames.findSome? fun
    | .text i value => if i = id then some value else none
    | _ => none

/-- The dates of a track, the first of which counts. -/
def dates (frames : List Frame) : List Timestamp :=
  frames.filterMap fun
    | .time "TDRC" value => some value
    | _ => none

/-- Two numbers of two digits each. -/
def fourDigits? (s : String) : Option (Nat × Nat) :=
  match s.toList with
  | [a, b, c, d] =>
    match Numeral.uint32? (String.ofList [a, b]), Numeral.uint32? (String.ofList [c, d]) with
    | some m, some n => some (m.toNat, n.toNat)
    | _, _ => none
  | _ => none

/-- In version 2.3 the day and the time stand in frames of their own beside the year, and there is
one year. One that brings its own month is no year of that version and is dropped. -/
def joinDate (frames : List Frame) : List Frame :=
  match dates frames with
  | [] => frames
  | year :: _ =>
    let others := frames.filter fun
      | .time "TDRC" _ => false
      | _ => true
    if year.month.isSome then others
    else
      let day := (text? frames "TDAT").bind fourDigits?
      let hour := (text? frames "TIME").bind fourDigits?
      let date := match day with
        | none => year
        | some (day, month) =>
          { year with month := some month, day := some day
                      hour := hour.map (·.1), minute := hour.map (·.2) }
      insert others (.time "TDRC" date)

/-- Reads the tag at the front of `b`: its head, its frames, and what follows it. -/
def readTag (b : Bytes) : Except TagError (Header × List Frame × Bytes) := do
  let (header, rest) ← readHeader.split b
  let (content, rest) := header.cut rest
  let content := if header.unsynchronised then resynchronise content else content
  let frames ← readFrames header.version content.length [] content
  return (header, if header.version = .v3 then joinDate frames else frames, rest)

/-- The first of the values in a text. -/
def firstValue (s : String) : String := String.ofList (s.toList.takeWhile (· ≠ '\x00'))

/-- A number and perhaps a total, set off by a slash or a NUL. If either half is no number, no
number is read, and the first of the values in the text is taken for the total. -/
def pair (s : String) : Option UInt32 × Option UInt32 :=
  let isMark := fun c : Char => c = '/' ∨ c = '\x00'
  let number? := fun cs : List Char => Numeral.uint32? (String.ofList (Blank.trimChars cs))
  let first := number? (s.toList.takeWhile (!isMark ·))
  let second := match s.toList.dropWhile (!isMark ·) with
    | [] => some none
    | _ :: total => (number? total).map some
  match first, second with
  | some n, some total => (some n, total)
  | _, _ => (none, Numeral.uint32? (firstValue s))

/-- What the frames say. -/
def fields (frames : List Frame) : TagFields :=
  let first (id : String) : Option String := (text? frames id).map firstValue
  let numbers (id : String) : Option UInt32 × Option UInt32 :=
    match text? frames id with
    | some s => pair s
    | none => (none, none)
  { title := first "TIT2", artist := first "TPE1", albumArtist := first "TPE2"
    album := first "TALB"
    track := (numbers "TRCK").1, trackTotal := (numbers "TRCK").2
    disc := (numbers "TPOS").1, discTotal := (numbers "TPOS").2
    year := ((dates frames).find? (·.isValid)).map (·.text)
    genre := (text? frames "TCON").bind Genre.first? }

end TaggedLibrary.Id3v2
