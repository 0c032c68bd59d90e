import TaggedLibrary.Tag.Fields
import TaggedLibrary.Tag.Encoding
/-!
APE tags: items of a name and a value between a header and a footer of 32 bytes each, of which
the header may be missing.
-/

namespace TaggedLibrary.Ape

def marker : Bytes := [0x41, 0x50, 0x45, 0x54, 0x41, 0x47, 0x45, 0x58]

def frameSize : Nat := 32
def leastItem : Nat := 11

/-- What a header or a footer says: the length of items and footer, the length of all of the
tag, and how many items it has. -/
structure Header where
  length : Nat
  total : Nat
  items : Nat
deriving Repr, DecidableEq

inductive ItemValue where
  | text (s : String)
  | binary (b : Bytes)
  | locator (s : String)
deriving Repr, DecidableEq

structure Item where
  key : String
  value : ItemValue
deriving Repr, DecidableEq

def number : Reader Nat := do return littleEndian (← Reader.take 4)

/-- The text of a value. -/
def valueText (kind : String) (b : Bytes) : Reader String :=
  match Utf8.decode? b with
  | some s => pure (TextEncoding.ofChars s.toList)
  | none =>
    Reader.fail (.malformed "Ape" ("Failed to convert " ++ kind ++ " item into a UTF-8 string"))

def value (kind : Nat) (b : Bytes) : Reader ItemValue :=
  match kind with
  | 0 => do return .text (← valueText "text" b)
  | 1 => pure (.binary b)
  | 2 => do return .locator (← valueText "locator" b)
  | _ => Reader.fail (.malformed "Ape" "APE tag item contains an invalid item type")

/-- Capital letters of ASCII. Of the letters beyond it, a dotless i and a long s have such ones
too. -/
def capital (c : Char) : Char :=
  if c = 'ı' then 'I' else if c = 'ſ' then 'S' else c.toUpper

/-- Markers of other tags, which are no keys. -/
def refusedKeys : List String := ["ID3", "TAG", "OGGS", "MP+"]

/-- A key, which a zero ends. It must not be the marker of another tag. -/
def key : Reader String := do
  let b ← get
  match b.dropWhile (· ≠ 0) with
  | [] =>
    set ([] : Bytes)
    Reader.fail .endOfFile
  | _ :: rest =>
    set rest
    match Utf8.decode? (b.takeWhile (· ≠ 0)) with
    | none => Reader.fail (.malformed "Ape" "APE tag item contains a non UTF-8 key")
    | some key =>
      if refusedKeys.contains (String.ofList (key.toList.map capital)) then
        Reader.fail (.malformed "Ape" "APE tag item contains an illegal key")
      else return key

/-- An item, the key of which consists of characters of ASCII that can be printed. -/
def item (key : String) (value : ItemValue) : Reader Item :=
  if key.toList.any (fun c => c < ' ' ∨ '~' < c) then
    Reader.fail (.malformed "Ape" "APE tag item key contains invalid characters")
  else pure ⟨key, value⟩

/-- Two keys that differ at most in case. -/
def sameKey (a b : String) : Bool := a.toList.map Char.toLower == b.toList.map Char.toLower

/-- A later item takes the place of an earlier one of its key. -/
def insert (items : List Item) (i : Item) : List Item :=
  items.filter (fun j => !sameKey j.key i.key) ++ [i]

/-- Reads items while they are announced and there is room for one. An item takes up only four bytes
of that room, and a value can be as long as what is left of it. An empty value, or a key that is too
short or too long, is passed over. -/
def readItems : Nat → Nat → List Item → Reader (List Item)
  | 0, _, items => pure items
  | n + 1, room, items =>
    if room < leastItem then pure items
    else do
      let size ← number
      if room < size then Reader.fail .sizeMismatch
      else
        let flags ← number
        let key ← key
        if size = 0 ∨ key.utf8ByteSize < 2 ∨ 255 < key.utf8ByteSize then
          Reader.skip size
          readItems n (room - 4) items
        else
          let value ← value (flags / 2 % 4) (← Reader.take size)
          readItems n (room - 4) (insert items (← item key value))

/-- Reads the twelve bytes after the marker. From version 2000 on a header is counted too. -/
def readHeader : Reader Header := do
  let version ← number
  let length ← number
  if length < frameSize then
    Reader.fail (.malformed "Ape" "APE tag has an invalid size (< 32)")
  else
    let items ← number
    let total := if version = 2000 then min (length + frameSize) (2 ^ 32 - 1) else length
    return { length, total, items }

/-- Refuses a tag that is longer than the file. -/
def Header.check (h : Header) (fileSize : Nat) : Except TagError Unit :=
  if fileSize < h.total then .error (.malformed "Ape" "APE tag has an invalid size (> file size)")
  else .ok ()

structure Tag where
  header : Header
  items : List Item
deriving Repr, DecidableEq

/-- Reads a tag behind the marker of its header, with its footer. -/
def readAfter (fileSize : Nat) : Reader Tag := do
  let header ← readHeader
  Reader.ofExcept (header.check fileSize)
  Reader.skip 12
  let items ← readItems header.items header.total []
  Reader.skip frameSize
  return { header, items }

/-- The tag whose footer ends at `stop`, if a footer is there, and the place where its items and a
footer behind them end. -/
def readBefore (file : Bytes) (stop : Nat) : Except TagError (Option (Tag × Nat)) :=
  if stop < frameSize then .error (.io .invalidArgument)
  else do
    let (mark, footer) ← (Reader.take marker.length).split (file.drop (stop - frameSize))
    if mark ≠ marker then return none
    else
      let header ← readHeader.value footer
      if stop < header.length then .error (.io .invalidArgument)
      else
        header.check file.length
        let (items, rest) ←
          (readItems header.items header.total []).split (file.drop (stop - header.length))
        return some ({ header, items }, file.length - rest.length + frameSize)

def textOf? (items : List Item) (keys : List String) : Option String :=
  (items.find? fun i => keys.any (sameKey i.key ·)).bind fun i =>
    match i.value with
    | .text s => some s
    | _ => none

/-- The two halves of a value that may hold a number, a slash and a total. -/
def pair (s : Option String) : Option UInt32 × Option UInt32 :=
  match s with
  | none => (none, none)
  | some s =>
    let cs := s.toList
    (Numeral.uint32? (String.ofList (cs.takeWhile (· ≠ '/'))),
     match cs.dropWhile (· ≠ '/') with
     | _ :: total => Numeral.uint32? (String.ofList total)
     | [] => none)

/-- What the items say. A year is no recording date. -/
def fields (items : List Item) : TagFields :=
  let track := pair (textOf? items ["Track"])
  let disc := pair (textOf? items ["Disc"])
  { title := textOf? items ["Title"], artist := textOf? items ["Artist"]
    albumArtist := textOf? items ["Album Artist", "AlbumArtist"]
    album := textOf? items ["Album"]
    track := track.1, trackTotal := track.2, disc := disc.1, discTotal := disc.2
    genre := textOf? items ["Genre"] }

end TaggedLibrary.Ape
