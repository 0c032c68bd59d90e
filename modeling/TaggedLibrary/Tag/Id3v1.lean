import TaggedLibrary.Tag.Fields
import TaggedLibrary.Tag.Genre
/-!
The tag of fixed size at the end of a file: `TAG`, then five fields filled up with zeros. The last
two bytes of its comment may hold a zero and a track number.
-/

namespace TaggedLibrary.Id3v1

def size : Nat := 128

def marker : Bytes := [0x54, 0x41, 0x47]

/-- The text of a field, zeros left out. -/
def fieldText (b : Bytes) : Option String :=
  let b := b.filter (· ≠ 0)
  if b = [] then none else some (String.ofList (b.map fun x => Char.ofNat x.toNat))

/-- Reads the 128 bytes of a tag. Its year is no recording date. -/
def fields (b : Bytes) : TagFields :=
  let byte (n : Nat) : UInt8 := (b[n]?).getD 0
  { title := fieldText ((b.drop 3).take 30)
    artist := fieldText ((b.drop 33).take 30)
    album := fieldText ((b.drop 63).take 30)
    track := if byte 125 = 0 ∧ byte 126 ≠ 0 then some (UInt32.ofNat (byte 126).toNat) else none
    genre := Genre.names[(byte 127).toNat]? }

/-- The tag at the end of a file, if there is one. -/
def find? (file : Bytes) : Option Bytes :=
  if file.length < size then none
  else
    let tail := file.drop (file.length - size)
    if tail.take 3 = marker then some tail else none

end TaggedLibrary.Id3v1
