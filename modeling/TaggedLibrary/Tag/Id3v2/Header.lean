import TaggedLibrary.Tag.Reader
/-!
The head of an ID3v2 tag: its version, its flags, and its size in groups of seven bits.
-/

namespace TaggedLibrary.Id3v2

inductive Version where
  | v2
  | v3
  | v4
deriving Repr, DecidableEq

def Version.ofByte? : UInt8 → Option Version
  | 2 => some .v2
  | 3 => some .v3
  | 4 => some .v4
  | _ => none

def marker : Bytes := [0x49, 0x44, 0x33]

def headerSize : Nat := 10

/-- A number of seven bits a byte; the eighth does not count. -/
def sevenBits (b : Bytes) : Nat := b.foldl (fun n x => n * 128 + x.toNat % 128) 0

/-- Four bytes of seven bits each. -/
def toSevenBits (n : Nat) : Bytes :=
  [UInt8.ofNat (n / 128 ^ 3 % 128), UInt8.ofNat (n / 128 ^ 2 % 128),
   UInt8.ofNat (n / 128 % 128), UInt8.ofNat (n % 128)]

theorem sevenBits_toSevenBits {n : Nat} (h : n < 2 ^ 28) : sevenBits (toSevenBits n) = n := by
  simp only [sevenBits, toSevenBits, List.foldl, UInt8.toNat_ofNat']
  omega

/-- What the head of a tag says: `size` counts what follows its ten bytes, `extended` is the part of
it that an extended header claims. A footer of ten bytes is not counted. -/
structure Header where
  version : Version
  unsynchronised : Bool
  footer : Bool
  size : Nat
  extended : Nat
deriving Repr, DecidableEq

def hasBit (b : UInt8) (bit : Nat) : Bool := b.toNat / bit % 2 == 1

/-- Reads an extended header and gives the size it says it has. A checksum and restrictions on the
tag are read over. -/
def readExtended : Reader Nat := do
  let size := sevenBits (← Reader.take 4)
  if size < 6 then Reader.fail (.id3v2 .extendedHeader)
  else
    let _ ← Reader.byte
    let flags ← Reader.byte
    let _ ← Reader.take ((if hasBit flags 0x20 then 6 else 0) + if hasBit flags 0x10 then 2 else 0)
    return size

/-- Reads the head of a tag. -/
def readHeader : Reader Header := do
  let head ← Reader.take headerSize
  let major := head.getD 3 0
  let flags := head.getD 5 0
  if head.take 3 ≠ marker then Reader.fail .fakeTag
  else match Version.ofByte? major with
    | none => Reader.fail (.id3v2 (.version major.toNat (head.getD 4 0).toNat))
    | some version =>
      if version = .v2 ∧ hasBit flags 0x40 then Reader.fail (.id3v2 .compressedTag)
      else
        let size := sevenBits (head.drop 6)
        let extended ←
          if version ≠ .v2 ∧ hasBit flags 0x40 then
            let extended ← readExtended
            if size ≤ extended then Reader.fail (.id3v2 .extendedHeader) else pure extended
          else pure 0
        return { version, size, extended
                 unsynchronised := hasBit flags 0x80
                 footer := version ≠ .v2 && hasBit flags 0x10 }

/-- The bytes of a tag's frames behind its head, and those that follow the tag. -/
def Header.cut (h : Header) (b : Bytes) : Bytes × Bytes :=
  (b.take (h.size - h.extended), b.drop (h.size - h.extended))

/-- Takes out the zero that was put after every byte of ones. -/
def resynchronise : Bytes → Bytes
  | a :: b :: rest =>
    if a = 0xFF ∧ b = 0 then a :: resynchronise rest else a :: resynchronise (b :: rest)
  | b => b

end TaggedLibrary.Id3v2
