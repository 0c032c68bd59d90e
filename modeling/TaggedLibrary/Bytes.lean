import TaggedLibrary.Powers
/-!
Raw bytes, and the numbers that they spell.
-/

namespace TaggedLibrary

/-- Raw bytes: the contents of a file, or a name as the file system keeps it. -/
abbrev Bytes := List UInt8

/-- Whether there are fewer than `n` bytes. No more than `n` of them are looked at. -/
def lacks (n : Nat) (b : Bytes) : Bool := (b.take n).length < n

theorem lacks_eq (n : Nat) (b : Bytes) : lacks n b = decide (b.length < n) := by
  simp only [lacks, List.length_take, decide_eq_decide]
  omega

/-- A number written with its highest byte first. -/
def bigEndian (b : Bytes) : Nat := b.foldl (fun n x => n * 256 + x.toNat) 0

/-- A number written with its lowest byte first. -/
def littleEndian (b : Bytes) : Nat := b.foldr (fun x n => n * 256 + x.toNat) 0

/-- The four lowest bytes of a number, the lowest first. -/
def fourBytes (n : Nat) : Bytes :=
  [UInt8.ofNat (n % 256), UInt8.ofNat (n / 256 % 256), UInt8.ofNat (n / 256 ^ 2 % 256),
   UInt8.ofNat (n / 256 ^ 3 % 256)]

theorem littleEndian_fourBytes {n : Nat} (h : n < 2 ^ 32) : littleEndian (fourBytes n) = n := by
  simp only [littleEndian, fourBytes, List.foldr, UInt8.toNat_ofNat']
  omega

end TaggedLibrary
