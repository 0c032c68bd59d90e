import TaggedLibrary.Bytes
/-!
Bytes and the texts they spell. `Utf8.decode?` accepts exactly the well-formed byte strings;
`Utf8.pieces` reads any byte string at all, cutting what is malformed into the longest
beginnings of a character that the following bytes do not complete.
-/

namespace TaggedLibrary

namespace Utf8

/-- The bytes of a text. -/
def encode (s : String) : Bytes := s.toByteArray.data.toList

/-- The text that well-formed bytes spell. -/
def decode? (b : Bytes) : Option String := String.fromUTF8? ⟨b.toArray⟩

theorem decode?_encode (s : String) : decode? (encode s) = some s := by
  have h : (⟨(encode s).toArray⟩ : ByteArray) = s.toByteArray := by
    simp [encode]
  simp only [decode?, h, String.fromUTF8?]
  rw [dif_pos s.isValidUTF8]
  rfl

/-- A part of a byte string: a character, or bytes that begin none that is completed. -/
inductive Piece where
  | char (c : Char)
  | broken (bytes : Bytes)
deriving Repr, DecidableEq

/-- What a first byte announces: how many bytes follow it, the bounds of the next one (they
shut out overlong forms, surrogates and what lies above U+10FFFF), and the bits it gives. -/
structure Lead where
  following : Nat
  low : UInt8 := 0x80
  high : UInt8 := 0xBF
  bits : Nat

def Lead.ofByte? (b : UInt8) : Option Lead :=
  if 0xC2 ≤ b ∧ b ≤ 0xDF then some { following := 1, bits := b.toNat - 0xC0 }
  else if 0xE0 ≤ b ∧ b ≤ 0xEF then
    some { following := 2, bits := b.toNat - 0xE0
           low := if b = 0xE0 then 0xA0 else 0x80
           high := if b = 0xED then 0x9F else 0xBF }
  else if 0xF0 ≤ b ∧ b ≤ 0xF4 then
    some { following := 3, bits := b.toNat - 0xF0
           low := if b = 0xF0 then 0x90 else 0x80
           high := if b = 0xF4 then 0x8F else 0xBF }
  else none

/-- Reads up to `n` following bytes: how many of them fit, and the code point when all did. -/
def follow : Nat → UInt8 → UInt8 → Nat → Bytes → Nat × Option Nat
  | 0, _, _, value, _ => (0, some value)
  | _ + 1, _, _, _, [] => (0, none)
  | n + 1, low, high, value, b :: rest =>
    if low ≤ b ∧ b ≤ high then
      let (taken, result) := follow n 0x80 0xBF (value * 64 + (b.toNat - 0x80)) rest
      (taken + 1, result)
    else (0, none)

/-- Every byte string cut into characters and broken parts, nothing left out. -/
def pieces : Bytes → List Piece
  | [] => []
  | b :: rest =>
    if b < 0x80 then .char (Char.ofNat b.toNat) :: pieces rest
    else match Lead.ofByte? b with
      | none => .broken [b] :: pieces rest
      | some lead =>
        let (taken, value) := follow lead.following lead.low lead.high lead.bits rest
        let piece := match value with
          | some v => .char (Char.ofNat v)
          | none => .broken (b :: rest.take taken)
        piece :: pieces (rest.drop taken)
termination_by b => b.length
decreasing_by all_goals simp; try omega

/-- The text of any byte string, each broken part shown as U+FFFD. -/
def decodeLossy (b : Bytes) : String :=
  String.ofList ((pieces b).map fun
    | .char c => c
    | .broken _ => '\uFFFD')

/-- The first broken part behind `offset` bytes: its place and its length. A character that the end
cuts short is broken too, but has no length. -/
def fault? (offset : Nat) : List Piece → Option (Nat × Option Nat)
  | [] => none
  | .char c :: rest => fault? (offset + c.utf8Size) rest
  | .broken bytes :: rest =>
    let cutShort := rest.isEmpty && (bytes.head?.bind Lead.ofByte?).isSome
    some (offset, if cutShort then none else some bytes.length)

end Utf8

end TaggedLibrary
