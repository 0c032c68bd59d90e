import TaggedLibrary.Tag.Reader
/-!
The four encodings of text in ID3v2 frames. Zero characters at the end of a text are dropped.
-/

namespace TaggedLibrary

inductive TextEncoding where
  | latin1
  | utf16
  | utf16BigEndian
  | utf8
deriving Repr, DecidableEq

namespace TextEncoding

def ofByte? : UInt8 → Option TextEncoding
  | 0 => some .latin1
  | 1 => some .utf16
  | 2 => some .utf16BigEndian
  | 3 => some .utf8
  | _ => none

/-- Whether a zero takes two bytes. -/
def isWide : TextEncoding → Bool
  | .utf16 | .utf16BigEndian => true
  | _ => false

/-- The order of the two bytes of a unit. -/
inductive ByteOrder where
  | bigEndian
  | littleEndian
deriving Repr, DecidableEq

def ByteOrder.unit : ByteOrder → UInt8 → UInt8 → Nat
  | .bigEndian, a, b => a.toNat * 256 + b.toNat
  | .littleEndian, a, b => b.toNat * 256 + a.toNat

def ByteOrder.ofMark? : Bytes → Option ByteOrder
  | 0xFE :: 0xFF :: _ => some .bigEndian
  | 0xFF :: 0xFE :: _ => some .littleEndian
  | _ => none

/-- The units of wide text, marks of byte order left out wherever they stand. -/
def units (order : ByteOrder) : Bytes → List Nat
  | a :: b :: rest =>
    if (a == 0xFF && b == 0xFE) || (a == 0xFE && b == 0xFF) then units order rest
    else order.unit a b :: units order rest
  | _ => []

/-- The characters of wide text; none if a surrogate has no partner. -/
def unitChars? : List Nat → Option (List Char)
  | [] => some []
  | u :: rest =>
    if 0xD800 ≤ u ∧ u < 0xDC00 then
      match rest with
      | v :: rest =>
        if 0xDC00 ≤ v ∧ v < 0xE000 then
          (unitChars? rest).map (Char.ofNat (0x10000 + (u - 0xD800) * 0x400 + (v - 0xDC00)) :: ·)
        else none
      | [] => none
    else if 0xDC00 ≤ u ∧ u < 0xE000 then none
    else (unitChars? rest).map (Char.ofNat u :: ·)

def dropZeros (cs : List Char) : List Char := (cs.reverse.dropWhile (· = '\x00')).reverse

def ofChars (cs : List Char) : String := String.ofList (dropZeros cs)

def latin1Text (b : Bytes) : String := ofChars (b.map fun x => Char.ofNat x.toNat)

def wideText (order : ByteOrder) (b : Bytes) : Except TagError String :=
  match unitChars? (units order b) with
  | some cs => .ok (ofChars cs)
  | none => .error (.textDecode "Given an invalid UTF-16 string")

def utf8Text (b : Bytes) : Except TagError String :=
  match Utf8.decode? b with
  | some s => .ok (ofChars s.toList)
  | none => .error (.textDecode "Expected a UTF-8 string")

/-- A text that was read, and the order of bytes that counted for it. -/
structure Decoded where
  text : String
  order : Option ByteOrder
deriving Repr, DecidableEq

def Decoded.empty : Decoded := ⟨"", none⟩

/-- Reads UTF-16. Its order of bytes is told by an earlier text, or else by the mark in front; the
place of the mark is passed over in either case. -/
def decodeMarked (known : Option ByteOrder) (b : Bytes) : Except TagError Decoded :=
  if lacks 2 b then .error (.textDecode "UTF-16 string has an invalid length (< 2)")
  else if b.length % 2 ≠ 0 then .error (.textDecode "UTF-16 string has an odd length")
  else match known.or (ByteOrder.ofMark? b) with
    | none => .error (.textDecode "UTF-16 string has an invalid byte order mark")
    | some order => do
      let text ← wideText order (b.drop 2)
      return if text = "" then .empty else ⟨text, some order⟩

/-- Reads the whole of some bytes as a text. -/
def decode (e : TextEncoding) (known : Option ByteOrder) (b : Bytes) : Except TagError Decoded :=
  if b = [] then .ok .empty
  else match e with
    | .latin1 => .ok ⟨latin1Text b, none⟩
    | .utf8 => (utf8Text b).map (⟨·, none⟩)
    | .utf16BigEndian => (wideText .bigEndian b).map (⟨·, none⟩)
    | .utf16 => decodeMarked known b

def splitWide : Bytes → Bytes × Bytes
  | a :: b :: rest =>
    if a = 0 ∧ b = 0 then ([], rest)
    else
      let (text, after) := splitWide rest
      (a :: b :: text, after)
  | _ => ([], [])

/-- The bytes up to the next zero, and those after it. -/
def split (e : TextEncoding) (b : Bytes) : Bytes × Bytes :=
  if e.isWide then splitWide b else (b.takeWhile (· ≠ 0), (b.dropWhile (· ≠ 0)).drop 1)

/-- Reads a text up to the next zero. -/
def upToZero (e : TextEncoding) (known : Option ByteOrder) : Reader Decoded := fun b =>
  let (text, rest) := e.split b
  (e.decode known text, rest)

/-- Reads a text that goes to the end. -/
def toEnd (e : TextEncoding) : Reader String := fun b => ((e.decode none b).map (·.text), [])

@[simp] theorem run_toEnd (e : TextEncoding) (b : Bytes) :
    e.toEnd.run b = ((e.decode none b).map (·.text), []) := rfl

end TextEncoding

end TaggedLibrary
