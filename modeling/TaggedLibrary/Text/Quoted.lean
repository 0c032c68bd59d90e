import TaggedLibrary.Text.Unprintable
import TaggedLibrary.Text.Utf8
/-!
Text in double quotes, as messages show values whose ends and odd characters must be seen.
-/

namespace TaggedLibrary.Quoted

def hexDigits (n : Nat) : String := String.ofList (Nat.toDigits 16 n)

/-- One character inside quotes. -/
def escape (c : Char) : String :=
  if c = '\x00' then "\\0"
  else if c = '\t' then "\\t"
  else if c = '\r' then "\\r"
  else if c = '\n' then "\\n"
  else if c = '\\' then "\\\\"
  else if c = '"' then "\\\""
  else if Unprintable.contains c then "\\u\x7b" ++ hexDigits c.toNat ++ "\x7d"
  else String.singleton c

/-- A text in quotes. -/
def text (s : String) : String := "\"" ++ String.join (s.toList.map escape) ++ "\""

/-- A byte that is no part of a character, inside quotes. -/
def escapeByte (b : UInt8) : String :=
  let digits := (Nat.toDigits 16 b.toNat).map Char.toUpper
  "\\x" ++ String.ofList (if digits.length < 2 then '0' :: digits else digits)

/-- Bytes in quotes: what reads as text as text, the rest byte by byte. -/
def bytes (b : Bytes) : String :=
  "\"" ++ String.join ((Utf8.pieces b).map fun
    | .char c => escape c
    | .broken bs => String.join (bs.map escapeByte)) ++ "\""

/-- A text that may be missing. -/
def optional : Option String → String
  | some s => "Some(" ++ text s ++ ")"
  | none => "None"

end TaggedLibrary.Quoted
