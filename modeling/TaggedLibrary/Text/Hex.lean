/-!
Digits of base sixteen, and the characters whose code points they spell.
-/

namespace TaggedLibrary.Hex

/-- The value of a digit, in letters of either case. -/
def digit? (c : Char) : Option Nat :=
  if '0' ≤ c ∧ c ≤ '9' then some (c.toNat - 48)
  else if 'a' ≤ c ∧ c ≤ 'f' then some (c.toNat - 87)
  else if 'A' ≤ c ∧ c ≤ 'F' then some (c.toNat - 55)
  else none

/-- The value of digits. -/
def number? (cs : List Char) : Option Nat :=
  cs.foldlM (fun n c => (digit? c).map (n * 16 + ·)) 0

/-- The character of a code point. Surrogates are none. -/
def char? (cs : List Char) : Option Char := do
  let n ← number? cs
  if n < 0xD800 ∨ (0xDFFF < n ∧ n < 0x110000) then some (Char.ofNat n) else none

end TaggedLibrary.Hex
