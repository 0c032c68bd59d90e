import TaggedLibrary.Decimal.Binary64
/-!
Numbers written in decimal: their digits, and the readers that take a whole text for a number
or refuse it.
-/

namespace TaggedLibrary.Numeral

def digits (n : Nat) : List Char := Nat.toDigits 10 n

/-- The digits, zeros put in front where they are fewer than `width`. -/
def padded (width n : Nat) : List Char :=
  List.replicate (width - (digits n).length) '0' ++ digits n

def text (n : Nat) : String := String.ofList (digits n)

def intText (n : Int) : String := if n < 0 then "-" ++ text n.natAbs else text n.natAbs

def isDigit (c : Char) : Bool := '0' ≤ c && c ≤ '9'

def digitValue (c : Char) : Nat := c.toNat - 48

/-- The value of a run of digits, appended to what was read before. -/
def appendDigits (value : Nat) (cs : List Char) : Nat :=
  cs.foldl (fun v c => v * 10 + digitValue c) value

/-- At least one digit and nothing else. -/
def nat? (cs : List Char) : Option Nat :=
  if !cs.isEmpty && cs.all isDigit then some (appendDigits 0 cs) else none

/-- A number below `2 ^ 32`; a plus sign may stand in front. -/
def uint32? (s : String) : Option UInt32 :=
  let cs := match s.toList with
    | '+' :: rest => rest
    | cs => cs
  match nat? cs with
  | some n => if n < 2 ^ 32 then some (UInt32.ofNat n) else none
  | none => none

/-- Takes a sign off the front: whether it was a minus, and the rest. -/
def takeSign : List Char → Bool × List Char
  | '-' :: rest => (true, rest)
  | '+' :: rest => (false, rest)
  | cs => (false, cs)

/-- A number that fits into 64 bits with sign. -/
def int64? (s : String) : Option Int :=
  let (negative, cs) := takeSign s.toList
  match nat? cs with
  | none => none
  | some n =>
    let value : Int := if negative then -(n : Int) else n
    if -(2 ^ 63 : Int) ≤ value ∧ value < 2 ^ 63 then some value else none

/-- The power of ten after `e` or `E`. -/
def exponent? : List Char → Option Int
  | [] => some 0
  | c :: rest =>
    if c = 'e' ∨ c = 'E' then
      let (negative, cs) := takeSign rest
      (nat? cs).map fun n => if negative then -(n : Int) else n
    else none

/-- Digits with at most one point among or beside them, then an exponent or nothing. -/
def unsigned64? (negative : Bool) (cs : List Char) : Option Binary64 :=
  let whole := cs.takeWhile isDigit
  let rest := cs.dropWhile isDigit
  let (part, rest) := match rest with
    | '.' :: rest => (rest.takeWhile isDigit, rest.dropWhile isDigit)
    | rest => ([], rest)
  if whole.isEmpty && part.isEmpty then none
  else match exponent? rest with
    | none => none
    | some e =>
      let mantissa := appendDigits (appendDigits 0 whole) part
      some (Binary64.ofDecimal negative mantissa (e - part.length))

/-- A floating-point number, or one of the names of infinity and of no number at all. -/
def binary64? (s : String) : Option Binary64 :=
  let (negative, cs) := takeSign s.toList
  let name := String.ofList (cs.map Char.toLower)
  if name = "inf" ∨ name = "infinity" then some (.infinite negative)
  else if name = "nan" then some .nan
  else unsigned64? negative cs

end TaggedLibrary.Numeral
