import TaggedLibrary.Decimal.Numeral
import TaggedLibrary.Toml.Text
/-!
Numbers in TOML. An underscore may stand between two digits.
-/

namespace TaggedLibrary.Toml

/-- Digits without the underscores between them. -/
def ungroup? (isDigit : Char → Bool) : List Char → Option (List Char)
  | [] => none
  | [c] => if isDigit c then some [c] else none
  | c :: '_' :: rest => if isDigit c then (ungroup? isDigit rest).map (c :: ·) else none
  | c :: rest => if isDigit c then (ungroup? isDigit rest).map (c :: ·) else none

/-- A number that fits into 64 bits with sign. -/
def signed64? (n : Int) : Option Int := if -(2 ^ 63) ≤ n ∧ n < 2 ^ 63 then some n else none

/-- Digits of a base, behind its mark. -/
def based? (base : Nat) (cs : List Char) : Option Int := do
  let digit? (c : Char) : Option Nat := (Hex.digit? c).filter (· < base)
  let ds ← ungroup? (fun c => (digit? c).isSome) cs
  let n : Nat := ds.foldl (fun n c => n * base + (digit? c).getD 0) 0
  signed64? n

/-- Decimal digits. A zero in front stands alone. -/
def decimal? (cs : List Char) : Option (List Char) := do
  let ds ← ungroup? Numeral.isDigit cs
  if ds.head? = some '0' ∧ ds.length ≠ 1 then none else some ds

def integer? (cs : List Char) : Option Int :=
  match cs with
  | '0' :: 'x' :: cs => based? 16 cs
  | '0' :: 'o' :: cs => based? 8 cs
  | '0' :: 'b' :: cs => based? 2 cs
  | cs => do
    let (negative, cs) := Numeral.takeSign cs
    let n := Numeral.appendDigits 0 (← decimal? cs)
    signed64? (if negative then -(n : Int) else n)

/-- The digits behind a point, or none. -/
def places? (cs : List Char) : Option (List Char × List Char) :=
  match cs with
  | '.' :: cs =>
    let ds := cs.takeWhile fun c => Numeral.isDigit c || c == '_'
    (ungroup? Numeral.isDigit ds).map (·, cs.drop ds.length)
  | cs => some ([], cs)

/-- The power of ten at the end, or none. -/
def power? (cs : List Char) : Option Int :=
  match cs with
  | [] => some 0
  | c :: cs =>
    if c = 'e' ∨ c = 'E' then do
      let (negative, cs) := Numeral.takeSign cs
      let n := Numeral.appendDigits 0 (← ungroup? Numeral.isDigit cs)
      return if negative then -(n : Int) else n
    else none

/-- A number with a point or a power of ten, or one of the two names. -/
def float? (cs : List Char) : Option Binary64 :=
  let (negative, cs) := Numeral.takeSign cs
  if cs = ['i', 'n', 'f'] then some (.infinite negative)
  else if cs = ['n', 'a', 'n'] then some .nan
  else do
    let whole := cs.takeWhile fun c => Numeral.isDigit c || c == '_'
    let after := cs.drop whole.length
    let ds ← decimal? whole
    let (places, rest) ← places? after
    let power ← power? rest
    let x := Binary64.ofDecimal negative (Numeral.appendDigits 0 (ds ++ places))
      (power - places.length)
    if after = [] ∨ x.isInfinite then none else some x

end TaggedLibrary.Toml
