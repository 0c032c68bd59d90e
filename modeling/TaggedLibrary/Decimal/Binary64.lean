import TaggedLibrary.Powers
/-!
Binary floating-point numbers of 64 bits as exact values, with rounding to the nearest one and
the text of fewest digits that reads back.
-/

namespace TaggedLibrary

/-- A number with 53 bits of mantissa. A finite one is `mantissa * 2 ^ exponent`. -/
inductive Binary64 where
  | nan
  | infinite (negative : Bool)
  | finite (negative : Bool) (mantissa : Nat) (exponent : Int)
deriving Repr, DecidableEq

namespace Binary64

def leastExponent : Int := -1074
def greatestExponent : Int := 971

def zero (negative : Bool) : Binary64 := .finite negative 0 leastExponent

/-- A quotient rounded to the nearest whole number, a tie to the even one. -/
def roundDiv (num den : Nat) : Nat :=
  let q := num / den
  let r := num % den
  if 2 * r < den then q
  else if den < 2 * r then q + 1
  else if q % 2 = 0 then q else q + 1

/-- `num / den * 2 ^ shift`, rounded to a whole number. -/
def scaledDiv (num den : Nat) (shift : Int) : Nat :=
  if 0 ≤ shift then roundDiv (num * 2 ^ shift.toNat) den
  else roundDiv num (den * 2 ^ (-shift).toNat)

/-- The binary exponent of `num / den`, at most one too low. -/
def magnitude (num den : Nat) : Int := (num.log2 : Int) - den.log2 - 1

/-- The number nearest to `num / den`. -/
def ofRatio (negative : Bool) (num den : Nat) : Binary64 :=
  if num = 0 then zero negative
  else
    let guess := max (magnitude num den - 52) leastExponent
    let coarse := scaledDiv num den (-guess)
    let (mantissa, exponent) :=
      if coarse < 2 ^ 53 then (coarse, guess) else (scaledDiv num den (-(guess + 1)), guess + 1)
    let (mantissa, exponent) :=
      if mantissa = 2 ^ 53 then (2 ^ 52, exponent + 1) else (mantissa, exponent)
    if exponent ≤ greatestExponent then .finite negative mantissa exponent
    else .infinite negative

/-- The number nearest to `digits * 10 ^ exponent`. The two early cases only save work: there the
result is beyond all finite numbers, or below half of the least one. -/
def ofDecimal (negative : Bool) (digits : Nat) (exponent : Int) : Binary64 :=
  if digits = 0 then zero negative
  else
    let places : Int := (Nat.toDigits 10 digits).length + exponent
    if 400 < places then .infinite negative
    else if places < -400 then zero negative
    else if 0 ≤ exponent then ofRatio negative (digits * 10 ^ exponent.toNat) 1
    else ofRatio negative digits (10 ^ (-exponent).toNat)

/-- `mantissa * 2 ^ exponent` as a fraction. -/
def fraction (mantissa : Nat) (exponent : Int) : Nat × Nat :=
  if 0 ≤ exponent then (mantissa * 2 ^ exponent.toNat, 1)
  else (mantissa, 2 ^ (-exponent).toNat)

def mul : Binary64 → Binary64 → Binary64
  | .finite s m e, .finite t n f =>
    let (num, den) := fraction (m * n) (e + f)
    ofRatio (s != t) num den
  | .nan, _ | _, .nan => .nan
  | .infinite s, .finite t n _ | .finite s n _, .infinite t =>
    if n = 0 then .nan else .infinite (s != t)
  | .infinite s, .infinite t => .infinite (s != t)

def div : Binary64 → Binary64 → Binary64
  | .finite s m e, .finite t n f =>
    if n = 0 then if m = 0 then .nan else .infinite (s != t)
    else
      let (a, b) := fraction m e
      let (c, d) := fraction n f
      ofRatio (s != t) (a * d) (b * c)
  | .nan, _ | _, .nan => .nan
  | .infinite s, .finite t _ _ => .infinite (s != t)
  | .finite s _ _, .infinite t => zero (s != t)
  | .infinite _, .infinite _ => .nan

def isZero : Binary64 → Bool
  | .finite _ m _ => m == 0
  | _ => false

def isInfinite : Binary64 → Bool
  | .infinite _ => true
  | _ => false

/-- The reals that round to a positive finite number lie between `low / den` and `high / den`;
the ends are among them when the mantissa is even. -/
structure Interval where
  low : Nat
  value : Nat
  high : Nat
  den : Nat
  closed : Bool

def Interval.of (mantissa : Nat) (exponent : Int) : Interval :=
  let narrow := mantissa = 2 ^ 52 ∧ leastExponent < exponent
  let (num, den) := fraction 1 (exponent - 2)
  { value := 4 * mantissa * num, high := (4 * mantissa + 2) * num
    low := (4 * mantissa - if narrow then 1 else 2) * num
    den := den, closed := mantissa % 2 = 0 }

/-- Whether `digits * 10 ^ exponent` lies in the interval. -/
def Interval.holds (i : Interval) (digits : Nat) (exponent : Int) : Bool :=
  let (num, den) :=
    if 0 ≤ exponent then (digits * 10 ^ exponent.toNat * i.den, 1)
    else (digits * i.den, 10 ^ (-exponent).toNat)
  if i.closed then i.low * den ≤ num && num ≤ i.high * den
  else i.low * den < num && num < i.high * den

/-- The point of the grid `10 ^ exponent` that reads back, the nearer of two. -/
def Interval.onGrid? (i : Interval) (exponent : Int) : Option Nat :=
  let (num, den) :=
    if 0 ≤ exponent then (i.value, i.den * 10 ^ exponent.toNat)
    else (i.value * 10 ^ (-exponent).toNat, i.den)
  let below := num / den
  let nearest := roundDiv num den
  if i.holds nearest exponent then some nearest
  else if i.holds below exponent then some below
  else if i.holds (below + 1) exponent then some (below + 1)
  else none

/-- The exponent of ten of the first digit of `num / den`, for `fuel` steps of correction. -/
def firstPlace (num den : Nat) : Int :=
  if den ≤ num then ((Nat.toDigits 10 (num / den)).length : Int) - 1
  else
    let up := (Nat.toDigits 10 (den / num)).length
    if den ≤ num * 10 ^ (up - 1) then -((up : Int) - 1) else -(up : Int)

/-- Tries one digit, then two, and so on. -/
def Interval.shortest (i : Interval) (place : Int) : Nat → Nat → Nat × Int
  | _, 0 => (0, 0)
  | digits, fuel + 1 =>
    let exponent := place - (digits : Int) + 1
    match i.onGrid? exponent with
    | some n => (n, exponent)
    | none => i.shortest place (digits + 1) fuel

/-- The fewest digits that read back as a positive finite number, with their exponent of ten. -/
def shortestDigits (mantissa : Nat) (exponent : Int) : Nat × Int :=
  let i := Interval.of mantissa exponent
  i.shortest (firstPlace i.value i.den) 1 20

/-- Digits with an exponent of ten, written without one. -/
def positional (digits : Nat) (exponent : Int) : String :=
  let ds := Nat.toDigits 10 digits
  if 0 ≤ exponent then String.ofList (ds ++ List.replicate exponent.toNat '0')
  else
    let places := (-exponent).toNat
    let padded := List.replicate (places + 1 - ds.length) '0' ++ ds
    let whole := padded.take (padded.length - places)
    let part := padded.drop (padded.length - places)
    let part := (part.reverse.dropWhile (· = '0')).reverse
    String.ofList (if part.isEmpty then whole else whole ++ '.' :: part)

/-- The text of a number: the fewest digits that read back, never an exponent. -/
def toText : Binary64 → String
  | .nan => "NaN"
  | .infinite negative => if negative then "-inf" else "inf"
  | .finite negative mantissa exponent =>
    let digits :=
      if mantissa = 0 then "0"
      else
        let (n, e) := shortestDigits mantissa exponent
        positional n e
    if negative then "-" ++ digits else digits

end Binary64

end TaggedLibrary
