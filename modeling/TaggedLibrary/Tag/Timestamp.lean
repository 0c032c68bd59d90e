import TaggedLibrary.Tag.Error
/-!
Dates and times in tags: a year of four places, then month, day, hour, minute and second as far
as they are given. Spaces and missing digits are forgiven, other characters are not.
-/

namespace TaggedLibrary

/-- A year, and what is known after it, each of two places. -/
structure Timestamp where
  year : Nat
  month : Option Nat := none
  day : Option Nat := none
  hour : Option Nat := none
  minute : Option Nat := none
  second : Option Nat := none
deriving Repr, DecidableEq

namespace Timestamp

def longest : Nat := 19

def isSeparator (b : UInt8) : Bool := b == 0x2D || b == 0x54 || b == 0x3A

def isDigit (b : UInt8) : Bool := 0x30 ≤ b && b ≤ 0x39

/-- The value of a part, if it has a digit, and the number of places it takes. A space counts as a
place without a digit; where parts are set off from each other, the next separator ends the part
early. -/
def places (setOff : Bool) : Option Nat → Nat → Bytes → Except TagError (Option Nat × Nat)
  | value, count, [] => .ok (value, count)
  | value, count, b :: rest =>
    if b = 0x20 then places setOff value (count + 1) rest
    else if isDigit b then
      places setOff (some (value.getD 0 * 10 + (b.toNat - 0x30))) (count + 1) rest
    else if setOff && isSeparator b then .ok (value, count)
    else .error (.badTimestamp "Timestamp segment contains non-digit characters")

/-- A part of `size` places behind its separator, if it is there in full and has a digit: its
value and the bytes after it. -/
def part (size : Nat) (separator : Option UInt8) (b : Bytes) :
    Except TagError (Option (Nat × Bytes)) := do
  let start? := match separator, b with
    | _, [] => none
    | none, b => some b
    | some s, x :: rest => if x = s then some rest else none
  match start? with
  | none => return none
  | some b =>
    if lacks size b then return none
    else
      let (value, count) ← places separator.isSome none 0 (b.take size)
      return value.map (·, b.drop count)

/-- The parts after the year, as many as are there. -/
def parts : List (Option UInt8) → Bytes → Except TagError (List Nat)
  | [], _ => .ok []
  | separator :: more, b => do
    match ← part 2 separator b with
    | none => return []
    | some (value, rest) => return value :: (← parts more rest)

/-- The date and time in a text; nothing in an empty one. -/
def parse (b : Bytes) : Except TagError (Option Timestamp) := do
  let b := b.take longest
  if b = [] then return none
  let setOff := b.any fun x => isSeparator x && x ≠ 0x54
  let separator (x : UInt8) : Option UInt8 := if setOff then some x else none
  match ← part 4 none b with
  | none => .error (.badTimestamp "Encountered an invalid year length (should be 4 digits)")
  | some (year, rest) =>
    let ps ← parts [separator 0x2D, separator 0x2D, some 0x54, separator 0x3A, separator 0x3A] rest
    return some { year, month := ps[0]?, day := ps[1]?, hour := ps[2]?, minute := ps[3]?,
                  second := ps[4]? }

/-- A part that is given only where the one before it is, and within its bound. -/
def fits (value : Option Nat) (bound : Nat) (before : Bool) : Bool :=
  match value with
  | none => true
  | some v => before && v ≤ bound

/-- Whether every part is within its bound. -/
def isValid (t : Timestamp) : Bool :=
  t.year ≤ 9999 && fits t.month 12 true && fits t.day 31 t.month.isSome &&
    fits t.hour 23 t.day.isSome && fits t.minute 59 t.hour.isSome &&
    fits t.second 59 t.minute.isSome

def padded (width n : Nat) : String := String.ofList (Numeral.padded width n)

/-- The parts in their fixed widths. -/
def text (t : Timestamp) : String :=
  let after (separator : String) (value : Option Nat) (rest : String) : String :=
    match value with
    | none => ""
    | some v => separator ++ padded 2 v ++ rest
  padded 4 t.year ++ after "-" t.month (after "-" t.day (after "T" t.hour
    (after ":" t.minute (after ":" t.second ""))))

end Timestamp

end TaggedLibrary
