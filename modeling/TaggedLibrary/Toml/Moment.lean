import TaggedLibrary.Decimal.Numeral
/-!
Dates and times in TOML, which are kept as texts in one standard form.
-/

namespace TaggedLibrary.Toml

open Numeral (padded)

/-- Takes a number of exactly `n` digits. -/
def digits? (n : Nat) (cs : List Char) : Option (Nat × List Char) :=
  match Numeral.nat? (cs.take n) with
  | some value => if n ≤ cs.length then some (value, cs.drop n) else none
  | none => none

def isLeap (year : Nat) : Bool := year % 4 == 0 && (year % 100 != 0 || year % 400 == 0)

def daysIn (year month : Nat) : Nat :=
  match month with
  | 2 => if isLeap year then 29 else 28
  | 4 | 6 | 9 | 11 => 30
  | _ => 31

/-- Takes a day of the calendar. -/
def date? (cs : List Char) : Option (List Char × List Char) := do
  let (year, cs) ← digits? 4 cs
  let '-' :: cs := cs | none
  let (month, cs) ← digits? 2 cs
  let '-' :: cs := cs | none
  let (day, cs) ← digits? 2 cs
  if 1 ≤ month ∧ month ≤ 12 ∧ 1 ≤ day ∧ day ≤ daysIn year month then
    some (padded 4 year ++ '-' :: padded 2 month ++ '-' :: padded 2 day, cs)
  else none

/-- Takes a part of a second. Nine places of it are kept, and of these no zeros at the end. -/
def fraction? (cs : List Char) : Option (List Char × List Char) :=
  let places := cs.takeWhile Numeral.isDigit
  if places = [] then none
  else
    let kept := ((places.take 9).reverse.dropWhile (· = '0')).reverse
    some (if kept = [] then ['0'] else kept, cs.drop places.length)

/-- Takes a time of day. The seconds may be missing. -/
def time? (cs : List Char) : Option (List Char × List Char) := do
  let (hour, cs) ← digits? 2 cs
  let ':' :: cs := cs | none
  let (minute, cs) ← digits? 2 cs
  if 23 < hour ∨ 59 < minute then none
  else
    let read := padded 2 hour ++ ':' :: padded 2 minute
    match cs with
    | ':' :: cs => do
      let (second, cs) ← digits? 2 cs
      if 60 < second then none
      else
        let read := read ++ ':' :: padded 2 second
        match cs with
        | '.' :: cs => do
          let (places, cs) ← fraction? cs
          return (read ++ '.' :: places, cs)
        | cs => return (read, cs)
    | cs => return (read, cs)

/-- A distance from universal time, or nothing. -/
def offset? : List Char → Option (List Char)
  | [] => some []
  | ['Z'] | ['z'] => some ['Z']
  | sign :: cs =>
    if sign = '+' ∨ sign = '-' then do
      let (hour, cs) ← digits? 2 cs
      let ':' :: cs := cs | none
      let (minute, cs) ← digits? 2 cs
      if cs ≠ [] ∨ 23 < hour ∨ 59 < minute then none
      else
        let sign := if hour = 0 ∧ minute = 0 then '+' else sign
        some (sign :: padded 2 hour ++ ':' :: padded 2 minute)
    else none

/-- A date, a time, or both, in which case a distance may follow. -/
def moment? (cs : List Char) : Option String :=
  match date? cs with
  | some (date, []) => some (String.ofList date)
  | some (date, mark :: cs) =>
    if mark = 'T' ∨ mark = 't' ∨ mark = ' ' then do
      let (time, cs) ← time? cs
      let offset ← offset? cs
      return String.ofList (date ++ 'T' :: time ++ offset)
    else none
  | none =>
    match time? cs with
    | some (time, []) => some (String.ofList time)
    | _ => none

end TaggedLibrary.Toml
