import TaggedLibrary.Settings.Setting
import TaggedLibrary.Text.Hex
/-!
Reading JSON. A number without point and power of ten that fits into 64 bits, with sign or without,
is a whole one. Any other is floating: its first digits, as many as fit into 64 bits, are taken as a whole
number, and this is multiplied or divided by powers of ten, rounding every time.
-/

namespace TaggedLibrary.Json

/-- How deep arrays and objects may be nested. -/
def nestingLimit : Nat := 127

abbrev Rest := List Char

abbrev Reader (α : Type) := Rest → Option (α × Rest)

def isBlank (c : Char) : Bool := c == ' ' || c == '\n' || c == '\t' || c == '\r'

def skipBlank (cs : Rest) : Rest := cs.dropWhile isBlank

/-- Takes the four digits of a unit. -/
def unit? : Reader Nat
  | a :: b :: c :: d :: rest => do
    return (← Hex.number? [a, b, c, d], rest)
  | _ => none

/-- Takes the character of an escape by number. Surrogates come in pairs. -/
def numbered? (cs : Rest) : Option (Char × Rest) := do
  let (n, cs) ← unit? cs
  if 0xDC00 ≤ n ∧ n ≤ 0xDFFF then none
  else if 0xD800 ≤ n ∧ n ≤ 0xDBFF then
    match cs with
    | '\\' :: 'u' :: cs => do
      let (m, cs) ← unit? cs
      if 0xDC00 ≤ m ∧ m ≤ 0xDFFF then
        some (Char.ofNat (0x10000 + (n - 0xD800) * 0x400 + (m - 0xDC00)), cs)
      else none
    | _ => none
  else some (Char.ofNat n, cs)

/-- Takes the escape behind a backslash. -/
def escape? : Reader Char
  | '"' :: rest => some ('"', rest)
  | '\\' :: rest => some ('\\', rest)
  | '/' :: rest => some ('/', rest)
  | 'b' :: rest => some ('\x08', rest)
  | 'f' :: rest => some ('\x0c', rest)
  | 'n' :: rest => some ('\n', rest)
  | 'r' :: rest => some ('\r', rest)
  | 't' :: rest => some ('\t', rest)
  | 'u' :: rest => numbered? rest
  | _ => none

/-- Takes a text, behind its first quote. -/
def text? : Nat → List Char → Reader String
  | 0, _, _ => none
  | fuel + 1, read, cs =>
    match cs with
    | '"' :: rest => some (String.ofList read.reverse, rest)
    | '\\' :: rest => do
      let (c, rest) ← escape? rest
      text? fuel (c :: read) rest
    | c :: rest => if c.toNat < 0x20 then none else text? fuel (c :: read) rest
    | [] => none

/-- Appends digits while the number fits into 64 bits; how many there are, and what is left. -/
def gather : Nat → Nat → Rest → Nat × Nat × Rest
  | value, count, [] => (value, count, [])
  | value, count, c :: rest =>
    let next := value * 10 + Numeral.digitValue c
    if Numeral.isDigit c ∧ next < 2 ^ 64 then gather next (count + 1) rest
    else (value, count, c :: rest)

/-- The powers of ten up to 308, each rounded. -/
def tenTo (n : Nat) : Binary64 := Binary64.ofDecimal false 1 n

/-- Multiplies or divides by a power of ten, at most 308 at a time. -/
def scale : Nat → Binary64 → Int → Option Binary64
  | 0, _, _ => none
  | fuel + 1, x, power =>
    if power.natAbs ≤ 308 then
      if 0 ≤ power then
        let y := x.mul (tenTo power.natAbs)
        if y.isInfinite then none else some y
      else some (x.div (tenTo power.natAbs))
    else if x.isZero then some x
    else if 0 ≤ power then none
    else scale fuel (x.div (tenTo 308)) (power + 308)

/-- A floating number of given digits and power of ten. Three divisions by the greatest power of
ten leave nothing. -/
def float? (negative : Bool) (significand : Nat) (power : Int) : Option Scalar :=
  (scale 5 (Binary64.ofDecimal false significand 0) power).map fun x =>
    .float (match x with
      | .finite _ m e => .finite negative m e
      | x => x)

/-- The greatest power of ten that is read digit by digit. -/
def powerLimit : Nat := 2 ^ 31 - 1

/-- Takes the power of ten, behind its mark. -/
def power? (negative : Bool) (significand : Nat) (start : Int) (cs : Rest) :
    Option (Scalar × Rest) := do
  let (down, cs) := Numeral.takeSign cs
  let ds := cs.takeWhile Numeral.isDigit
  let n ← Numeral.nat? ds
  let rest := cs.drop ds.length
  if powerLimit < n then
    if significand ≠ 0 ∧ !down then none
    else some (.float (Binary64.zero negative), rest)
  else
    (float? negative significand (if down then start - n else start + n)).map (·, rest)

/-- Takes what may follow the digits of a number that is floating already. -/
def powerOrEnd? (negative : Bool) (significand : Nat) (power : Int) (cs : Rest) :
    Option (Scalar × Rest) :=
  match cs with
  | 'e' :: rest | 'E' :: rest => power? negative significand power rest
  | cs => (float? negative significand power).map (·, cs)

/-- Takes the places behind the point. Those that do not fit any more are passed over. -/
def places? (negative : Bool) (significand : Nat) (power : Int) (cs : Rest) :
    Option (Scalar × Rest) :=
  if cs.head?.any Numeral.isDigit then
    let (value, count, rest) := gather significand 0 cs
    powerOrEnd? negative value (power - count) (rest.dropWhile Numeral.isDigit)
  else none

/-- A number below `2 ^ 64` that is whole as it is written. -/
def whole (negative : Bool) (n : Nat) : Scalar :=
  if negative then
    if n = 0 ∨ 2 ^ 63 < n then .float (Binary64.ofDecimal true n 0) else .int (-n)
  else .int n

/-- Takes a number, behind its sign. A zero in front stands alone. -/
def unsigned? (negative : Bool) (cs : Rest) : Option (Scalar × Rest) :=
  let ds := cs.takeWhile Numeral.isDigit
  if ds = [] ∨ (ds.head? = some '0' ∧ ds.length ≠ 1) then none
  else
    let (value, _, rest) := gather 0 0 cs
    let left := rest.takeWhile Numeral.isDigit
    let after := rest.drop left.length
    match after with
    | '.' :: rest => places? negative value left.length rest
    | 'e' :: rest | 'E' :: rest => power? negative value left.length rest
    | rest =>
      if left = [] then some (whole negative value, rest)
      else (float? negative value left.length).map (·, rest)

def number? (cs : Rest) : Option (Scalar × Rest) :=
  match cs with
  | '-' :: rest => unsigned? true rest
  | cs => unsigned? false cs

/-- Takes a value without parts. -/
def scalar? (cs : Rest) : Option (Setting × Rest) :=
  match cs with
  | '"' :: rest => (text? (rest.length + 1) [] rest).map fun (s, rest) => (.scalar none (.text s), rest)
  | 't' :: 'r' :: 'u' :: 'e' :: rest => some (.scalar none (.bool true), rest)
  | 'f' :: 'a' :: 'l' :: 's' :: 'e' :: rest => some (.scalar none (.bool false), rest)
  | 'n' :: 'u' :: 'l' :: 'l' :: rest => some (.scalar none .nil, rest)
  | cs => (number? cs).map fun (v, rest) => (.scalar none v, rest)

/-- Takes the items of an array after the first, each behind its comma. -/
def items? (item? : Reader Setting) : Nat → List Setting → Reader Setting
  | 0, _, _ => none
  | fuel + 1, read, cs => do
    let (s, cs) ← item? (skipBlank cs)
    match skipBlank cs with
    | ',' :: rest => items? item? fuel (s :: read) rest
    | ']' :: rest => return (.array none (s :: read).reverse, rest)
    | _ => none

/-- Takes the entries of an object. Of two with one name the later counts. -/
def members? (value? : Reader Setting) : Nat → Entries → Reader Setting
  | 0, _, _ => none
  | fuel + 1, read, cs => do
    let '"' :: cs := skipBlank cs | none
    let (name, cs) ← text? (cs.length + 1) [] cs
    let ':' :: cs := skipBlank cs | none
    let (s, cs) ← value? (skipBlank cs)
    let read := Setting.alter name (fun _ => s) read
    match skipBlank cs with
    | ',' :: rest => members? value? fuel read rest
    | '\x7d' :: rest => return (.table none read, rest)
    | _ => none

/-- Takes a value, nested at most as deep as given. -/
def value? : Nat → Reader Setting
  | 0, cs => if cs.head? = some '[' ∨ cs.head? = some '\x7b' then none else scalar? cs
  | depth + 1, cs =>
    match cs with
    | '[' :: rest =>
      match skipBlank rest with
      | ']' :: rest => some (.array none [], rest)
      | rest => items? (value? depth) (rest.length + 1) [] rest
    | '\x7b' :: rest =>
      match skipBlank rest with
      | '\x7d' :: rest => some (.table none [], rest)
      | rest => members? (value? depth) (rest.length + 1) [] rest
    | cs => scalar? cs

/-- Reads an object with nothing behind it. -/
def parse? (s : String) : Option Entries := do
  let (value, rest) ← value? nestingLimit (skipBlank s.toList)
  if skipBlank rest ≠ [] then none
  else match value with
    | .table _ es => some es
    | _ => none

end TaggedLibrary.Json
