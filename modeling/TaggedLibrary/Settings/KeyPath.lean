import TaggedLibrary.Settings.Setting
/-!
Names of settings that lead into a tree: `paths.source` is an entry of a table, `paths[0]` an item
of an array, and `paths[-1]` the last one.
-/

namespace TaggedLibrary

inductive KeyStep where
  | entry (name : String)
  | item (index : Int)
deriving Repr, DecidableEq

structure KeyPath where
  root : String
  steps : List KeyStep := []
deriving Repr, DecidableEq

namespace KeyPath

def isNameChar (c : Char) : Bool := c.isAlphanum || c == '_' || c == '-'

def isSpace (c : Char) : Bool := c == ' ' || c == '\t'

/-- A number of 64 bits with its sign, which is no plus. -/
def index? (cs : List Char) : Option Int :=
  if cs.head? = some '+' then none else Numeral.int64? (String.ofList cs)

/-- Reads the steps after the first name. Spaces may stand inside the brackets. -/
def steps? : Nat → List Char → Option (List KeyStep)
  | _, [] => some []
  | 0, _ => none
  | fuel + 1, '.' :: rest =>
    let name := rest.takeWhile isNameChar
    if name = [] then none
    else (steps? fuel (rest.drop name.length)).map (.entry (String.ofList name) :: ·)
  | fuel + 1, '[' :: rest =>
    let inner := rest.dropWhile isSpace
    let digits := inner.takeWhile fun c => c == '-' || c.isDigit
    match index? digits, (inner.drop digits.length).dropWhile isSpace with
    | some i, ']' :: rest => (steps? fuel rest).map (.item i :: ·)
    | _, _ => none
  | _, _ => none

/-- Reads a name that leads into a tree. -/
def parse? (s : String) : Option KeyPath :=
  let root := s.toList.takeWhile isNameChar
  if root = [] then none
  else (steps? (s.length + 1) (s.toList.drop root.length)).map ({ root := String.ofList root, steps := · })

/-- Any text leads somewhere: what cannot be read is one plain name. -/
def ofString (s : String) : KeyPath := (parse? s).getD { root := s }

/-- Changes an item. Counted from the front, gaps are filled up; counted from the back, new items
come before the first one. -/
def alterItem (index : Int) (f : Setting → Setting) (xs : List Setting) : List Setting :=
  let place : Int := if 0 ≤ index then index else xs.length + index
  if place < 0 then
    f .missing :: (List.replicate ((-place).toNat - 1) .missing ++ xs)
  else
    let i := place.toNat
    let xs := xs ++ List.replicate (i + 1 - xs.length) .missing
    xs.modify i f

/-- Follows steps down a tree, making what is missing, and changes what is at their end. -/
def alterBelow (f : Setting → Setting) : List KeyStep → Setting → Setting
  | [], s => f s
  | .entry name :: steps, s => s.alterEntry name (alterBelow f steps)
  | .item index :: steps, s =>
    let (o, xs) := s.asArray
    .array o (alterItem index (alterBelow f steps) xs)

/-- Lays a value over what a name leads to. -/
def put (k : KeyPath) (value base : Setting) : Setting :=
  alterBelow value.merge (.entry k.root :: k.steps) base

end KeyPath

/-- Lays entries over a tree, each at the place its name leads to. -/
def Setting.layer (base : Setting) (es : Entries) : Setting :=
  es.foldl (fun base (name, s) => (KeyPath.ofString name).put s base) base

end TaggedLibrary
