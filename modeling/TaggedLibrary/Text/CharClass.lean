/-!
Classes of characters, given by ranges of code points, and what can be made of them: unions,
intersections, differences, and what lies outside.
-/

namespace TaggedLibrary

/-- Inclusive ranges of code points, in any order. -/
structure CharClass where
  ranges : List (Nat × Nat)
deriving Repr, DecidableEq

namespace CharClass

def contains (k : CharClass) (c : Char) : Bool :=
  k.ranges.any fun (first, last) => first ≤ c.toNat && c.toNat ≤ last

def none : CharClass := ⟨[]⟩

def single (c : Char) : CharClass := ⟨[(c.toNat, c.toNat)]⟩

def range (first last : Char) : CharClass := ⟨[(first.toNat, last.toNat)]⟩

def union (a b : CharClass) : CharClass := ⟨a.ranges ++ b.ranges⟩

def lastCodePoint : Nat := 0x10FFFF

/-- What lies from `next` on and in none of the ranges, which rise. -/
def gaps : Nat → List (Nat × Nat) → List (Nat × Nat)
  | next, [] => if next ≤ lastCodePoint then [(next, lastCodePoint)] else []
  | next, (first, last) :: rest =>
    let behind := gaps (max next (last + 1)) rest
    if next < first then (next, first - 1) :: behind else behind

/-- All other characters. -/
def complement (k : CharClass) : CharClass :=
  ⟨gaps 0 (k.ranges.mergeSort fun a b => a.1 ≤ b.1)⟩

def intersection (a b : CharClass) : CharClass := (a.complement.union b.complement).complement

def difference (a b : CharClass) : CharClass := a.intersection b.complement

/-- What is in one of two classes only. -/
def symmetricDifference (a b : CharClass) : CharClass := (a.difference b).union (b.difference a)

def isAscii (k : CharClass) : Bool := k.ranges.all (·.2 < 0x80)

/-- The class with the other case of each of its letters of ASCII. -/
def foldCase (k : CharClass) : CharClass :=
  let within (low high : Nat) : List (Nat × Nat) := k.ranges.filterMap fun (first, last) =>
    if max first low ≤ min last high then some (max first low, min last high) else .none
  ⟨k.ranges ++ (within 0x41 0x5A).map (fun (a, b) => (a + 0x20, b + 0x20))
    ++ (within 0x61 0x7A).map (fun (a, b) => (a - 0x20, b - 0x20))⟩

/-- Classes of ASCII characters that have a name. -/
def named : List (String × CharClass) :=
  [("alnum", ⟨[(0x30, 0x39), (0x41, 0x5A), (0x61, 0x7A)]⟩),
   ("alpha", ⟨[(0x41, 0x5A), (0x61, 0x7A)]⟩),
   ("ascii", ⟨[(0, 0x7F)]⟩),
   ("blank", ⟨[(9, 9), (0x20, 0x20)]⟩),
   ("cntrl", ⟨[(0, 0x1F), (0x7F, 0x7F)]⟩),
   ("digit", ⟨[(0x30, 0x39)]⟩),
   ("graph", ⟨[(0x21, 0x7E)]⟩),
   ("lower", ⟨[(0x61, 0x7A)]⟩),
   ("print", ⟨[(0x20, 0x7E)]⟩),
   ("punct", ⟨[(0x21, 0x2F), (0x3A, 0x40), (0x5B, 0x60), (0x7B, 0x7E)]⟩),
   ("space", ⟨[(9, 13), (0x20, 0x20)]⟩),
   ("upper", ⟨[(0x41, 0x5A)]⟩),
   ("word", ⟨[(0x30, 0x39), (0x41, 0x5A), (0x5F, 0x5F), (0x61, 0x7A)]⟩),
   ("xdigit", ⟨[(0x30, 0x39), (0x41, 0x46), (0x61, 0x66)]⟩)]

def isWord (c : Char) : Bool := c.isAlphanum || c == '_'

end CharClass

end TaggedLibrary
