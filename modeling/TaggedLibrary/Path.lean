import TaggedLibrary.Text.Quoted
/-!
Paths as the file system takes them: bytes with `/` between the names. Two paths are the same
when their components are; repeated slashes, a slash at the end and inner `.` do not count.
`Path.key` orders paths component by component.
-/

namespace TaggedLibrary

structure Path where
  bytes : Bytes
deriving Repr, DecidableEq, Inhabited

/-- One step of a path. -/
inductive Component where
  | root
  | here
  | parent
  | name (bytes : Bytes)
deriving Repr, DecidableEq

/-- Steps by kind come in this order, and names by their bytes. -/
def Component.key : Component → List Nat
  | .root => [0]
  | .here => [1]
  | .parent => [2]
  | .name bytes => 3 :: bytes.map UInt8.toNat

namespace Path

def slash : UInt8 := 0x2F
def dot : UInt8 := 0x2E
def tilde : UInt8 := 0x7E

def ofString (s : String) : Path := ⟨Utf8.encode s⟩

/-- The path as messages show it. -/
def display (p : Path) : String := Utf8.decodeLossy p.bytes

/-- The path in quotes. -/
def quoted (p : Path) : String := Quoted.bytes p.bytes

/-- What stands between the slashes, empty parts included. -/
def segments : Bytes → List Bytes
  | [] => [[]]
  | b :: rest =>
    if b = slash then [] :: segments rest
    else match segments rest with
      | [] => [[b]]
      | s :: ss => (b :: s) :: ss

def joinSegments : List Bytes → Bytes
  | [] => []
  | [s] => s
  | s :: ss => s ++ slash :: joinSegments ss

/-- An empty part and a lone dot take no step. -/
def isStill (s : Bytes) : Bool := s == [] || s == [dot]

def body (ss : List Bytes) : List Component :=
  (ss.filter (!isStill ·)).map fun s => if s = [dot, dot] then .parent else .name s

/-- The steps of a path. A lone dot counts only at the start of a relative one. -/
def components (p : Path) : List Component :=
  match segments p.bytes with
  | [] => []
  | s :: ss =>
    if s = [] ∧ ss ≠ [] then .root :: body ss
    else if s = [dot] then .here :: body ss
    else body (s :: ss)

/-- Two paths that take the same steps. -/
def Same (p q : Path) : Prop := p.components = q.components

instance (p q : Path) : Decidable (Same p q) := inferInstanceAs (Decidable (_ = _))

/-- Paths are ordered by their keys. -/
def key (p : Path) : List (List Nat) := p.components.map Component.key

def isAbsolute (p : Path) : Bool := p.bytes.head? == some slash

/-- `q` below `p`; an absolute `q` stands by itself. -/
def join (p q : Path) : Path :=
  if q.isAbsolute then q
  else if p.bytes = [] ∨ p.bytes.getLast? = some slash then ⟨p.bytes ++ q.bytes⟩
  else ⟨p.bytes ++ slash :: q.bytes⟩

def joinText (p : Path) (s : String) : Path := p.join (ofString s)

/-- A path that takes the given steps. -/
def ofComponents (cs : List Component) : Path :=
  let segment : Component → Bytes
    | .root => []
    | .here => [dot]
    | .parent => [dot, dot]
    | .name bytes => bytes
  match cs with
  | [.root] => ⟨[slash]⟩
  | cs => ⟨joinSegments (cs.map segment)⟩

/-- The path without its last step; none for the root and for the empty path. -/
def parent? (p : Path) : Option Path :=
  match p.components.getLast? with
  | none | some .root => none
  | some _ => some (ofComponents p.components.dropLast)

/-- The last name of a path that ends in one. -/
def fileName? (p : Path) : Option Bytes :=
  match p.components.getLast? with
  | some (.name bytes) => some bytes
  | _ => none

/-- Cuts a name at its last dot: what stands before it and after it. -/
def splitExtension (name : Bytes) : Bytes × Option Bytes :=
  let after := name.reverse.takeWhile (· != dot)
  if after.length = name.length ∨ after.length + 1 = name.length then (name, none)
  else (name.take (name.length - after.length - 1), some after.reverse)

/-- What follows the last dot of the last name, unless the name begins with that dot. -/
def extension? (p : Path) : Option Bytes := p.fileName?.bind fun name => (splitExtension name).2

/-- The text after a first step `~`, without the slashes and dots at its two ends. -/
def afterTilde? (p : Path) : Option Path :=
  match segments p.bytes with
  | s :: ss =>
    if s = [tilde] then
      let ss := ss.dropWhile isStill
      some ⟨joinSegments (ss.reverse.dropWhile isStill).reverse⟩
    else none
  | [] => none

/-- A first step `~` is replaced by the home directory, where one is known. -/
def expandHome (home : Option Bytes) (p : Path) : Path :=
  match p.afterTilde?, home with
  | some rest, some home => (⟨home⟩ : Path).join rest
  | _, _ => p

end Path

end TaggedLibrary
