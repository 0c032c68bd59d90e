import TaggedLibrary.Path
import TaggedLibrary.FileTree.Cause
/-!
A tree of files as a value: numbered nodes, some of which are directories that name others.
`FileTree.resolve` says which node a path leads to, links followed; every other operation is
stated through it and through `FileTree.vacancy`, which says where a new name would go.
-/

namespace TaggedLibrary

/-- A point in time, counted from 1970. -/
structure Instant where
  seconds : Int
  nanos : Nat := 0
deriving Repr, DecidableEq, Inhabited

inductive Node where
  | file (bytes : Bytes) (mode : Nat) (modified : Instant)
  | directory (parent : Nat) (entries : List (Bytes × Nat))
  | link (target : Bytes)
  /-- takes whatever is written and gives nothing back -/
  | device
deriving Repr, DecidableEq

/-- `now` is stamped on every file that is written. -/
structure FileTree where
  nodes : Array Node
  root : Nat
  current : Nat
  now : Instant := ⟨0, 0⟩
deriving Repr

/-- An operation on the tree. What it changed before it failed stays changed. -/
abbrev Disk (ε α : Type) := ExceptT ε (StateM FileTree) α

namespace Disk

variable {ε ε' α β : Type}

def run (op : Disk ε α) (t : FileTree) : Except ε α × FileTree := StateT.run (ExceptT.run op) t

@[simp] theorem run_pure (a : α) (t : FileTree) : (pure a : Disk ε α).run t = (.ok a, t) := rfl

/-- An operation starts where the one before it has stopped. -/
theorem run_bind (op : Disk ε α) (f : α → Disk ε β) (t : FileTree) :
    (op >>= f).run t = match op.run t with
      | (.ok a, t) => (f a).run t
      | (.error e, t) => (.error e, t) := by
  simp only [run, ExceptT.run_bind, StateT.run_bind]
  rcases StateT.run (ExceptT.run op) t with ⟨_ | _, _⟩ <;> rfl

def mapError (f : ε → ε') (op : Disk ε α) : Disk ε' α := fun t =>
  match op.run t with
  | (.ok a, t) => (.ok a, t)
  | (.error e, t) => (.error (f e), t)

theorem run_mapError (f : ε → ε') (op : Disk ε α) (t : FileTree) :
    (mapError f op).run t = ((op.run t).1.mapError f, (op.run t).2) := by
  have h : (mapError f op).run t = match op.run t with
      | (.ok a, t) => (.ok a, t)
      | (.error e, t) => (.error (f e), t) := rfl
  rw [h]
  rcases op.run t with ⟨_ | _, _⟩ <;> rfl

/-- A question about the tree, which leaves it alone. -/
def ask (question : FileTree → Except ε α) : Disk ε α := fun t => (question t, t)

@[simp] theorem run_ask (question : FileTree → Except ε α) (t : FileTree) :
    (ask question).run t = (question t, t) := rfl

/-- A change of the tree that cannot fail. -/
def change (f : FileTree → FileTree) : Disk ε Unit := fun t => (.ok (), f t)

@[simp] theorem run_change (f : FileTree → FileTree) (t : FileTree) :
    (change f : Disk ε Unit).run t = (.ok (), f t) := rfl

end Disk

namespace FileTree

def nameLimit : Nat := 255
def pathLimit : Nat := 4096
def linkLimit : Nat := 40

def node? (t : FileTree) (i : Nat) : Option Node := t.nodes[i]?

def setNode (t : FileTree) (i : Nat) (n : Node) : FileTree :=
  { t with nodes := t.nodes.setIfInBounds i n }

/-- The names on the way. A slash at the end is kept as an empty last name. -/
def names (b : Bytes) : List Bytes :=
  (Path.segments b).filter (· != []) ++ if b.getLast? = some Path.slash then [[]] else []

def start (t : FileTree) (b : Bytes) : Nat :=
  if b.head? = some Path.slash then t.root else t.current

/-- Follows names from directory `i`: the node they lead to, and how many more links may be
followed. Where a link has to be, `jump` goes on from the directory its target starts in, with the
target's names put before those that are left. A link at the very end is followed only if asked. -/
def steps (t : FileTree) (followLast : Bool) (links : Nat)
    (jump : Nat → List Bytes → Except IoError (Nat × Nat)) :
    Nat → List Bytes → Except IoError (Nat × Nat)
  | i, [] => .ok (i, links)
  | i, n :: rest =>
    match t.node? i with
    | some (.directory parent entries) =>
      if n = [] ∨ n = [Path.dot] then steps t followLast links jump i rest
      else if n = [Path.dot, Path.dot] then steps t followLast links jump parent rest
      else if nameLimit < n.length then .error .nameTooLong
      else match entries.lookup n with
        | none => .error .notFound
        | some child =>
          match t.node? child with
          | some (.link target) =>
            if rest = [] ∧ !followLast then .ok (child, links)
            else jump (if target.head? = some Path.slash then t.root else i) (names target ++ rest)
          | _ => steps t followLast links jump child rest
    | _ => .error .notDirectory

/-- Follows names from directory `i`, through at most `links` links. -/
def walk (t : FileTree) (followLast : Bool) : Nat → Nat → List Bytes → Except IoError (Nat × Nat)
  | 0 => steps t followLast 0 fun _ _ => .error .tooManyLinks
  | links + 1 => steps t followLast (links + 1) (walk t followLast links)

/-- What is wrong with the text of a path before any name is looked up. -/
def refuse? (p : Path) : Option IoError :=
  if p.bytes.contains 0 then some .nulInPath
  else if p.bytes = [] then some .notFound
  else if pathLimit ≤ p.bytes.length then some .nameTooLong
  else none

/-- The node a path leads to. -/
def resolve (t : FileTree) (p : Path) (followLast : Bool := true) : Except IoError Nat :=
  match refuse? p with
  | some e => .error e
  | none => (t.walk followLast linkLimit (t.start p.bytes) (names p.bytes)).map Prod.fst

/-- The place of a name: the node that has it, or the directory in which it is free. -/
inductive Place where
  | taken (node : Nat)
  | free (directory : Nat) (name : Bytes)

/-- The place of the last of `ns`, looked up from directory `i` through at most `links` links, in at
most so many turns. -/
def placeWithin (t : FileTree) (follow : Bool) (odd : IoError) :
    Nat → Nat → Nat → List Bytes → Except IoError Place
  | 0, _, _, _ => .error .tooManyLinks
  | turns + 1, links, i, ns => do
    let last := ns.getLast?.getD []
    let (directory, links) ←
      t.walk true links i (if last = [] then ns.dropLast.dropLast else ns.dropLast)
    match t.node? directory with
    | some (.directory _ entries) =>
      if last = [] ∨ last = [Path.dot] ∨ last = [Path.dot, Path.dot] then .error odd
      else if nameLimit < last.length then .error .nameTooLong
      else match entries.lookup last with
        | none => .ok (.free directory last)
        | some child =>
          match t.node? child with
          | some (.link target) =>
            if follow then
              match links with
              | 0 => .error .tooManyLinks
              | links + 1 =>
                placeWithin t follow odd turns links
                  (if target.head? = some Path.slash then t.root else directory) (names target)
            else .ok (.taken child)
          | _ => .ok (.taken child)
    | _ => .error .notDirectory

/-- The place of the last of `ns`, looked up from directory `i` through at most `links` links.
Links at the end are followed when `follow` is set, so a link to nothing leads to the free name it
points at; each of these turns uses up a link. A last name that is no plain name, or that a slash
follows, is refused with `odd`. -/
def place (t : FileTree) (follow : Bool) (odd : IoError) (links i : Nat) (ns : List Bytes) :
    Except IoError Place :=
  t.placeWithin follow odd (links + 1) links i ns

/-- A new node under a free name. -/
def addEntry (t : FileTree) (directory : Nat) (name : Bytes) (n : Node) : FileTree :=
  match t.node? directory with
  | some (.directory parent entries) =>
    { t with nodes := (t.nodes.setIfInBounds directory
                        (.directory parent (entries ++ [(name, t.nodes.size)]))).push n }
  | _ => t

def isFile (t : FileTree) (p : Path) : Bool :=
  match t.resolve p with
  | .ok i => match t.node? i with
    | some (.file ..) => true
    | _ => false
  | .error _ => false

def isDirectory (t : FileTree) (p : Path) : Bool :=
  match t.resolve p with
  | .ok i => match t.node? i with
    | some (.directory ..) => true
    | _ => false
  | .error _ => false

/-- What the file at a path holds. -/
def read (t : FileTree) (p : Path) : Except IoError Bytes := do
  match t.node? (← t.resolve p) with
  | some (.file bytes ..) => .ok bytes
  | some .device => .ok []
  | _ => .error .isDirectory

end FileTree

end TaggedLibrary
