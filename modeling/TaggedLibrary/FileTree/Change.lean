import TaggedLibrary.FileTree.Basic
/-!
The operations that change a tree: new directories and links, writing, copying, removal.
-/

namespace TaggedLibrary.FileTree

def makeDirectoryAt (t : FileTree) (p : Path) : Except IoError FileTree := do
  match refuse? p with
  | some e => .error e
  | none =>
    let ns := names p.bytes
    let ns := if ns.getLast? = some [] then ns.dropLast else ns
    match ← t.place false .alreadyExists linkLimit (t.start p.bytes) ns with
    | .taken _ => .error .alreadyExists
    | .free directory name => .ok (t.addEntry directory name (.directory directory []))

def makeDirectory (p : Path) : Disk IoError Unit := fun t =>
  match t.makeDirectoryAt p with
  | .ok t => (.ok (), t)
  | .error e => (.error e, t)

/-- A path and those above it, nearest first, the root and the empty path left out. -/
def ancestors (p : Path) : List Path :=
  let cs := p.components
  p :: ((List.range cs.length).reverse.filterMap fun n =>
    match cs.take n with
    | [] | [.root] => none
    | cs => some (Path.ofComponents cs))

/-- Makes directories going up until one can be made or is there; what was missing on the way
is then made going down. -/
def makeChain : List Path → Disk IoError Unit
  | [] => pure ()
  | p :: above => fun t =>
    match (makeDirectory p).run t with
    | (.ok _, t) => (.ok (), t)
    | (.error e, t) =>
      if e = .notFound then
        match (makeChain above).run t with
        | (.ok _, t) =>
          match (makeDirectory p).run t with
          | (.error e, t) =>
            if e = .alreadyExists ∧ t.isDirectory p then (.ok (), t) else (.error e, t)
          | done => done
        | failed => failed
      else if e = .alreadyExists ∧ t.isDirectory p then (.ok (), t)
      else (.error e, t)

/-- A directory with all that is missing above it. -/
def makeDirectories (p : Path) : Disk IoError Unit :=
  match p.components with
  | [] | [.root] => pure ()
  | _ => makeChain (ancestors p)

/-- Opens a path for writing from the start, as a new empty file of the given mode if there is
none. -/
def openEmpty (p : Path) (mode : Nat) : Disk IoError Nat := fun t =>
  match refuse? p with
  | some e => (.error e, t)
  | none =>
    match t.place true .isDirectory linkLimit (t.start p.bytes) (names p.bytes) with
    | .error e => (.error e, t)
    | .ok (.free directory name) =>
      (.ok t.nodes.size, t.addEntry directory name (.file [] mode t.now))
    | .ok (.taken i) =>
      match t.node? i with
      | some (.file _ mode _) => (.ok i, t.setNode i (.file [] mode t.now))
      | some .device => (.ok i, t)
      | _ => (.error .isDirectory, t)

/-- New contents for an open file. -/
def putBytes (i : Nat) (bytes : Bytes) (t : FileTree) : FileTree :=
  match t.node? i with
  | some (.file _ mode _) => t.setNode i (.file bytes mode t.now)
  | _ => t

def putMode (i : Nat) (mode : Nat) (t : FileTree) : FileTree :=
  match t.node? i with
  | some (.file bytes _ modified) => t.setNode i (.file bytes mode modified)
  | _ => t

def putModified (i : Nat) (modified : Instant) (t : FileTree) : FileTree :=
  match t.node? i with
  | some (.file bytes mode _) => t.setNode i (.file bytes mode modified)
  | _ => t

/-- Opens what is at a path for writing, and leaves it as it is. -/
def openExisting (t : FileTree) (p : Path) : Except IoError Nat := do
  let i ← t.resolve p
  match t.node? i with
  | some (.directory ..) => .error .isDirectory
  | _ => .ok i

/-- New contents for the file at a path. -/
def overwrite (p : Path) (bytes : Bytes) : Disk IoError Unit := do
  let i ← Disk.ask (openExisting · p)
  Disk.change (putBytes i bytes)

/-- Contents and mode of the regular file at a path. -/
def readRegular (t : FileTree) (p : Path) : Except IoError (Bytes × Nat) := do
  match t.node? (← t.resolve p) with
  | some (.file bytes mode _) => .ok (bytes, mode)
  | _ => .error .notRegularFile

/-- What an open file holds now. -/
def bytesOf (t : FileTree) (i : Nat) : Bytes :=
  match t.node? i with
  | some (.file bytes ..) => bytes
  | _ => []

/-- Puts a file at a path, with all directories that are missing above it. -/
def placeFile (p : Path) (bytes : Bytes) (mode : Nat) (modified : Option Instant) :
    Disk IoError Unit := do
  match p.parent? with
  | some above => makeDirectories above
  | none => pure ()
  let i ← openEmpty p mode
  Disk.change (putBytes i bytes)
  Disk.change (putMode i mode)
  match modified with
  | some instant => Disk.change (putModified i instant)
  | none => pure ()

/-- Copies a regular file's bytes and mode over whatever file is at `dest`; the number of bytes.
The destination is emptied before the source is read, so a file copied to itself ends empty. -/
def copy (source dest : Path) : Disk IoError Nat := do
  let (_, mode) ← Disk.ask (readRegular · source)
  let origin ← Disk.ask (resolve · source)
  let target ← openEmpty dest mode
  Disk.change (putMode target mode)
  let bytes ← Disk.ask fun t => .ok (t.bytesOf origin)
  Disk.change (putBytes target bytes)
  return bytes.length

/-- When the file at a path was last written. -/
def modified (t : FileTree) (p : Path) : Except IoError Instant := do
  match t.node? (← t.resolve p) with
  | some (.file _ _ modified) => .ok modified
  | _ => .ok t.now

def setModified (p : Path) (modified : Instant) : Disk IoError Unit := do
  let i ← Disk.ask (openExisting · p)
  Disk.change (putModified i modified)

/-- A link that holds a text, whether or not anything is there. -/
def makeLink (target p : Path) : Disk IoError Unit := fun t =>
  match refuse? p, refuse? target with
  | some e, _ | none, some e => (.error e, t)
  | none, none =>
    match t.place false .notFound linkLimit (t.start p.bytes) (names p.bytes) with
    | .error e => (.error e, t)
    | .ok (.taken _) => (.error .alreadyExists, t)
    | .ok (.free directory name) => (.ok (), t.addEntry directory name (.link target.bytes))

/-- Removes a name, and with it all that is only reached through it. -/
def remove (p : Path) : Disk IoError Unit := fun t =>
  match refuse? p with
  | some e => (.error e, t)
  | none =>
    let ns := names p.bytes
    let ns := if ns.getLast? = some [] then ns.dropLast else ns
    match t.walk true linkLimit (t.start p.bytes) ns.dropLast with
    | .error e => (.error e, t)
    | .ok (i, _) =>
      match t.node? i, ns.getLast? with
      | some (.directory parent entries), some name =>
        if (entries.lookup name).isSome then
          (.ok (), t.setNode i (.directory parent (entries.filter (·.1 != name))))
        else (.error .notFound, t)
      | _, _ => (.error .notFound, t)

/-- A tree with nothing in it but a root, in which relative paths start. -/
def empty : FileTree := { nodes := #[.directory 0 []], root := 0, current := 0 }

end TaggedLibrary.FileTree
