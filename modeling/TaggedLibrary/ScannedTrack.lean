import TaggedLibrary.FileTree.Basic
import TaggedLibrary.Tag.AudioFile
/-!
Looking through a directory for audio files and reading their tags, as a player does. Links are
followed, but not to a directory that is being looked through already.
-/

namespace TaggedLibrary

/-- A file that was found, with what its tags say. -/
structure ScannedTrack where
  path : Path
  fields : TagFields
deriving Repr, DecidableEq

namespace ScannedTrack

/-- A number with its total, as far as they are known. -/
def slashed? : Option UInt32 → Option UInt32 → Option String
  | some n, some total => some (Numeral.text n.toNat ++ "/" ++ Numeral.text total.toNat)
  | some n, none => some (Numeral.text n.toNat)
  | none, _ => none

def trackField (t : ScannedTrack) : Option String := slashed? t.fields.track t.fields.trackTotal

def discField (t : ScannedTrack) : Option String := slashed? t.fields.disc t.fields.discTotal

/-- Paths with the extension `mp3`, in letters of either case. -/
def isAudio (p : Path) : Bool :=
  match p.extension? with
  | some extension =>
    extension == [0x6D, 0x70, 0x33] || extension == [0x6D, 0x50, 0x33]
      || extension == [0x4D, 0x70, 0x33] || extension == [0x4D, 0x50, 0x33]
  | none => false

/-- Whether the last name of a path is that of a link. -/
def isLink (t : FileTree) (p : Path) : Bool :=
  match t.resolve p false with
  | .ok i => match t.node? i with
    | some (.link _) => true
    | _ => false
  | .error _ => false

/-- The audio files at or below a path, given the directories above it. -/
def audioFiles (t : FileTree) : Nat → List Nat → Path → List Path
  | 0, _, _ => []
  | fuel + 1, above, p =>
    match t.resolve p with
    | .error _ => []
    | .ok i =>
      match t.node? i with
      | some (.file ..) => if isAudio p then [p] else []
      | some (.directory _ entries) =>
        if isLink t p && above.contains i then []
        else entries.flatMap fun (name, _) => audioFiles t fuel (i :: above) (p.join ⟨name⟩)
      | _ => []

/-- What a file's tags say; nothing where they cannot be read. -/
def fieldsOf (file : Bytes) : TagFields :=
  match AudioFile.playerFields file with
  | some fields => fields.tidy
  | none => {}

def ofPath (t : FileTree) (p : Path) : ScannedTrack :=
  match t.read p with
  | .ok file => { path := p, fields := fieldsOf file }
  | .error _ => { path := p, fields := {} }

/-- The audio files at or below a path, in the order of their paths. Each step down makes a path
longer, and no path is as long as the limit. -/
def scan (t : FileTree) (p : Path) : List ScannedTrack :=
  ((audioFiles t FileTree.pathLimit [] p).mergeSort fun a b => ¬ b.key < a.key).map (ofPath t)

end ScannedTrack

end TaggedLibrary
