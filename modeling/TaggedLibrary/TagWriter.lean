import TaggedLibrary.Session
import TaggedLibrary.Tag.Saving
/-!
Ways to put tags into a file: one that does it, and one that only records what it is asked.
-/

namespace TaggedLibrary

/-- Replaces all tags of the file at a path by the given ones. -/
abbrev TagWriter := Path → TrackTags → Run Unit

namespace TagWriter

/-- What is at a path, told apart by its extension, and read as such. -/
def inspect (t : FileTree) (p : Path) : Except TagError (FileKind × AudioTags) := do
  match t.resolve p with
  | .error cause => .error (.io cause)
  | .ok _ =>
    match FileKind.ofPath? p with
    | none => .error .unknownFormat
    | some kind =>
      match t.read p with
      | .error cause => .error (.io cause)
      | .ok file => return (kind, ← kind.readTags file)

/-- Changes the bytes of a file. -/
def change (p : Path) (f : Bytes → Except TagError Bytes) : Disk TagError Unit := do
  let file ← (Disk.ask (FileTree.read · p)).mapError .io
  let file ← Disk.ask fun _ => f file
  (FileTree.overwrite p file).mapError .io

/-- Cuts old tags off a file and puts a fresh ID3v2 tag in front of it. -/
def id3v2 : TagWriter := fun path tags =>
  .during (.writeTags path) do
    let (kind, found) ← Run.onFiles (.tag path) (Disk.ask (inspect · path))
    if !kind.canHold .id3v2 then Run.fail (.unsupportedFormat path)
    else
      if found.id3v1.isSome then
        Run.onFiles (.tag path) (change path AudioFile.removeId3v1)
      if found.ape.isSome then
        Run.onFiles (.tag path) (change path AudioFile.removeApe)
      Run.onFiles (.tag path) (change path (AudioFile.putId3v2 tags))

/-- Records what it is asked and leaves the files alone. The call with the given number, counted
from zero, is refused. -/
def recording (refused : Option Nat) : TagWriter := fun path tags => fun s =>
  if refused = some s.calls.length then
    (.error (.unsupportedFormat path), { s with calls := s.calls ++ [⟨path, tags, true⟩] })
  else (.ok (), { s with calls := s.calls ++ [⟨path, tags, false⟩] })

end TagWriter

end TaggedLibrary
