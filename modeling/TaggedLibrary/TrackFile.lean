import TaggedLibrary.Session
/-!
The files of a library: their names, the directories they stand in, and copies of the template.
-/

namespace TaggedLibrary

namespace TrackFile

/-- A number with at least two digits. -/
def twoDigits (n : Nat) : String := String.ofList (Numeral.padded 2 n)

/-- The name of a track's file: its number, a space and its title. -/
def name (number : UInt32) (title : String) : String :=
  twoDigits number.toNat ++ " " ++ title ++ ".mp3"

/-- The directory of an album, below that of its artist. -/
def albumDirectory (root : Path) (artist album : String) : Path :=
  (root.joinText artist).joinText album

/-- Makes the directory of an album and all that is missing above it. -/
def makeAlbumDirectory (root : Path) (artist album : String) : Run Path :=
  .during (.makeAlbumDirectory root artist album) do
    let directory := albumDirectory root artist album
    Run.onFiles (.io directory) (FileTree.makeDirectories directory)
    return directory

/-- Copies a file over whatever file is at `dest`, with its mode and the time it was written; the
number of bytes. -/
def copy (source dest : Path) : Run Nat :=
  .during (.copyTrack source dest) do
    let count ← Run.onFiles (.io dest) (FileTree.copy source dest)
    let modified ← Run.onFiles (.io source) (Disk.ask (FileTree.modified · source))
    Run.onFiles (.io dest) (FileTree.setModified dest modified)
    return count

end TrackFile

end TaggedLibrary
