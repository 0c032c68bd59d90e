import TaggedLibrary.TrackFile
import TaggedLibrary.TagWriter
/-!
Writing a library: for each track of a catalog a copy of the template, tagged as that track.
The first failure ends the run; albums that were written before it stay.
-/

namespace TaggedLibrary

/-- Where the template is, and where the library goes. -/
structure LibraryPaths where
  source : Path
  destination : Path
deriving Repr, DecidableEq

/-- What a run has written. -/
structure Summary where
  tracks : Nat
  albums : Nat
  destination : Path
deriving Repr, DecidableEq

def Summary.line (s : Summary) : String :=
  "Created " ++ Numeral.text s.tracks ++ " tracks across " ++ Numeral.text s.albums
    ++ " albums in " ++ s.destination.display

namespace Generation

/-- Writes one track into the directory of its album. -/
def writeTrack (template directory : Path) (write : TagWriter) (album : Album)
    (track : UInt32 × String) : Run Unit := do
  let path := directory.joinText (TrackFile.name track.1 track.2)
  let _ ← TrackFile.copy template path
  write path (TrackTags.forTrack album track.1 track.2)
  Run.report (.tagged path)

/-- Writes the tracks of an album one after another; how many there are. -/
def writeTracks (template directory : Path) (write : TagWriter) (album : Album) :
    List (UInt32 × String) → Run Nat
  | [] => pure 0
  | track :: rest => do
    writeTrack template directory write album track
    return (← writeTracks template directory write album rest) + 1

def writeAlbum (paths : LibraryPaths) (write : TagWriter) (album : Album) : Run Nat := do
  let directory ← TrackFile.makeAlbumDirectory paths.destination album.artist album.title
  Run.report (.albumStarted album.artist album.title album.tracks.length)
  writeTracks paths.source directory write album album.numberedTracks

/-- Writes the albums of a catalog one after another; how many tracks they have. -/
def writeAlbums (paths : LibraryPaths) (write : TagWriter) : Catalog → Run Nat
  | [] => pure 0
  | album :: rest => do
    let count ← writeAlbum paths write album
    return count + (← writeAlbums paths write rest)

/-- Writes a library. The template is looked at before anything is made. -/
def generate (paths : LibraryPaths) (catalog : Catalog) (write : TagWriter) : Run Summary := do
  Run.ask fun t =>
    if t.isFile paths.source then .ok () else .error (.missingTemplate paths.source)
  Run.onFiles (.io paths.destination) (FileTree.makeDirectories paths.destination)
  Run.report (.started catalog.length (Catalog.totalTracks catalog) paths.source)
  let tracks ← writeAlbums paths write catalog
  return { tracks, albums := catalog.length, destination := paths.destination }

end Generation

end TaggedLibrary
