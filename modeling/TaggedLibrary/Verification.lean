import TaggedLibrary.ScannedTrack
import TaggedLibrary.TrackFile
/-!
Checking a library against a catalog: every track is where it belongs and says what it should.
Other files do not matter.
-/

namespace TaggedLibrary.Verification

/-- A track that a library should hold. -/
structure Expected where
  path : Path
  tags : TrackTags
deriving Repr, DecidableEq

/-- The tracks of an album, in order. -/
def expectedOfAlbum (root : Path) (album : Album) : List Expected :=
  let directory := TrackFile.albumDirectory root album.artist album.title
  album.numberedTracks.map fun (number, title) =>
    { path := directory.joinText (TrackFile.name number title)
      tags := TrackTags.forTrack album number title }

/-- The tracks of a catalog, in order. -/
def expected (root : Path) (catalog : Catalog) : List Expected :=
  catalog.flatMap (expectedOfAlbum root)

/-- The fields that are compared, in order, with what is wanted and what was found. -/
def comparisons (found : ScannedTrack) (tags : TrackTags) :
    List (String × String × Option String) :=
  [("track", tags.trackField, found.trackField),
   ("disc", tags.discField, found.discField),
   ("title", tags.title, found.fields.title),
   ("artist", tags.artist, found.fields.artist),
   ("album artist", tags.albumArtist, found.fields.albumArtist),
   ("album", tags.album, found.fields.album),
   ("year", tags.year, found.fields.year),
   ("genre", tags.genre, found.fields.genre)]

/-- The first field that is not as it should be. -/
def mismatch? (found : ScannedTrack) (tags : TrackTags) : Option LibraryError :=
  ((comparisons found tags).find? fun (_, wanted, value) => value ≠ some wanted).map
    fun (field, wanted, value) => .mismatch found.path field wanted value

/-- The first field is reported if it does not show what is wanted, else what the others give. -/
theorem find?_mismatch_cons (p : Path) (field wanted : String) (value : Option String)
    (more : List (String × String × Option String)) :
    ((((field, wanted, value) :: more).find? fun (_, wanted, value) =>
      value ≠ some wanted).map fun (field, wanted, value) =>
        LibraryError.mismatch p field wanted value) =
      if value ≠ some wanted then some (.mismatch p field wanted value)
      else (more.find? fun (_, wanted, value) => value ≠ some wanted).map
        fun (field, wanted, value) => .mismatch p field wanted value := by
  by_cases h : value = some wanted
  · simp [h]
  · simp [h]

/-- Takes out the file at a path, paths being compared by their steps. -/
def take? (p : Path) : List ScannedTrack → Option (ScannedTrack × List ScannedTrack)
  | [] => none
  | t :: ts =>
    if t.path.Same p then some (t, ts) else (take? p ts).map fun (found, ts) => (found, t :: ts)

/-- Looks for each track among those that are left, each of which counts once; how many are left
over. -/
def checkAll : List ScannedTrack → List Expected → Except LibraryError Nat
  | tracks, [] => .ok tracks.length
  | tracks, e :: rest =>
    match take? e.path tracks with
    | none => .error (.mismatch e.path "file" "present" none)
    | some (found, tracks) =>
      match mismatch? found e.tags with
      | some error => .error error
      | none => checkAll tracks rest

/-- The number of tracks that were checked, which are all of the catalog, and of other files. -/
def check (t : FileTree) (root : Path) (catalog : Catalog) : Except LibraryError (Nat × Nat) :=
  let tracks := expected root catalog
  (checkAll (ScannedTrack.scan t root) tracks).map fun extra => (tracks.length, extra)

/-- Checks a library; how many tracks it was asked for. -/
def verify (root : Path) (catalog : Catalog) : Run Nat := do
  let (checked, extra) ← Run.ask (check · root catalog)
  Run.report (.verified checked extra)
  return checked

end TaggedLibrary.Verification
