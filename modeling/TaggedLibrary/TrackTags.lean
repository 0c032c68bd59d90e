import TaggedLibrary.Catalog
import TaggedLibrary.Decimal.Numeral
/-!
The tags that a generated file carries.
-/

namespace TaggedLibrary

structure TrackTags where
  title : String
  artist : String
  albumArtist : String
  album : String
  track : UInt32
  trackTotal : UInt32
  disc : UInt32
  discTotal : UInt32
  year : String
  genre : String
deriving Repr, DecidableEq

namespace TrackTags

/-- A number and a total, as they stand in one field. -/
def slashed (n total : UInt32) : String :=
  Numeral.text n.toNat ++ "/" ++ Numeral.text total.toNat

/-- The tags of a track of an album. There is one disc, and the album's artist is the track's. -/
def forTrack (album : Album) (number : UInt32) (title : String) : TrackTags :=
  { title, artist := album.artist, albumArtist := album.artist, album := album.title
    track := number, trackTotal := album.trackTotal, disc := 1, discTotal := 1
    year := album.year, genre := album.genre }

def trackField (t : TrackTags) : String := slashed t.track t.trackTotal

def discField (t : TrackTags) : String := slashed t.disc t.discTotal

end TrackTags

end TaggedLibrary
