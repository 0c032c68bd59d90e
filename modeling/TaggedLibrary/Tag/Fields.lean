import TaggedLibrary.Tag.Error
import TaggedLibrary.Text.Blank
/-!
What a tag says about a track, whatever kind of tag it is.
-/

namespace TaggedLibrary

structure TagFields where
  title : Option String := none
  artist : Option String := none
  albumArtist : Option String := none
  album : Option String := none
  track : Option UInt32 := none
  trackTotal : Option UInt32 := none
  disc : Option UInt32 := none
  discTotal : Option UInt32 := none
  year : Option String := none
  genre : Option String := none
deriving Repr, DecidableEq

namespace TagFields

/-- A text without the white space around it, unless nothing is left. -/
def nonBlank (s : Option String) : Option String :=
  match s with
  | none => none
  | some s =>
    let s := Blank.trim s
    if s = "" then none else some s

/-- The texts trimmed, and blank ones dropped. -/
def tidy (f : TagFields) : TagFields :=
  { f with title := nonBlank f.title, artist := nonBlank f.artist
           albumArtist := nonBlank f.albumArtist, album := nonBlank f.album
           year := nonBlank f.year, genre := nonBlank f.genre }

end TagFields

end TaggedLibrary
