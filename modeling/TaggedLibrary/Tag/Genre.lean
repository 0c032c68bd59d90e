import TaggedLibrary.Decimal.Numeral
/-!
Genres: the numbered names, and the names that the text of a genre frame stands for.
-/

namespace TaggedLibrary.Genre

/-- The genres by number. -/
def names : Array String :=
  #["Blues", "Classic rock", "Country", "Dance", "Disco", "Funk", "Grunge", "Hip-Hop", "Jazz",
    "Metal", "New Age", "Oldies", "Other", "Pop", "R&B", "Rap", "Reggae", "Rock", "Techno",
    "Industrial", "Alternative", "Ska", "Death metal", "Pranks", "Soundtrack", "Euro-Techno",
    "Ambient", "Trip-Hop", "Vocal", "Jazz & Funk", "Fusion", "Trance", "Classical", "Instrumental",
    "Acid", "House", "Game", "Sound clip", "Gospel", "Noise", "Alternative Rock", "Bass", "Soul",
    "Punk", "Space", "Meditative", "Instrumental Pop", "Instrumental Rock", "Ethnic", "Gothic",
    "Darkwave", "Techno-Industrial", "Electronic", "Pop-Folk", "Eurodance", "Dream",
    "Southern Rock", "Comedy", "Cult", "Gangsta", "Top 40", "Christian Rap", "Pop/Funk", "Jungle",
    "Native US", "Cabaret", "New Wave", "Psychedelic", "Rave", "Show tunes", "Trailer", "Lo-Fi",
    "Tribal", "Acid Punk", "Acid Jazz", "Polka", "Retro", "Musical", "Rock ’n’ Roll", "Hard Rock",
    "Folk", "Folk-Rock", "National Folk", "Swing", "Fast Fusion", "Bebop", "Latin", "Revival",
    "Celtic", "Bluegrass", "Avantgarde", "Gothic Rock", "Progressive Rock", "Psychedelic Rock",
    "Symphonic Rock", "Slow rock", "Big Band", "Chorus", "Easy Listening", "Acoustic", "Humour",
    "Speech", "Chanson", "Opera", "Chamber music", "Sonata", "Symphony", "Booty bass", "Primus",
    "Porn groove", "Satire", "Slow jam", "Club", "Tango", "Samba", "Folklore", "Ballad",
    "Power Ballad", "Rhythmic Soul", "Freestyle", "Duet", "Punk Rock", "Drum Solo", "A cappella",
    "Euro-House", "Dance Hall", "Goa music", "Drum & Bass", "Club-House", "Hardcore Techno",
    "Terror", "Indie", "BritPop", "Negerpunk", "Polsk Punk", "Beat", "Christian Gangsta Rap",
    "Heavy Metal", "Black Metal", "Crossover", "Contemporary Christian", "Christian rock",
    "Merengue", "Salsa", "Thrash Metal", "Anime", "Jpop", "Synthpop", "Abstract", "Art Rock",
    "Baroque", "Bhangra", "Big beat", "Breakbeat", "Chillout", "Downtempo", "Dub", "EBM",
    "Eclectic", "Electro", "Electroclash", "Emo", "Experimental", "Garage", "Global", "IDM",
    "Illbient", "Industro-Goth", "Jam Band", "Krautrock", "Leftfield", "Lounge", "Math Rock",
    "New Romantic", "Nu-Breakz", "Post-Punk", "Post-Rock", "Psytrance", "Shoegaze", "Space Rock",
    "Trop Rock", "World Music", "Neoclassical", "Audiobook", "Audio theatre",
    "Neue Deutsche Welle", "Podcast", "Indie-Rock", "G-Funk", "Dubstep", "Garage Rock", "Psybient"]

/-- A whole number, with a plus sign or without. -/
def number? (s : String) : Option Nat :=
  Numeral.nat? (match s.toList with
    | '+' :: rest => rest
    | cs => cs)

/-- A name as it stands, or the one that a short reference means. -/
def ofReference (s : String) : String :=
  if 3 < s.utf8ByteSize then s
  else match number? s with
    | some n => names[n]?.getD s
    | none => if s = "RX" then "Remix" else if s = "CR" then "Cover" else s

/-- The first of the genres in a frame's text. A NUL ends it; failing that, a reference in
brackets at the start stands alone, and two opening brackets mean one that is part of a name. -/
def first? (s : String) : Option String :=
  let cs := s.toList
  if cs.isEmpty then none
  else if cs.contains '\x00' then
    some (ofReference (String.ofList (cs.takeWhile (· ≠ '\x00'))))
  else match cs with
    | '(' :: rest =>
      if rest.contains ')' then
        let inside := rest.takeWhile (· ≠ ')')
        some (ofReference (String.ofList
          (if rest.head? = some '(' then inside ++ [')'] else inside)))
      else some (ofReference s)
    | _ => some (ofReference s)

end TaggedLibrary.Genre
