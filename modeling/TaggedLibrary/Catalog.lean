/-!
The albums of the sample library.
-/

namespace TaggedLibrary

/-- An album. Its tracks are numbered by their places, from one. -/
structure Album where
  artist : String
  title : String
  /-- written into the tags as it stands -/
  year : String
  genre : String
  tracks : List String
deriving Repr, DecidableEq

namespace Album

/-- How many tracks there are, as a number of 32 bits. -/
def trackTotal (a : Album) : UInt32 := UInt32.ofNat a.tracks.length

/-- The tracks with their numbers. -/
def numberedTracks (a : Album) : List (UInt32 × String) :=
  a.tracks.zipIdx.map fun (title, i) => (UInt32.ofNat i + 1, title)

end Album

abbrev Catalog := List Album

namespace Catalog

def totalTracks (c : Catalog) : Nat := c.foldr (fun a n => a.tracks.length + n) 0

/-- The albums that the program writes. -/
def builtIn : Catalog :=
  [{ artist := "Sonic Youth", title := "A Thousand Leaves",
     year := "1998", genre := "Alternative",
     tracks :=
      ["Contre le Sexisme", "Sunday", "Female Mechanic Now on Duty", "Wildflower Soul",
       "Hoarfrost", "French Tickler", "Hits of Sunshine", "Karen Koltrane", "The Ineffable Me",
       "Snare Girl", "Heather Angel", "Karen Revisited"] },
   { artist := "Radiohead", title := "OK Computer",
     year := "1997", genre := "Alternative",
     tracks :=
      ["Airbag", "Paranoid Android", "Subterranean Homesick Alien", "Exit Music (For a Film)",
       "Let Down", "Karma Police", "Fitter Happier", "Electioneering", "Climbing Up the Walls",
       "No Surprises", "Lucky", "The Tourist"] },
   { artist := "Portishead", title := "Dummy",
     year := "1994", genre := "Trip Hop",
     tracks :=
      ["Mysterons", "Sour Times", "Strangers", "It Could Be Sweet", "Wandering Star",
       "It's a Fire", "Numb", "Roads", "Pedestal", "Biscuit", "Glory Box"] },
   { artist := "Boards of Canada", title := "Music Has the Right to Children",
     year := "1998", genre := "Electronic",
     tracks :=
      ["Wildlife Analysis", "An Eagle in Your Mind", "The Color of the Fire",
       "Telephasic Workshop", "Triangles & Rhombuses", "Sixtyten", "Turquoise Hexagon Sun",
       "Kaini Industries", "Bocuma", "Roygbiv", "Rue the Whirl", "Aquarius", "Olson",
       "Pete Standing Alone", "Smokes Quantity", "Open the Light", "One Very Important Thought",
       "Happy Cycling"] },
   { artist := "Massive Attack", title := "Mezzanine",
     year := "1998", genre := "Trip Hop",
     tracks :=
      ["Angel", "Risingson", "Teardrop", "Inertia Creeps", "Exchange", "Dissolved Girl",
       "Man Next Door", "Black Milk", "Mezzanine", "Group Four", "(Exchange)"] }]

end Catalog

end TaggedLibrary
