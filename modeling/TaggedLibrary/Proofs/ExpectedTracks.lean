import TaggedLibrary.Proofs.PathSteps
import TaggedLibrary.Proofs.RunChanges
import TaggedLibrary.Proofs.WrittenTag
/-!
The tracks that a catalog asks for, where its names are names of files and its texts come back as
they are. Their paths are three names below the library, no two of them take the same steps, and
their tags are shown as they are.
-/

namespace TaggedLibrary

/-- A text that a reader gives back as it was written. -/
structure TidyText (s : String) : Prop where
  nonempty : s ≠ ""
  nulFree : '\x00' ∉ s.toList
  trimmed : Blank.trim s = s

theorem TidyText.nonBlank {s : String} (h : TidyText s) :
    TagFields.nonBlank (some s) = some s := by
  simp [TagFields.nonBlank, h.trimmed, h.nonempty]

namespace TrackTags

/-- Tags whose texts are shown as they are. -/
structure Tidy (t : TrackTags) : Prop where
  title : TidyText t.title
  artist : TidyText t.artist
  albumArtist : TidyText t.albumArtist
  album : TidyText t.album
  genre : TidyText t.genre
  genreHead : ∀ c ∈ t.genre.toList.head?, c ≠ '(' ∧ c ≠ '+' ∧ Numeral.isDigit c = false
  genreName : t.genre ≠ "RX" ∧ t.genre ≠ "CR"
  year : t.year.toList.length = 4
  yearDigits : ∀ c ∈ t.year.toList, Numeral.isDigit c = true

theorem Tidy.plain {t : TrackTags} (h : t.Tidy) : t.Plain :=
  ⟨⟨h.title.nulFree, h.artist.nulFree, h.albumArtist.nulFree, h.album.nulFree, h.genre.nulFree⟩,
    h.year, h.yearDigits, h.genreHead, h.genreName⟩

end TrackTags

/-- An album whose artist, title and tracks can be names of directories and files. -/
structure Album.Named (a : Album) : Prop where
  artist : Path.IsNormal (Utf8.encode a.artist)
  title : Path.IsNormal (Utf8.encode a.title)
  tracks : ∀ title ∈ a.tracks, '/' ∉ title.toList

/-- Albums that can stand in one library: each has its own directory, and each of its tracks a number. -/
structure Catalog.Named (c : Catalog) : Prop where
  albums : ∀ a ∈ c, a.Named
  distinct : c.Pairwise fun a b => (a.artist, a.title) ≠ (b.artist, b.title)
  few : ∀ a ∈ c, a.tracks.length < 2 ^ 32

/-- An album that a library can hold, and whose tags come back as they were written. -/
structure Album.Tidy (a : Album) : Prop where
  artistName : Path.IsNormal (Utf8.encode a.artist)
  titleName : Path.IsNormal (Utf8.encode a.title)
  trackNames : ∀ title ∈ a.tracks, '/' ∉ title.toList
  artist : TidyText a.artist
  title : TidyText a.title
  tracks : ∀ title ∈ a.tracks, TidyText title
  genre : TidyText a.genre
  genreHead : ∀ c ∈ a.genre.toList.head?, c ≠ '(' ∧ c ≠ '+' ∧ Numeral.isDigit c = false
  genreName : a.genre ≠ "RX" ∧ a.genre ≠ "CR"
  year : a.year.toList.length = 4
  yearDigits : ∀ c ∈ a.year.toList, Numeral.isDigit c = true
  few : a.tracks.length < 2 ^ 32

/-- Tidy albums, of which no two share both artist and title. -/
structure Catalog.Tidy (c : Catalog) : Prop where
  albums : ∀ a ∈ c, a.Tidy
  distinct : c.Pairwise fun a b => (a.artist, a.title) ≠ (b.artist, b.title)

theorem Album.Tidy.named {a : Album} (h : a.Tidy) : a.Named :=
  ⟨h.artistName, h.titleName, h.trackNames⟩

theorem Catalog.Tidy.named {c : Catalog} (h : c.Tidy) : c.Named :=
  ⟨fun a ha => (h.albums a ha).named, h.distinct, fun a ha => (h.albums a ha).few⟩

namespace Album

variable {a : Album} {track : UInt32 × String}

theorem mem_tracks (h : track ∈ a.numberedTracks) : track.2 ∈ a.tracks := by
  obtain ⟨⟨title, i⟩, hm, rfl⟩ := List.mem_map.mp h
  exact (List.mem_zipIdx' hm).2 ▸ List.getElem_mem _

theorem length_numberedTracks (a : Album) : a.numberedTracks.length = a.tracks.length := by
  rw [numberedTracks, List.length_map, List.length_zipIdx]

/-- Tracks are numbered from one, as long as there are not too many. -/
theorem numbers_numberedTracks (h : a.tracks.length < 2 ^ 32) :
    a.numberedTracks.map (·.1.toNat) = List.range' 1 a.tracks.length := by
  apply List.ext_getElem
  · rw [List.length_map, length_numberedTracks, List.length_range']
  · intro i hi _
    rw [List.length_map, length_numberedTracks] at hi
    simp only [numberedTracks, List.getElem_map, List.getElem_zipIdx, Nat.zero_add,
      List.getElem_range', UInt32.toNat_add, UInt32.toNat_ofNat']
    rw [show (1 : UInt32).toNat = 1 from rfl]
    omega

theorem numberedTracks_ascend (h : a.tracks.length < 2 ^ 32) :
    a.numberedTracks.Pairwise fun x y => x.1.toNat < y.1.toNat := by
  have hnumbers : (a.numberedTracks.map (·.1.toNat)).Pairwise (· < ·) := by
    rw [numbers_numberedTracks h]
    exact List.pairwise_lt_range'
  exact List.pairwise_map.mp hnumbers

/-- Tracks have different numbers, as long as there are not too many. -/
theorem numberedTracks_pairwise (h : a.tracks.length < 2 ^ 32) :
    a.numberedTracks.Pairwise fun x y => x.1 ≠ y.1 := by
  apply (numberedTracks_ascend h).imp
  intro x y hlt he
  rw [he] at hlt
  exact Nat.lt_irrefl _ hlt

/-- The tags of the tracks of a tidy album are tidy. -/
theorem Tidy.tags (h : a.Tidy) (ht : track ∈ a.numberedTracks) :
    (TrackTags.forTrack a track.1 track.2).Tidy :=
  ⟨h.tracks _ (mem_tracks ht), h.artist, h.artist, h.title, h.genre, h.genreHead, h.genreName,
    h.year, h.yearDigits⟩

end Album

namespace Path

/-- What follows the last dot of a name, where something is in front of it. -/
theorem splitExtension_append {stem extension : Bytes} (hstem : stem ≠ [])
    (hdot : dot ∉ extension) :
    splitExtension (stem ++ dot :: extension) = (stem, some extension) := by
  have hafter : (stem ++ dot :: extension).reverse.takeWhile (· != dot) = extension.reverse := by
    rw [List.reverse_append, List.reverse_cons, List.append_assoc, List.takeWhile_append_of_pos]
    · simp
    · intro x hx
      rw [List.mem_reverse] at hx
      simp only [bne_iff_ne, ne_eq]
      rintro rfl
      exact hdot hx
  have hlen : 0 < stem.length := List.length_pos_iff.mpr hstem
  unfold splitExtension
  simp only [hafter, List.length_reverse, List.length_append, List.length_cons]
  rw [if_neg (by omega), List.reverse_reverse]
  congr 1
  exact List.take_left' (by omega)

theorem extension?_join {p : Path} {n : Bytes} (hp : p.bytes ≠ []) (hn : IsNormal n) :
    (p.join ⟨n⟩).extension? = (splitExtension n).2 := by
  rw [extension?, fileName?, components_join hp hn, List.getLast?_concat]
  rfl

end Path

namespace TrackFile

open TaggedLibrary.Path (IsNormal)

theorem encode_name (number : UInt32) (title : String) :
    Utf8.encode (name number title) =
      Utf8.encode (twoDigits number.toNat ++ " " ++ title) ++ [0x2E, 0x6D, 0x70, 0x33] := by
  rw [name, Utf8.encode_append]
  rfl

/-- The name of a track's file is normal if the title has no slash. -/
theorem isNormal_name {number : UInt32} {title : String} (h : '/' ∉ title.toList) :
    IsNormal (Utf8.encode (name number title)) := by
  have hlen : 4 ≤ (Utf8.encode (name number title)).length := by
    rw [encode_name, List.length_append]
    exact Nat.le_add_left 4 _
  refine ⟨?_, ?_, ?_, fun hm => ?_⟩
  · intro he
    rw [he] at hlen
    exact absurd hlen (by decide)
  · intro he
    rw [he] at hlen
    exact absurd hlen (by decide)
  · intro he
    rw [he] at hlen
    exact absurd hlen (by decide)
  · have hc : '/' ∈ (name number title).toList := Utf8.mem_of_mem_encode hm (by decide)
    rw [name_toList] at hc
    simp only [List.mem_append, List.mem_cons] at hc
    rcases hc with hc | hc | hc | hc
    · exact absurd (Numeral.isDigit_of_mem_padded hc) (by decide)
    · exact absurd hc (by decide)
    · exact h hc
    · exact absurd hc (by decide)

/-- The file of a track is taken for an audio file. -/
theorem isAudio_join {p : Path} {number : UInt32} {title : String} (hp : p.bytes ≠ [])
    (h : '/' ∉ title.toList) :
    ScannedTrack.isAudio (p.join ⟨Utf8.encode (name number title)⟩) = true := by
  have hstem : Utf8.encode (twoDigits number.toNat ++ " " ++ title) ≠ [] := by
    intro he
    have hempty := Utf8.encode_eq_nil he
    have hlist := congrArg String.toList hempty
    simp at hlist
  have hsplit := Path.splitExtension_append hstem
    (show Path.dot ∉ [0x6D, 0x70, 0x33] by decide)
  rw [ScannedTrack.isAudio, Path.extension?_join hp (isNormal_name h), encode_name]
  rw [show ([0x2E, 0x6D, 0x70, 0x33] : Bytes) = Path.dot :: [0x6D, 0x70, 0x33] from rfl, hsplit]
  rfl

end TrackFile

namespace Verification

open TaggedLibrary.Path (IsNormal)

/-- A path of three normal names below another one. -/
def InLibrary (root p : Path) : Prop :=
  ∃ a b c, IsNormal a ∧ IsNormal b ∧ IsNormal c ∧ p = ((root.join ⟨a⟩).join ⟨b⟩).join ⟨c⟩

theorem components_three {root : Path} {a b c : Bytes} (hne : root.bytes ≠ []) (ha : IsNormal a)
    (hb : IsNormal b) (hc : IsNormal c) : (((root.join ⟨a⟩).join ⟨b⟩).join ⟨c⟩).components =
      root.components ++ [.name a, .name b, .name c] := by
  have hne1 := Path.bytes_join_ne_nil hne ha
  have hne2 := Path.bytes_join_ne_nil hne1 hb
  rw [Path.components_join hne2 hc, Path.components_join hne1 hb, Path.components_join hne ha]
  simp

/-- The steps to the directories of an album's artist and of the album. -/
theorem components_album {root : Path} {album : Album} (hne : root.bytes ≠ []) (ha : album.Named) :
    (root.joinText album.artist).components =
        root.components ++ [.name (Utf8.encode album.artist)] ∧
      (TrackFile.albumDirectory root album.artist album.title).components =
        root.components ++ [.name (Utf8.encode album.artist), .name (Utf8.encode album.title)] := by
  have hartist := Path.components_join hne ha.artist
  refine ⟨hartist, ?_⟩
  rw [TrackFile.albumDirectory, Path.joinText, Path.joinText, Path.ofString, Path.ofString,
    Path.components_join (Path.bytes_join_ne_nil hne ha.artist) ha.title, hartist,
    List.append_assoc]
  rfl

theorem path_expectedTrack_names (root : Path) (album : Album) (track : UInt32 × String) :
    (expectedTrack (TrackFile.albumDirectory root album.artist album.title) album track).path =
      ((root.join ⟨Utf8.encode album.artist⟩).join ⟨Utf8.encode album.title⟩).join
        ⟨Utf8.encode (TrackFile.name track.1 track.2)⟩ := by
  simp only [path_expectedTrack, TrackFile.albumDirectory, Path.joinText, Path.ofString]

section Named

variable {root : Path} {album other : Album} {track track' : UInt32 × String} {catalog : Catalog}

theorem inLibrary_of_mem {e : Expected} (hne : root.bytes ≠ []) (ha : album.Named)
    (h : e ∈ expectedOfAlbum root album) :
    InLibrary root e.path ∧ ScannedTrack.isAudio e.path = true := by
  rw [expectedOfAlbum_eq] at h
  obtain ⟨track, ht, rfl⟩ := List.mem_map.mp h
  have htitle := ha.tracks _ (Album.mem_tracks ht)
  rw [path_expectedTrack_names]
  refine ⟨⟨_, _, _, ha.artist, ha.title, TrackFile.isNormal_name htitle, rfl⟩, ?_⟩
  exact TrackFile.isAudio_join
    (Path.bytes_join_ne_nil (Path.bytes_join_ne_nil hne ha.artist) ha.title) htitle

theorem inLibrary_of_expected {e : Expected} (hne : root.bytes ≠ [])
    (hn : ∀ a ∈ catalog, a.Named) (he : e ∈ expected root catalog) :
    InLibrary root e.path ∧ ScannedTrack.isAudio e.path = true := by
  obtain ⟨album, ha, he⟩ := List.mem_flatMap.mp he
  exact inLibrary_of_mem hne (hn album ha) he

/-- Tracks whose paths take the same steps are those of one artist, one title and one number. -/
theorem names_of_same (hne : root.bytes ≠ []) (ha : album.Named) (hb : other.Named)
    (ht : track ∈ album.numberedTracks) (ht' : track' ∈ other.numberedTracks)
    (h : (expectedTrack (TrackFile.albumDirectory root album.artist album.title) album
      track).path.Same
      (expectedTrack (TrackFile.albumDirectory root other.artist other.title) other track').path) :
    (album.artist, album.title) = (other.artist, other.title) ∧ track.1 = track'.1 := by
  have hn : IsNormal (Utf8.encode (TrackFile.name track.1 track.2)) :=
    TrackFile.isNormal_name (ha.tracks _ (Album.mem_tracks ht))
  have hn' : IsNormal (Utf8.encode (TrackFile.name track'.1 track'.2)) :=
    TrackFile.isNormal_name (hb.tracks _ (Album.mem_tracks ht'))
  rw [path_expectedTrack_names, path_expectedTrack_names, Path.Same,
    components_three hne ha.artist ha.title hn,
    components_three hne hb.artist hb.title hn'] at h
  have hnames := List.append_cancel_left h
  simp only [List.cons.injEq, Component.name.injEq, and_true] at hnames
  obtain ⟨hartist, htitle, hname⟩ := hnames
  refine ⟨?_, (TrackFile.eq_of_name_eq (Utf8.encode_injective hname)).1⟩
  rw [Utf8.encode_injective hartist, Utf8.encode_injective htitle]

/-- No two tracks of a catalog have paths that take the same steps. -/
theorem expected_pairwise (hne : root.bytes ≠ []) (hc : catalog.Named) :
    (expected root catalog).Pairwise fun e e' => ¬ e.path.Same e'.path := by
  rw [expected, List.pairwise_flatMap]
  refine ⟨fun album ha => ?_, ?_⟩
  · rw [expectedOfAlbum_eq, List.pairwise_map]
    refine (Album.numberedTracks_pairwise (hc.few album ha)).imp_of_mem ?_
    intro track track' ht ht' hnumber hsame
    exact hnumber (names_of_same hne (hc.albums album ha) (hc.albums album ha) ht ht' hsame).2
  · apply hc.distinct.imp_of_mem
    intro album other ha hb hnames e he e' he' hsame
    rw [expectedOfAlbum_eq] at he he'
    obtain ⟨track, ht, rfl⟩ := List.mem_map.mp he
    obtain ⟨track', ht', rfl⟩ := List.mem_map.mp he'
    exact hnames (names_of_same hne (hc.albums album ha) (hc.albums other hb) ht ht' hsame).1

theorem expected_paths_pairwise (hne : root.bytes ≠ []) (hc : catalog.Named) :
    (expected root catalog).Pairwise fun e e' => e.path ≠ e'.path := by
  apply (expected_pairwise hne hc).imp
  intro e e' hsame he
  exact hsame (congrArg Path.components he)

theorem length_expectedOfAlbum (root : Path) (album : Album) :
    (expectedOfAlbum root album).length = album.tracks.length := by
  rw [expectedOfAlbum, List.length_map, Album.length_numberedTracks]

theorem length_expected (root : Path) (catalog : Catalog) :
    (expected root catalog).length = Catalog.totalTracks catalog := by
  induction catalog with
  | nil => rfl
  | cons album catalog ih =>
    have hcons : expected root (album :: catalog) =
        expectedOfAlbum root album ++ expected root catalog := List.flatMap_cons
    rw [hcons, List.length_append, ih, length_expectedOfAlbum]
    rfl

theorem tidy_of_expected {e : Expected} (hc : catalog.Tidy) (he : e ∈ expected root catalog) :
    e.tags.Tidy := by
  obtain ⟨album, halbum, he⟩ := List.mem_flatMap.mp he
  rw [expectedOfAlbum_eq] at he
  obtain ⟨track, htrack, rfl⟩ := List.mem_map.mp he
  rw [tags_expectedTrack]
  exact (hc.albums album halbum).tags htrack

end Named

end Verification

end TaggedLibrary
