import TaggedLibrary.Proofs.ExpectedTracks
/-!
The first field in which tags differ, in the order in which the fields of a track are checked. It is
what a check reports of a file that carries other tags than it should, since no field of tidy tags
is lost on the way and numbers with their totals are told apart by their text.
-/

namespace TaggedLibrary

namespace TrackTags

/-- A field that is not as it should be: its name, and what was wanted and found there. -/
structure Difference where
  field : String
  wanted : String
  found : String
deriving Repr, DecidableEq

/-- The first field in which tags `t'` differ from the tags `t` that are wanted. -/
def firstDifference? (t t' : TrackTags) : Option Difference :=
  if (t.track, t.trackTotal) ≠ (t'.track, t'.trackTotal) then
    some ⟨"track", t.trackField, t'.trackField⟩
  else if (t.disc, t.discTotal) ≠ (t'.disc, t'.discTotal) then
    some ⟨"disc", t.discField, t'.discField⟩
  else if t.title ≠ t'.title then some ⟨"title", t.title, t'.title⟩
  else if t.artist ≠ t'.artist then some ⟨"artist", t.artist, t'.artist⟩
  else if t.albumArtist ≠ t'.albumArtist then some ⟨"album artist", t.albumArtist, t'.albumArtist⟩
  else if t.album ≠ t'.album then some ⟨"album", t.album, t'.album⟩
  else if t.year ≠ t'.year then some ⟨"year", t.year, t'.year⟩
  else if t.genre ≠ t'.genre then some ⟨"genre", t.genre, t'.genre⟩
  else none

/-- Tags that differ in no field are the same. -/
theorem eq_of_firstDifference?_eq_none {t t' : TrackTags} (h : firstDifference? t t' = none) :
    t = t' := by
  have hpass : ∀ {p : Prop} [Decidable p] {d : Difference} {r : Option Difference},
      (if p then some d else r) = none → ¬ p ∧ r = none := by
    intro p _ d r h
    by_cases hp : p
    · rw [if_pos hp] at h
      cases h
    · exact ⟨hp, by rwa [if_neg hp] at h⟩
  obtain ⟨htrack, h⟩ := hpass h
  obtain ⟨hdisc, h⟩ := hpass h
  obtain ⟨htitle, h⟩ := hpass h
  obtain ⟨hartist, h⟩ := hpass h
  obtain ⟨halbumArtist, h⟩ := hpass h
  obtain ⟨halbum, h⟩ := hpass h
  obtain ⟨hyear, h⟩ := hpass h
  obtain ⟨hgenre, _⟩ := hpass h
  cases t
  cases t'
  simp only [ne_eq, not_not, Prod.mk.injEq] at *
  simp only [*]

theorem firstDifference?_self (t : TrackTags) : firstDifference? t t = none := by
  simp [firstDifference?]

theorem slashed_inj {m n m' n' : UInt32} :
    slashed m n = slashed m' n' ↔ (m, n) = (m', n') := by
  constructor
  · intro h
    have hpair := (Id3v2.pair_slashed m n).symm.trans ((congrArg Id3v2.pair h).trans
      (Id3v2.pair_slashed m' n'))
    obtain ⟨hm, hn⟩ := Prod.mk.inj hpair
    rw [Option.some.inj hm, Option.some.inj hn]
  · intro h
    cases h
    rfl

end TrackTags

namespace Verification

open TrackTags (firstDifference? Difference)

variable {found : ScannedTrack} {t t' : TrackTags}

/-- A file that shows tidy tags is reported for the first field in which they differ from those that
are wanted, with what both say. -/
theorem mismatch?_of_shown (ht : t'.Tidy) (hf : found.fields = t'.shown) :
    mismatch? found t = (firstDifference? t t').map fun d =>
      .mismatch found.path d.field d.wanted (some d.found) := by
  have hfields : comparisons found t =
      [("track", t.trackField, some t'.trackField), ("disc", t.discField, some t'.discField),
       ("title", t.title, some t'.title), ("artist", t.artist, some t'.artist),
       ("album artist", t.albumArtist, some t'.albumArtist), ("album", t.album, some t'.album),
       ("year", t.year, some t'.year), ("genre", t.genre, some t'.genre)] := by
    simp only [comparisons, ScannedTrack.trackField, ScannedTrack.discField, hf, TrackTags.shown,
      ht.title.nonBlank, ht.artist.nonBlank, ht.albumArtist.nonBlank, ht.album.nonBlank,
      ht.genre.nonBlank]
    rfl
  have htrack : t.trackField = t'.trackField ↔
      (t.track, t.trackTotal) = (t'.track, t'.trackTotal) := TrackTags.slashed_inj
  have hdisc : t.discField = t'.discField ↔
      (t.disc, t.discTotal) = (t'.disc, t'.discTotal) := TrackTags.slashed_inj
  have hsome (wanted shown : String) : some shown = some wanted ↔ wanted = shown :=
    Option.some_inj.trans eq_comm
  simp only [mismatch?, hfields, find?_mismatch_cons, hsome, firstDifference?, apply_ite (Option.map _),
    Option.map_some, Option.map_none, List.find?_nil, ne_eq, htrack, hdisc]

end Verification

end TaggedLibrary
