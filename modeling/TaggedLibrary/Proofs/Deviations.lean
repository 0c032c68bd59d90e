import TaggedLibrary.Proofs.Removal
import TaggedLibrary.Proofs.Retagging
import TaggedLibrary.Proofs.ScannedNames
/-!
Every deviation of one track from a library that was written is reported under its path: that its
file is missing, or the first field in which its tags are not those of the catalog. All other tracks
are there still, so the check passes over those before it and gets to it.
-/

namespace TaggedLibrary

open FileTree (Below Changes Without)
open Verification (Expected checkAll expected)
open TrackTags (Difference firstDifference?)

namespace Generation

variable {paths : LibraryPaths} {origin d i j l : Nat} {file audio n : Bytes} {t t' : FileTree}
  {catalog : Catalog} {e : Expected}

/-- The check of a library in which all tracks but one are there gets to that one, with all files
under its steps. -/
theorem Ready.checkAll_eq (hr : Ready paths origin d file t) (hne : paths.destination.bytes ≠ [])
    (ha : AudioFile.IsBareAudio audio) (hc : catalog.Tidy)
    (he : e ∈ expected paths.destination catalog)
    (hothers : ∀ x ∈ expected paths.destination catalog, x.path ≠ e.path → Holds audio t x) :
    ∃ rest more, checkAll (ScannedTrack.scan t paths.destination)
        (expected paths.destination catalog) = checkAll rest (e :: more) ∧
      (∀ x ∈ rest, x ∈ ScannedTrack.scan t paths.destination) ∧
      ∀ x ∈ ScannedTrack.scan t paths.destination, x.path.Same e.path → x ∈ rest := by
  obtain ⟨front, more, hsplit⟩ := List.append_of_mem he
  have hdistinct := Verification.expected_pairwise hne hc.named
  rw [hsplit] at hdistinct
  obtain ⟨hfront, _, happart⟩ := List.pairwise_append.mp hdistinct
  have hbefore : ∀ x ∈ front, x ∈ expected paths.destination catalog ∧ Holds audio t x := by
    intro x hx
    have hmem : x ∈ expected paths.destination catalog := hsplit ▸ List.mem_append_left _ hx
    refine ⟨hmem, hothers x hmem fun hp => ?_⟩
    exact happart x hx e List.mem_cons_self (congrArg Path.components hp)
  obtain ⟨rest, hrest, hsub, hleft⟩ : ∃ rest, checkAll (ScannedTrack.scan t paths.destination)
      (front ++ e :: more) = checkAll rest (e :: more) ∧ _ ∧ _ := by
    refine Verification.checkAll_passes (e :: more) (fun x hx => ?_) (fun x hx y hy hs => ?_) hfront
    · obtain ⟨hmem, hh⟩ := hbefore x hx
      obtain ⟨hin, haudio⟩ := Verification.inLibrary_of_expected hne hc.named.albums hmem
      exact ⟨_, Verification.mem_scan_of_holds hr hne hin haudio hh,
        congrArg Path.components (ScannedTrack.path_ofPath t x.path)⟩
    · obtain ⟨hmem, hh⟩ := hbefore x hx
      exact Verification.mismatch?_of_holds ha hc hmem hh hy hs
  refine ⟨rest, more, hsplit ▸ hrest, hsub, fun x hx hs => hleft x hx fun y hy hys => ?_⟩
  exact happart y hy e List.mem_cons_self (hys.symm.trans hs)

theorem verify_error {root : Path} {error : LibraryError} {s : Session}
    (h : checkAll (ScannedTrack.scan s.files root) (expected root catalog) = .error error) :
    ((Verification.verify root catalog).run s).1 = .error error := by
  have hcheck : Verification.check s.files root catalog = .error error := by
    simp only [Verification.check, h, Except.map]
  rw [Verification.verify, Run.run_bind, Run.run_ask, hcheck]

section Removed

theorem Ready.without (hr : Ready paths origin d file t) (h : Without l n j t t')
    (hj : Below t d j) : Ready paths origin d file t' := by
  obtain ⟨mode, modified, ho⟩ := hr.template
  obtain ⟨parent, entries, hd⟩ := hr.directory
  obtain ⟨entries', hd', _⟩ := h.directory hd
  have haway : origin ≠ j := by
    rintro rfl
    exact hr.apart hj
  have htop : d ≠ j := by
    rintro rfl
    obtain ⟨_, _, _, hfile⟩ := h.file
    rw [hd] at hfile
    cases hfile
  exact ⟨h.resolve hr.source haway, ⟨mode, modified, (h.node_eq fun _ _ he => by cases he).mpr ho⟩,
    h.resolve hr.destination htop, ⟨parent, entries', hd'⟩, h.plain hr.plain,
    fun hb => hr.apart (h.below_back hb)⟩

theorem Holds.without {x : Expected} (hx : Holds audio t x) (h : Without l n j t t')
    (hj : t.resolve x.path ≠ .ok j) : Holds audio t' x := by
  obtain ⟨hsize, i, mode, modified, hi, hnode⟩ := hx
  have hij : i ≠ j := by
    rintro rfl
    exact hj hi
  exact ⟨hsize, i, mode, modified, h.resolve hi hij,
    (h.node_eq fun _ _ he => by cases he).mpr hnode⟩

/-- A track whose file is removed is missed. -/
theorem removal_caught {s : Session} (hr : Ready paths origin d file s.files)
    (hne : paths.destination.bytes ≠ []) (ha : AudioFile.IsBareAudio audio) (hc : catalog.Tidy)
    (hh : ∀ x ∈ expected paths.destination catalog, Holds audio s.files x)
    (he : e ∈ expected paths.destination catalog) :
    ∃ t', (FileTree.remove e.path).run s.files = (.ok (), t') ∧
      ((Verification.verify paths.destination catalog).run { s with files := t' }).1 =
        .error (.mismatch e.path "file" "present" none) := by
  have hin := fun x hx => (Verification.inLibrary_of_expected (e := x) hne hc.named.albums hx).1
  obtain ⟨_, j, mode, modified, hj, hfile⟩ := hh e he
  have hbelow := hr.below hne (hin e he) hj
  obtain ⟨a, b, c, ha', hb', hc', hpath⟩ := hin e he
  have hne1 := Path.bytes_join_ne_nil hne ha'
  have hne2 := Path.bytes_join_ne_nil hne1 hb'
  have hj' := hj
  rw [hpath] at hj'
  obtain ⟨k, l, _, hl, hka, hlb, _⟩ := hr.plain.resolve_three hne ha' hb' hc' hr.destination hj'
  obtain ⟨t', hrun, hwithout⟩ := FileTree.run_remove hne2 hc' hl
    (fun hentry => hr.plain.noLink (.entry (.entry (.entry .top hka) hlb) hentry)) hj'
    ⟨_, mode, modified, hfile⟩
  rw [← hpath] at hrun
  refine ⟨t', hrun, verify_error ?_⟩
  obtain ⟨rest, more, hcheck, hsub, _⟩ := (hr.without hwithout hbelow).checkAll_eq hne ha hc he
    fun x hx hxp => (hh x hx).without hwithout fun hxj =>
      hxp (hr.injective hne (hin x hx) (hin e he) hxj hj)
  have hnone : ∀ x ∈ rest, ¬ x.path.Same e.path := by
    intro x hx hs
    obtain ⟨hmem, _⟩ := ScannedTrack.mem_scan.mp (hsub x hx)
    obtain ⟨i, _, _, _, hi, _⟩ := ScannedTrack.resolve_of_mem_audioFiles hmem
    rw [hpath] at hs
    exact hwithout.resolve_gone hne2 hc' hl hs hi
  rw [hcheck, checkAll, Verification.take?_eq_none hnone]

end Removed

section Retagged

theorem Holds.changes {x : Expected} (hx : Holds audio t x)
    (hc : Changes (fun _ => True) (· = e.path) t t') (hj : t'.resolve e.path = .ok j)
    (hxj : t'.resolve x.path ≠ .ok j) : Holds audio t' x := by
  obtain ⟨hsize, i, mode, modified, hi, hnode⟩ := hx
  have hi' := hc.extends.resolve hi
  rcases hc.file_kept hnode with hkept | ⟨_, rfl, hp⟩
  · exact ⟨hsize, i, mode, modified, hi', hkept⟩
  · rw [hj] at hp
    cases hp
    exact absurd hi' hxj

/-- A track that is there can be given other tags, and is there with these then. -/
theorem Holds.retagged {s : Session} (hh : Holds audio s.files e)
    (haudio : ScannedTrack.isAudio e.path = true) (ha : AudioFile.IsBareAudio audio)
    (ht : e.tags.Plain) {tags : TrackTags}
    (hs : (Id3v2.frameBytes tags).length + Id3v2.padding < Id3v2.sizeLimit) :
    ∃ s', (TagWriter.id3v2 e.path tags).run s = (.ok (), s') ∧
      Holds audio s'.files ⟨e.path, tags⟩ := by
  obtain ⟨hsize, j, mode, modified, hj, hfile⟩ := hh
  refine ⟨_, TagWriter.run_id3v2_tagged haudio hj hfile ha ht hsize hs, hs, j, mode, s.files.now,
    ?_, FileTree.node?_putBytes hfile _⟩
  exact (FileTree.putBytes_rewritten j _ s.files).extends.resolve hj

/-- A track whose file gets other tags is reported for the first field in which they differ. -/
theorem retagging_caught {s : Session} (hr : Ready paths origin d file s.files)
    (hne : paths.destination.bytes ≠ []) (ha : AudioFile.IsBareAudio audio) (hc : catalog.Tidy)
    (hh : ∀ x ∈ expected paths.destination catalog, Holds audio s.files x)
    (he : e ∈ expected paths.destination catalog) {tags : TrackTags} (ht : tags.Tidy)
    (hs : (Id3v2.frameBytes tags).length + Id3v2.padding < Id3v2.sizeLimit)
    {difference : Difference} (hd : firstDifference? e.tags tags = some difference) :
    ∃ s' q, (TagWriter.id3v2 e.path tags).run s = (.ok (), s') ∧ q.Same e.path ∧
      (s.files.ProperNames → q = e.path) ∧
      ((Verification.verify paths.destination catalog).run s').1 = .error
        (.mismatch q difference.field difference.wanted (some difference.found)) := by
  have hin := fun x hx => Verification.inLibrary_of_expected (e := x) hne hc.named.albums hx
  obtain ⟨s', hrun, hthere⟩ :=
    (hh e he).retagged (hin e he).2 ha (Verification.tidy_of_expected hc he).plain hs
  have hchanges := (TagWriter.id3v2_within (fun _ => True) e.path tags).changes hrun
  have hr' : Ready paths origin d file s'.files := by
    refine hr.changes hne ?_ hchanges
    rintro p rfl
    exact (hin e he).1
  obtain ⟨_, j, _, _, hj, _⟩ := id hthere
  obtain ⟨rest, more, hcheck, hsub, hleft⟩ := hr'.checkAll_eq hne ha hc he
    fun x hx hxp => (hh x hx).changes hchanges hj fun hxj =>
      hxp (hr'.injective hne (hin x hx).1 (hin e he).1 hxj hj)
  have hscan := Verification.mem_scan_of_holds (e := ⟨e.path, tags⟩) hr' hne (hin e he).1
    (hin e he).2 hthere
  have hsame := congrArg Path.components (ScannedTrack.path_ofPath s'.files e.path)
  obtain ⟨found, left, htake, hmem, hfound, _⟩ :=
    Verification.take?_eq_some ⟨_, hleft _ hscan hsame, hsame⟩
  have hfields := Verification.fields_of_mem_scan ha ht.plain hthere (hsub found hmem) hfound
  refine ⟨s', found.path, hrun, hfound, fun hproper => ?_, verify_error ?_⟩
  · exact ScannedTrack.eq_of_same_of_mem_audioFiles (hchanges.properNames hproper) hne
      (hin e he).1 (ScannedTrack.mem_scan.mp (hsub found hmem)).1 hfound
  · rw [hcheck, checkAll, htake]
    simp only [Verification.mismatch?_of_shown ht hfields, hd, Option.map_some]

end Retagged

/-- After a library has been written without an error, every deviation of one track is caught and
named: a file that is removed is missed under the track's path, and other tags in it are reported
there for the first field in which they differ, with what both say. Paths are the same if their
steps are; where all names are proper, they are also written the same way. -/
theorem deviation_caught {s s' : Session} {summary : Summary} (hc : catalog.Tidy)
    (hp : Prepared paths origin file s.files) (ht : AudioFile.IsTemplate file audio)
    (h : (generate paths catalog TagWriter.id3v2).run s = (.ok summary, s'))
    (he : e ∈ expected paths.destination catalog) :
    (∃ t', (FileTree.remove e.path).run s'.files = (.ok (), t') ∧
      ((Verification.verify paths.destination catalog).run { s' with files := t' }).1 =
        .error (.mismatch e.path "file" "present" none)) ∧
    ∀ tags : TrackTags, tags.Tidy →
      (Id3v2.frameBytes tags).length + Id3v2.padding < Id3v2.sizeLimit → tags ≠ e.tags →
      ∃ s'' q difference, (TagWriter.id3v2 e.path tags).run s' = (.ok (), s'') ∧
        firstDifference? e.tags tags = some difference ∧ q.Same e.path ∧
        (s.files.ProperNames → q = e.path) ∧
        ((Verification.verify paths.destination catalog).run s'').1 = .error
          (.mismatch q difference.field difference.wanted (some difference.found)) := by
  obtain ⟨_, t, hmade, hw⟩ := generate_written h
  obtain ⟨d, hready, hh⟩ := hw.library hmade hp ht hc.named he
  refine ⟨removal_caught hready hp.nonempty ht.1 hc hh he, fun tags htidy hsize hother => ?_⟩
  cases hd : firstDifference? e.tags tags with
  | none => exact absurd (TrackTags.eq_of_firstDifference?_eq_none hd).symm hother
  | some difference =>
    obtain ⟨s'', q, hrun, hsame, hproper, hverify⟩ :=
      retagging_caught hready hp.nonempty ht.1 hc hh he htidy hsize hd
    refine ⟨s'', q, difference, hrun, rfl, hsame, fun hnames => hproper ?_, hverify⟩
    exact ((generate_within paths catalog (TagWriter.id3v2_within _)).changes h).properNames hnames

/-- The only track of a library. -/
def onlyTrack : Expected :=
  { path := Path.ofString "M/A/B/01 T.mp3"
    tags := { title := "T", artist := "A", albumArtist := "A", album := "B", track := 1,
              trackTotal := 1, disc := 1, discTotal := 1, year := "1998", genre := "Pop" } }

/-- Other tags for it: there are more discs, and the title is another one. -/
def secondDisc : TrackTags := { onlyTrack.tags with discTotal := 2, title := "B" }

theorem tidy_secondDisc : secondDisc.Tidy := by
  have halbum := tidy_oneTrack.albums _ List.mem_cons_self
  exact ⟨halbum.title, halbum.artist, halbum.artist, halbum.title, halbum.genre, halbum.genreHead,
    halbum.genreName, halbum.year, halbum.yearDigits⟩

theorem properNames_oneTemplate : oneTemplate.ProperNames := by
  have hall : ∀ i : Fin oneTemplate.nodes.size, ∀ e ∈ FileTree.namesIn oneTemplate.nodes[i],
      e.1 = Utf8.encode "t.mp3" := by decide
  intro i n child he
  obtain ⟨hi, hm⟩ := FileTree.mem_namesIn he
  obtain rfl : n = Utf8.encode "t.mp3" := hall ⟨i, hi⟩ _ hm
  exact ⟨by decide, by decide, by decide, by decide⟩

theorem deviation_caught_oneTrack :
    (∃ t', (FileTree.remove onlyTrack.path).run writtenM.files = (.ok (), t') ∧
      ((Verification.verify intoM.destination oneTrack).run { writtenM with files := t' }).1 =
        .error (.mismatch onlyTrack.path "file" "present" none)) ∧
    ∃ s'', (TagWriter.id3v2 onlyTrack.path secondDisc).run writtenM = (.ok (), s'') ∧
      ((Verification.verify intoM.destination oneTrack).run s'').1 =
        .error (.mismatch onlyTrack.path "disc" "1/1" (some "1/2")) := by
  have he : onlyTrack ∈ expected intoM.destination oneTrack := by decide
  obtain ⟨hremoved, hretagged⟩ := deviation_caught tidy_oneTrack prepared_oneTemplate
    ⟨AudioFile.isBareAudio_silence, Or.inl rfl⟩ run_oneTrack he
  obtain ⟨s'', q, difference, htag, hdifference, _, hpath, hverify⟩ :=
    hretagged secondDisc tidy_secondDisc (by decide) (by decide)
  have hfirst : firstDifference? onlyTrack.tags secondDisc = some ⟨"disc", "1/1", "1/2"⟩ := by
    decide
  obtain rfl := Option.some.inj (hdifference.symm.trans hfirst)
  obtain rfl := hpath properNames_oneTemplate
  exact ⟨hremoved, s'', htag, hverify⟩

end Generation

end TaggedLibrary
