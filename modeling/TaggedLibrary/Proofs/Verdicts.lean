import TaggedLibrary.Proofs.ListedFiles
/-!
What a check of a library accepts and what it blames, for any state of the files and any catalog.
The tracks are gone through in order; a track that is passed uses up the file at its path, and since
a scan finds no two files at one path, what is left are the files at all other paths.
-/

namespace TaggedLibrary

open FileTree (WellNamed)

namespace ScannedTrack

/-- A scan finds no two files at one path. -/
theorem scan_apart {t : FileTree} (ht : t.WellNamed) (dir : Path) :
    (scan t dir).Pairwise fun x y => ¬ x.path.Same y.path := by
  by_cases hd : dir.bytes = []
  · have hnone : (scan t dir).map (·.path) = [] := by
      rw [map_path_scan, audioFiles_eq_nil fun i hr => FileTree.nonempty_of_resolve hr hd,
        List.mergeSort_nil]
    rw [List.map_eq_nil_iff.mp hnone]
    exact List.Pairwise.nil
  · refine (List.pairwise_map.mp (scan_ascends ht hd)).imp fun hlt hs => ?_
    rw [Path.key, Path.key, show _ = _ from hs] at hlt
    exact lt_irrefl _ hlt

/-- A number and a total are shown as they are wanted only if both are there and are those: a number
without a total has no slash. -/
theorem slashed?_eq_some {n total : Option UInt32} {m k : Nat} (hm : m < 2 ^ 32) (hk : k < 2 ^ 32) :
    slashed? n total = some (TrackTags.slashed (UInt32.ofNat m) (UInt32.ofNat k)) ↔
      n.map UInt32.toNat = some m ∧ total.map UInt32.toNat = some k := by
  have hnat : ∀ {i : UInt32} {j : Nat}, j < 2 ^ 32 → (i = UInt32.ofNat j ↔ i.toNat = j) := by
    intro i j hj
    constructor
    · rintro rfl
      exact UInt32.toNat_ofNat_of_lt' hj
    · rintro rfl
      exact UInt32.ofNat_toNat.symm
  cases n with
  | none => simp [slashed?]
  | some n =>
    cases total with
    | none =>
      simp only [slashed?, Option.map_none, reduceCtorEq, and_false, iff_false, Option.some.injEq]
      intro h
      have hslash : '/' ∈ (Numeral.text n.toNat).toList := by
        rw [h, TrackTags.slashed]
        simp
      rw [Numeral.text, String.toList_ofList] at hslash
      exact absurd (Numeral.isDigit_of_mem_digits hslash) (by decide)
    | some total =>
      have hpair : slashed? (some n) (some total) = some (TrackTags.slashed n total) := rfl
      rw [hpair, Option.some.injEq, TrackTags.slashed_inj, Prod.mk.injEq, hnat hm, hnat hk]
      simp

end ScannedTrack

namespace Verification

open ScannedTrack (scan)

/-- A track that a library should hold, and what its file should show. -/
structure Wanted where
  path : Path
  number : Nat
  total : Nat
  title : String
  artist : String
  album : String
  year : String
  genre : String
deriving Repr, DecidableEq

/-- The tracks of an album, each under its two-digit number and title. -/
def wantedOfAlbum (root : Path) (album : Album) : List Wanted :=
  album.tracks.mapIdx fun i title =>
    { path := ((root.joinText album.artist).joinText album.title).joinText
        (TrackFile.twoDigits (i + 1) ++ " " ++ title ++ ".mp3")
      number := i + 1, total := album.tracks.length, title, artist := album.artist
      album := album.title, year := album.year, genre := album.genre }

/-- The tracks of a catalog, in its order. -/
def wantedTracks (root : Path) (catalog : Catalog) : List Wanted :=
  catalog.flatMap (wantedOfAlbum root)

namespace Wanted

/-- The fields of a file are those of the track: there is one disc, and the artist of the album is
that of the track. -/
structure Met (w : Wanted) (f : TagFields) : Prop where
  track : f.track.map UInt32.toNat = some w.number
  trackTotal : f.trackTotal.map UInt32.toNat = some w.total
  disc : f.disc = some 1
  discTotal : f.discTotal = some 1
  title : f.title = some w.title
  artist : f.artist = some w.artist
  albumArtist : f.albumArtist = some w.artist
  album : f.album = some w.album
  year : f.year = some w.year
  genre : f.genre = some w.genre

/-- What is wrong with a file: the first of its fields that is not that of the track. -/
def fault? (w : Wanted) (x : ScannedTrack) : Option LibraryError :=
  let f := x.fields
  if ¬ (f.track.map UInt32.toNat = some w.number ∧
      f.trackTotal.map UInt32.toNat = some w.total) then
    some (.mismatch x.path "track" (Numeral.text w.number ++ "/" ++ Numeral.text w.total)
      x.trackField)
  else if ¬ (f.disc = some 1 ∧ f.discTotal = some 1) then
    some (.mismatch x.path "disc" "1/1" x.discField)
  else if f.title ≠ some w.title then some (.mismatch x.path "title" w.title f.title)
  else if f.artist ≠ some w.artist then some (.mismatch x.path "artist" w.artist f.artist)
  else if f.albumArtist ≠ some w.artist then
    some (.mismatch x.path "album artist" w.artist f.albumArtist)
  else if f.album ≠ some w.album then some (.mismatch x.path "album" w.album f.album)
  else if f.year ≠ some w.year then some (.mismatch x.path "year" w.year f.year)
  else if f.genre ≠ some w.genre then some (.mismatch x.path "genre" w.genre f.genre)
  else none

theorem fault?_eq_none {w : Wanted} {x : ScannedTrack} : w.fault? x = none ↔ w.Met x.fields := by
  have hpass : ∀ {p : Prop} [Decidable p] {e : LibraryError} {r : Option LibraryError},
      (if p then some e else r) = none ↔ ¬ p ∧ r = none := by
    intro p _ e r
    by_cases hp : p
    · simp [hp]
    · simp [hp]
  simp only [fault?, hpass, ne_eq, not_not]
  constructor
  · rintro ⟨⟨h1, h2⟩, ⟨h3, h4⟩, h5, h6, h7, h8, h9, h10, -⟩
    exact ⟨h1, h2, h3, h4, h5, h6, h7, h8, h9, h10⟩
  · intro h
    exact ⟨⟨h.track, h.trackTotal⟩, ⟨h.disc, h.discTotal⟩, h.title, h.artist, h.albumArtist,
      h.album, h.year, h.genre, trivial⟩

/-- The track as the check asks for it. -/
def asked (w : Wanted) : Expected :=
  { path := w.path
    tags := { title := w.title, artist := w.artist, albumArtist := w.artist, album := w.album
              track := UInt32.ofNat w.number, trackTotal := UInt32.ofNat w.total
              disc := 1, discTotal := 1, year := w.year, genre := w.genre } }

/-- The numbers of a track fit into 32 bits. -/
def Fits (w : Wanted) : Prop := w.number < 2 ^ 32 ∧ w.total < 2 ^ 32

end Wanted

section Asked

variable {root : Path} {catalog : Catalog} {w : Wanted}

theorem fits_of_wantedTracks (hfew : ∀ a ∈ catalog, a.tracks.length < 2 ^ 32)
    (hw : w ∈ wantedTracks root catalog) : w.Fits := by
  obtain ⟨album, ha, hw⟩ := List.mem_flatMap.mp hw
  obtain ⟨i, hi, rfl⟩ := List.mem_mapIdx.mp hw
  have := hfew album ha
  exact ⟨show i + 1 < 2 ^ 32 by omega, hfew album ha⟩

theorem expected_eq_asked (hfew : ∀ a ∈ catalog, a.tracks.length < 2 ^ 32) :
    expected root catalog = (wantedTracks root catalog).map Wanted.asked := by
  rw [expected, wantedTracks, List.map_flatMap]
  refine List.flatMap_congr fun album ha => ?_
  have hlt := hfew album ha
  rw [expectedOfAlbum, Album.numberedTracks, wantedOfAlbum, List.mapIdx_eq_zipIdx_map, List.map_map,
    List.map_map]
  refine List.map_congr_left fun p hp => ?_
  obtain ⟨title, i⟩ := p
  have hnumber : UInt32.ofNat i + 1 = UInt32.ofNat (i + 1) := UInt32.ofNat_add i 1 |>.symm
  have hback : (UInt32.ofNat (i + 1)).toNat = i + 1 := by
    have := (List.mem_zipIdx' hp).1
    exact UInt32.toNat_ofNat_of_lt' (by simp only [UInt32.size]; omega)
  simp only [Function.comp_apply, Wanted.asked, hnumber, TrackTags.forTrack, Album.trackTotal,
    TrackFile.name, hback, TrackFile.albumDirectory]

theorem mismatch?_asked (hw : w.Fits) (x : ScannedTrack) :
    mismatch? x w.asked.tags = w.fault? x := by
  have htext : w.asked.tags.trackField = Numeral.text w.number ++ "/" ++ Numeral.text w.total := by
    rw [TrackTags.trackField, TrackTags.slashed, Wanted.asked, UInt32.toNat_ofNat_of_lt' hw.1,
      UInt32.toNat_ofNat_of_lt' hw.2]
  have honly : w.asked.tags.discField = "1/1" :=
    show TrackTags.slashed 1 1 = "1/1" by decide
  have htrack : x.trackField = some (Numeral.text w.number ++ "/" ++ Numeral.text w.total) ↔
      x.fields.track.map UInt32.toNat = some w.number ∧
        x.fields.trackTotal.map UInt32.toNat = some w.total := by
    rw [← htext]
    exact ScannedTrack.slashed?_eq_some hw.1 hw.2
  have hdisc : x.discField = some "1/1" ↔
      x.fields.disc = some 1 ∧ x.fields.discTotal = some 1 := by
    have hone : ∀ n : Option UInt32, n.map UInt32.toNat = some 1 ↔ n = some 1 := by
      intro n
      rw [Option.map_eq_some_iff]
      constructor
      · rintro ⟨i, rfl, hi⟩
        rw [UInt32.toNat_inj.mp (hi.trans (show (1 : UInt32).toNat = 1 from rfl).symm)]
      · rintro rfl
        exact ⟨1, rfl, rfl⟩
    rw [← hone, ← hone, ← honly]
    exact ScannedTrack.slashed?_eq_some (m := 1) (k := 1) (by decide) (by decide)
  simp only [mismatch?, comparisons, find?_mismatch_cons, Wanted.fault?, ne_eq, htrack, hdisc,
    List.find?_nil, Option.map_none, htext, honly]
  rfl

end Asked

/-- What passes a check of the tracks `ws` against the files `tracks`: there is one file for each
track and no other track at its path, and it shows what it should. -/
structure Accepted (tracks : List ScannedTrack) (ws : List Wanted) : Prop where
  distinct : ws.Pairwise fun w v => ¬ w.path.Same v.path
  there : ∀ w ∈ ws, ∃ x ∈ tracks, x.path.Same w.path
  met : ∀ w ∈ ws, ∀ x ∈ tracks, x.path.Same w.path → w.Met x.fields

/-- What is reported of track `w` when the tracks `front` before it have passed: that its file is
not there, or has been used up by one of these, or else what is wrong with the file. -/
def Blamed (tracks : List ScannedTrack) (front : List Wanted) (w : Wanted) (e : LibraryError) :
    Prop :=
  ((∀ x ∈ tracks, ¬ x.path.Same w.path) ∨ ∃ v ∈ front, v.path.Same w.path) ∧
      e = .mismatch w.path "file" "present" none ∨
    (∀ v ∈ front, ¬ v.path.Same w.path) ∧ ∃ x ∈ tracks, x.path.Same w.path ∧ w.fault? x = some e

section Relevant

variable {tracks others : List ScannedTrack} {ws front : List Wanted} {w : Wanted}
  {e : LibraryError}

theorem accepted_nil (tracks : List ScannedTrack) : Accepted tracks [] :=
  ⟨List.Pairwise.nil, fun _ hw => absurd hw List.not_mem_nil,
    fun _ hw => absurd hw List.not_mem_nil⟩

/-- Only the files at the paths of the tracks count. -/
theorem Accepted.of_same_files (h : Accepted tracks ws)
    (hs : ∀ w ∈ ws, ∀ x, x.path.Same w.path → (x ∈ tracks ↔ x ∈ others)) : Accepted others ws := by
  refine ⟨h.distinct, fun w hw => ?_, fun w hw x hx hxw => ?_⟩
  · obtain ⟨x, hx, hxw⟩ := h.there w hw
    exact ⟨x, (hs w hw x hxw).mp hx, hxw⟩
  · exact h.met w hw x ((hs w hw x hxw).mpr hx) hxw

theorem Blamed.of_same_files (h : Blamed tracks front w e)
    (hs : ∀ x, x.path.Same w.path → (x ∈ tracks ↔ x ∈ others)) : Blamed others front w e := by
  rcases h with ⟨hmissing | hused, he⟩ | ⟨hnew, x, hx, hxw, hfault⟩
  · exact Or.inl ⟨Or.inl fun x hx hxw => hmissing x ((hs x hxw).mpr hx) hxw, he⟩
  · exact Or.inl ⟨Or.inr hused, he⟩
  · exact Or.inr ⟨hnew, x, (hs x hxw).mp hx, hxw, hfault⟩

end Relevant

section Check

variable {tracks : List ScannedTrack} {ws front back : List Wanted} {w : Wanted} {p : Path}
  {x : ScannedTrack} {e : LibraryError}

/-- What is taken is the one file at the path, and the files at other paths are left. -/
theorem take?_of_apart (hl : tracks.Pairwise fun x y => ¬ x.path.Same y.path) (hx : x ∈ tracks)
    (hs : x.path.Same p) :
    take? p tracks = some (x, tracks.filter fun y => ¬ y.path.Same p) := by
  induction tracks with
  | nil => cases hx
  | cons t ts ih =>
    obtain ⟨ht, hts⟩ := List.pairwise_cons.mp hl
    by_cases htp : t.path.Same p
    · have hothers : ∀ y ∈ ts, ¬ y.path.Same p := fun y hy hyp => ht y hy (htp.trans hyp.symm)
      obtain rfl : x = t := by
        rcases List.mem_cons.mp hx with rfl | hx
        · rfl
        · exact absurd hs (hothers x hx)
      rw [take?, if_pos htp, List.filter_cons_of_neg (by simpa using htp),
        List.filter_eq_self.mpr (by simpa using hothers)]
    · have hx' : x ∈ ts := by
        rcases List.mem_cons.mp hx with rfl | hx
        · exact absurd hs htp
        · exact hx
      rw [take?, if_neg htp, ih hts hx', List.filter_cons_of_pos (by simpa using htp)]
      rfl

/-- Tracks that pass are gone through, and the files at other paths than theirs are left. -/
theorem checkAll_append (hl : tracks.Pairwise fun x y => ¬ x.path.Same y.path)
    (hfits : ∀ w ∈ front, w.Fits) (h : Accepted tracks front) (more : List Expected) :
    checkAll tracks (front.map Wanted.asked ++ more) =
      checkAll (tracks.filter fun x => ∀ w ∈ front, ¬ x.path.Same w.path) more := by
  induction front generalizing tracks with
  | nil => simp
  | cons w front ih =>
    obtain ⟨hother, hdistinct⟩ := List.pairwise_cons.mp h.distinct
    obtain ⟨x, hx, hs⟩ := h.there w List.mem_cons_self
    have hnone : mismatch? x w.asked.tags = none := by
      rw [mismatch?_asked (hfits w List.mem_cons_self), Wanted.fault?_eq_none]
      exact h.met w List.mem_cons_self x hx hs
    have hleft : Accepted (tracks.filter fun y => ¬ y.path.Same w.path) front := by
      refine ⟨hdistinct, fun v hv => ?_, fun v hv y hy => ?_⟩
      · obtain ⟨y, hy, hyv⟩ := h.there v (List.mem_cons_of_mem _ hv)
        refine ⟨y, List.mem_filter.mpr ⟨hy, ?_⟩, hyv⟩
        simpa using fun hyw : y.path.Same w.path => hother v hv (hyw.symm.trans hyv)
      · exact h.met v (List.mem_cons_of_mem _ hv) y (List.mem_filter.mp hy).1
    have hstep : checkAll tracks ((w :: front).map Wanted.asked ++ more) =
        checkAll (tracks.filter fun y => ¬ y.path.Same w.path)
          (front.map Wanted.asked ++ more) := by
      rw [List.map_cons, List.cons_append, checkAll,
        show w.asked.path = w.path from rfl, take?_of_apart hl hx hs]
      simp only [hnone]
    rw [hstep, ih (hl.filter _) (fun v hv => hfits v (List.mem_cons_of_mem _ hv)) hleft,
      List.filter_filter]
    congr 1
    refine List.filter_congr fun y _ => ?_
    simp [Bool.and_comm]

theorem checkAll_accepted (hl : tracks.Pairwise fun x y => ¬ x.path.Same y.path)
    (hfits : ∀ w ∈ ws, w.Fits) (h : Accepted tracks ws) :
    ∃ extra, checkAll tracks (ws.map Wanted.asked) = .ok extra := by
  have hall := checkAll_append hl hfits h []
  rw [List.append_nil] at hall
  exact ⟨_, hall⟩

/-- A track that is to be blamed ends the check, when those before it have passed. -/
theorem checkAll_blamed (hl : tracks.Pairwise fun x y => ¬ x.path.Same y.path)
    (hfits : ∀ v ∈ front ++ w :: back, v.Fits) (h : Accepted tracks front)
    (hb : Blamed tracks front w e) :
    checkAll tracks ((front ++ w :: back).map Wanted.asked) = .error e := by
  obtain ⟨hfront, hw⟩ := List.forall_mem_append.mp hfits
  rw [List.map_append, checkAll_append hl hfront h, List.map_cons, checkAll,
    show w.asked.path = w.path from rfl]
  rcases hb with ⟨hmissing, rfl⟩ | ⟨hnew, x, hx, hs, hfault⟩
  · have hnone : ∀ x ∈ tracks.filter fun x => ∀ v ∈ front, ¬ x.path.Same v.path,
        ¬ x.path.Same w.path := by
      intro x hx hxw
      obtain ⟨hx, hleft⟩ := List.mem_filter.mp hx
      rcases hmissing with hmissing | ⟨v, hv, hvw⟩
      · exact hmissing x hx hxw
      · exact of_decide_eq_true hleft v hv (hxw.trans hvw.symm)
    rw [take?_eq_none hnone]
  · have hleft : x ∈ tracks.filter fun x => ∀ v ∈ front, ¬ x.path.Same v.path := by
      refine List.mem_filter.mpr ⟨hx, decide_eq_true fun v hv hxv => ?_⟩
      exact hnew v hv (hxv.symm.trans hs)
    rw [take?_of_apart (hl.filter _) hleft hs]
    simp only [mismatch?_asked (hw w List.mem_cons_self), hfault]

/-- Either all tracks pass, or there is a first one to be blamed. -/
theorem accepted_or_blamed (tracks : List ScannedTrack) (ws : List Wanted) :
    Accepted tracks ws ∨ ∃ front w back e, ws = front ++ w :: back ∧ Accepted tracks front ∧
      Blamed tracks front w e := by
  -- from the end, for what a track is blamed for depends on those before it
  induction ws using List.reverseRecOn with
  | nil => exact Or.inl (accepted_nil tracks)
  | append_singleton ws w ih =>
    rcases ih with h | ⟨front, v, back, e, rfl, h, hb⟩
    · by_cases hmissing : (∀ x ∈ tracks, ¬ x.path.Same w.path) ∨ ∃ v ∈ ws, v.path.Same w.path
      · exact Or.inr ⟨ws, w, [], _, rfl, h, Or.inl ⟨hmissing, rfl⟩⟩
      obtain ⟨hthere, hnew⟩ := not_or.mp hmissing
      by_cases hfault : ∃ x ∈ tracks, x.path.Same w.path ∧ ∃ e, w.fault? x = some e
      · obtain ⟨x, hx, hs, e, he⟩ := hfault
        exact Or.inr ⟨ws, w, [], e, rfl, h,
          Or.inr ⟨fun v hv hs => hnew ⟨v, hv, hs⟩, x, hx, hs, he⟩⟩
      · refine Or.inl ⟨?_, ?_, ?_⟩
        · refine List.pairwise_append.mpr ⟨h.distinct, List.pairwise_singleton _ _, ?_⟩
          intro v hv u hu hs
          obtain rfl := List.mem_singleton.mp hu
          exact hnew ⟨v, hv, hs⟩
        · refine List.forall_mem_append.mpr ⟨h.there, fun v hv => ?_⟩
          obtain rfl := List.mem_singleton.mp hv
          simpa using hthere
        · refine List.forall_mem_append.mpr ⟨h.met, fun v hv x hx hs => ?_⟩
          obtain rfl := List.mem_singleton.mp hv
          rw [← Wanted.fault?_eq_none, Option.eq_none_iff_forall_ne_some]
          exact fun e he => hfault ⟨x, hx, hs, e, he⟩
    · exact Or.inr ⟨front, v, back ++ [w], e, by simp, h, hb⟩

end Check

section Verify

variable {root : Path} {catalog : Catalog} {s s' : Session} {e : LibraryError} {n : Nat}

theorem verify_eq_checkAll (root : Path) (catalog : Catalog) (s : Session) :
    ((verify root catalog).run s).1 =
      (checkAll (scan s.files root) (expected root catalog)).map fun _ =>
        (expected root catalog).length := by
  rw [verify, Run.run_bind, Run.run_ask]
  cases hcheck : checkAll (scan s.files root) (expected root catalog) with
  | error e => simp only [check, hcheck, Except.map]
  | ok extra =>
    simp only [check, hcheck, Except.map]
    rfl

theorem verify_ok_iff (ht : s.files.WellNamed) (hfew : ∀ a ∈ catalog, a.tracks.length < 2 ^ 32) :
    ((verify root catalog).run s).1 = .ok n ↔
      Accepted (scan s.files root) (wantedTracks root catalog) ∧
        n = Catalog.totalTracks catalog := by
  have hl := ScannedTrack.scan_apart ht root
  have hfits : ∀ w ∈ wantedTracks root catalog, w.Fits := fun w hw => fits_of_wantedTracks hfew hw
  rw [verify_eq_checkAll, length_expected, expected_eq_asked hfew]
  constructor
  · intro h
    rcases accepted_or_blamed (scan s.files root) (wantedTracks root catalog) with
      hall | ⟨front, w, back, e, hsplit, hfront, hb⟩
    · obtain ⟨extra, hok⟩ := checkAll_accepted hl hfits hall
      rw [hok] at h
      exact ⟨hall, (Except.ok.inj h).symm⟩
    · rw [hsplit, checkAll_blamed hl (hsplit ▸ hfits) hfront hb] at h
      cases h
  · rintro ⟨hall, rfl⟩
    obtain ⟨extra, hok⟩ := checkAll_accepted hl hfits hall
    rw [hok]
    rfl

theorem verify_error_iff (ht : s.files.WellNamed)
    (hfew : ∀ a ∈ catalog, a.tracks.length < 2 ^ 32) :
    ((verify root catalog).run s).1 = .error e ↔ ∃ front w back,
      wantedTracks root catalog = front ++ w :: back ∧ Accepted (scan s.files root) front ∧
        Blamed (scan s.files root) front w e := by
  have hl := ScannedTrack.scan_apart ht root
  have hfits : ∀ w ∈ wantedTracks root catalog, w.Fits := fun w hw => fits_of_wantedTracks hfew hw
  rw [verify_eq_checkAll, expected_eq_asked hfew]
  constructor
  · intro h
    rcases accepted_or_blamed (scan s.files root) (wantedTracks root catalog) with
      hall | ⟨front, w, back, e', hsplit, hfront, hb⟩
    · obtain ⟨extra, hok⟩ := checkAll_accepted hl hfits hall
      rw [hok] at h
      cases h
    · rw [hsplit, checkAll_blamed hl (hsplit ▸ hfits) hfront hb] at h
      cases h
      exact ⟨front, w, back, hsplit, hfront, hb⟩
  · rintro ⟨front, w, back, hsplit, hfront, hb⟩
    rw [hsplit, checkAll_blamed hl (hsplit ▸ hfits) hfront hb]
    rfl

/-- A check sees no difference between states that have the same files at the paths of the
tracks. -/
theorem verify_congr (ht : s.files.WellNamed) (ht' : s'.files.WellNamed)
    (hfew : ∀ a ∈ catalog, a.tracks.length < 2 ^ 32)
    (hs : ∀ w ∈ wantedTracks root catalog, ∀ x, x.path.Same w.path →
      (x ∈ scan s.files root ↔ x ∈ scan s'.files root)) :
    ((verify root catalog).run s').1 = ((verify root catalog).run s).1 := by
  cases hres : ((verify root catalog).run s).1 with
  | ok n =>
    obtain ⟨hall, hn⟩ := (verify_ok_iff ht hfew).mp hres
    exact (verify_ok_iff ht' hfew).mpr ⟨hall.of_same_files hs, hn⟩
  | error e =>
    obtain ⟨front, w, back, hsplit, hfront, hb⟩ := (verify_error_iff ht hfew).mp hres
    rw [hsplit] at hs
    obtain ⟨hsfront, hsback⟩ := List.forall_mem_append.mp hs
    exact (verify_error_iff ht' hfew).mpr ⟨front, w, back, hsplit, hfront.of_same_files hsfront,
      hb.of_same_files (hsback w List.mem_cons_self)⟩

/-- What a check says of any state of the files. It passes, with the number of tracks in the
catalog, just if all tracks are accepted; or else it reports what the first track is to be blamed
for that is not. What is found at other paths than those of the tracks has no influence. -/
theorem verify_verdict (ht : s.files.WellNamed)
    (hfew : ∀ a ∈ catalog, a.tracks.length < 2 ^ 32) :
    (∀ n, ((verify root catalog).run s).1 = .ok n ↔
      Accepted (scan s.files root) (wantedTracks root catalog) ∧
        n = Catalog.totalTracks catalog) ∧
    (∀ e, ((verify root catalog).run s).1 = .error e ↔ ∃ front w back,
      wantedTracks root catalog = front ++ w :: back ∧ Accepted (scan s.files root) front ∧
        Blamed (scan s.files root) front w e) ∧
    ∀ s' : Session, s'.files.WellNamed →
      (∀ w ∈ wantedTracks root catalog, ∀ x, x.path.Same w.path →
        (x ∈ scan s.files root ↔ x ∈ scan s'.files root)) →
      ((verify root catalog).run s').1 = ((verify root catalog).run s).1 :=
  ⟨fun _ => verify_ok_iff ht hfew, fun _ => verify_error_iff ht hfew,
    fun _ ht' hs => verify_congr ht ht' hfew hs⟩

end Verify

/-- A library with one file, which carries no tags. -/
def untagged : FileTree :=
  { nodes := #[.directory 0 [(Utf8.encode "M", 1)], .directory 0 [(Utf8.encode "A", 2)],
      .directory 1 [(Utf8.encode "B", 3)], .directory 2 [(Utf8.encode "01 T.mp3", 4)],
      .file AudioFile.silence 0o644 ⟨0, 0⟩]
    root := 0, current := 0 }

/-- The only track that is wanted there. -/
def onlyWanted : Wanted :=
  { path := Path.ofString "M/A/B/01 T.mp3", number := 1, total := 1, title := "T", artist := "A"
    album := "B", year := "1998", genre := "Pop" }

theorem verify_verdict_untagged :
    (untagged.WellNamed ∧ ∀ a ∈ Generation.oneTrack, a.tracks.length < 2 ^ 32) ∧
    ((verify (Path.ofString "M") Generation.oneTrack).run ⟨untagged, [], []⟩).1 =
      .error (.mismatch (Path.ofString "M/A/B/01 T.mp3") "track" "1/1" none) := by
  have ht : untagged.WellNamed := FileTree.wellNamed_of_nodes (by decide)
  have hfew : ∀ a ∈ Generation.oneTrack, a.tracks.length < 2 ^ 32 := by decide
  have hwanted : wantedTracks (Path.ofString "M") Generation.oneTrack = [onlyWanted] := by
    decide
  have hfound : ScannedTrack.ofPath untagged onlyWanted.path ∈
      scan untagged (Path.ofString "M") := by
    rw [ScannedTrack.mem_scan, ScannedTrack.path_ofPath]
    exact ⟨by decide, rfl⟩
  set_option maxRecDepth 20000 in
  refine ⟨⟨ht, hfew⟩, ((verify_verdict (s := ⟨untagged, [], []⟩) ht hfew).2.1 _).mpr
    ⟨[], onlyWanted, [], hwanted, accepted_nil _, Or.inr ⟨fun v hv => absurd hv List.not_mem_nil,
      _, hfound, by decide, by decide⟩⟩⟩

end Verification

end TaggedLibrary
