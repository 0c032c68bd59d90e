import TaggedLibrary.Proofs.FreshLibrary
import TaggedLibrary.Proofs.ThereAlready
import TaggedLibrary.Proofs.VerifiedLibrary
/-!
A library that is written again. What a run leaves at the paths of its tracks is decided by the
template and the catalog, whatever was there before; so another run goes through and leaves every
file and every directory as they were.
-/

namespace TaggedLibrary

open FileTree (Below Changes DirectoryAt Extends FileAt IsEntry IsLink Plain SameButTimes refuse?)
open Verification (Expected InLibrary expected expectedOfAlbum expectedTrack)

namespace Run

variable {α β : Type} {P : FileTree → Prop}

/-- An operation that goes through from every tree with a property, and leaves a tree with this
property in which nothing is new. -/
def Goes (P : FileTree → Prop) (op : Run α) : Prop :=
  ∀ s, P s.files → ∃ a s', op.run s = (.ok a, s') ∧ P s'.files ∧ Extends s'.files s.files

theorem goes_pure (a : α) : (pure a : Run α).Goes P :=
  fun s hs => ⟨a, s, rfl, hs, Extends.refl _⟩

theorem goes_report (e : Event) : (report e).Goes P :=
  fun s hs => ⟨(), { s with events := s.events ++ [e] }, rfl, hs, Extends.refl _⟩

theorem Goes.bind {op : Run α} {f : α → Run β} (h : op.Goes P)
    (hf : ∀ a s s', op.run s = (.ok a, s') → (f a).Goes P) : (op >>= f).Goes P := by
  intro s hs
  obtain ⟨a, mid, hone, hmid, hback⟩ := h s hs
  obtain ⟨b, s', hmore, hs', hback'⟩ := hf a s mid hone mid hmid
  refine ⟨b, s', ?_, hs', hback'.trans hback⟩
  rw [run_bind, hone]
  exact hmore

end Run

namespace TrackFile

/-- The template is copied over a file that is there. -/
theorem copy_there {source p : Path} {n : Bytes} {s : Session} (hsource : FileAt s.files source)
    (hp : p.bytes ≠ []) (hn : Path.IsNormal n) (hdest : FileAt s.files (p.join ⟨n⟩))
    (hl : ∀ {k child}, s.files.resolve p = .ok k → IsEntry s.files k n child →
      ¬ IsLink (s.files.node? child)) :
    ∃ count s', (copy source (p.join ⟨n⟩)).run s = (.ok count, s') ∧
      Extends s.files s'.files ∧ Extends s'.files s.files := by
  obtain ⟨count, u, hcopy, hext, hback⟩ := FileTree.copy_there hsource hp hn hdest hl
  obtain ⟨target, instant, _, _, hrun⟩ := run_copy_of_copied hcopy
  have hput := FileTree.putModified_rewritten target instant u
  exact ⟨count, _, hrun, hext.trans hput.extends, hput.back.trans hback⟩

theorem makeAlbumDirectory_goes {P : FileTree → Prop} {root : Path} {artist album : String}
    (h : ∀ t, P t → DirectoryAt t (albumDirectory root artist album)) :
    (makeAlbumDirectory root artist album).Goes P := by
  intro s hs
  refine ⟨albumDirectory root artist album, s, ?_, hs, Extends.refl _⟩
  apply Run.run_during_of_ok
  rw [Run.run_bind, Run.run_onFiles_of_ok (FileTree.makeDirectories_there (h _ hs))]
  rfl

end TrackFile

namespace Generation

/-- A library that has been written: all that another run would make is there. -/
structure Standing (paths : LibraryPaths) (catalog : Catalog) (origin d : Nat) (file : Bytes)
    (t : FileTree) : Prop where
  ready : Ready paths origin d file t
  directories : ∀ a ∈ catalog,
    DirectoryAt t (TrackFile.albumDirectory paths.destination a.artist a.title)
  tracks : ∀ e ∈ expected paths.destination catalog, FileAt t e.path
  tagged : ∀ e ∈ expected paths.destination catalog,
    ∃ out, TagWriter.replaceTags e.tags file = .ok out

section Again

variable {paths : LibraryPaths} {catalog : Catalog} {origin d : Nat} {file : Bytes}
  {t t' : FileTree} {dirs files : Path → Prop} {s s' : Session}

theorem Standing.changes (h : Standing paths catalog origin d file t)
    (hne : paths.destination.bytes ≠ []) (hf : ∀ p, files p → InLibrary paths.destination p)
    (hc : Changes dirs files t t') : Standing paths catalog origin d file t' :=
  ⟨h.ready.changes hne hf hc, fun a ha => (h.directories a ha).extends hc.extends,
    fun e he => (h.tracks e he).extends hc.extends, h.tagged⟩

theorem Standing.same (h : Standing paths catalog origin d file t) (hs : SameButTimes t t') :
    Standing paths catalog origin d file t' where
  ready := by
    obtain ⟨mode, modified, hi⟩ := h.ready.template
    obtain ⟨parent, entries, hd⟩ := h.ready.directory
    obtain ⟨modified', hi'⟩ := hs.file hi
    exact ⟨hs.extends.resolve h.ready.source, ⟨mode, modified', hi'⟩,
      hs.extends.resolve h.ready.destination, ⟨parent, entries, hs.node? hd (by simp)⟩,
      hs.plain h.ready.plain, fun hb => h.ready.apart (hs.symm.below hb)⟩
  directories := fun a ha => (h.directories a ha).extends hs.extends
  tracks := fun e he => (h.tracks e he).extends hs.extends
  tagged := h.tagged

/-- A track that is there is copied once more. -/
theorem Standing.copy (h : Standing paths catalog origin d file s.files)
    (hne : paths.destination.bytes ≠ []) {e : Expected}
    (he : e ∈ expected paths.destination catalog) (hlib : InLibrary paths.destination e.path) :
    ∃ n s', (TrackFile.copy paths.source e.path).run s = (.ok n, s') ∧
      Extends s.files s'.files ∧ Extends s'.files s.files := by
  obtain ⟨mode, modified, hi⟩ := h.ready.template
  obtain ⟨j, _, _, _, hj, _⟩ := id (h.tracks e he)
  have hthere := h.tracks e he
  obtain ⟨a, b, c, ha, hb, hc, hp⟩ := hlib
  rw [hp] at hj hthere ⊢
  obtain ⟨k, l, _, hl, hka, hlb, _⟩ :=
    h.ready.plain.resolve_three hne ha hb hc h.ready.destination hj
  refine TrackFile.copy_there ⟨origin, file, mode, modified, h.ready.source, hi⟩
    (Path.bytes_join_ne_nil (Path.bytes_join_ne_nil hne ha) hb) hc hthere fun hk he => ?_
  rw [hl] at hk
  cases hk
  exact h.ready.plain.noLink (.entry (.entry (.entry .top hka) hlb) he)

/-- A track that is there is written once more. -/
theorem writeTrack_goes {directory : Path} {album : Album} {track : UInt32 × String}
    (hne : paths.destination.bytes ≠ [])
    (he : expectedTrack directory album track ∈ expected paths.destination catalog)
    (hn : ∀ a ∈ catalog, a.Named) :
    (writeTrack paths.source directory TagWriter.id3v2 album track).Goes
      (Standing paths catalog origin d file) := by
  obtain ⟨hlib, haudio⟩ := Verification.inLibrary_of_expected hne hn he
  have hone : ∀ p, p = (expectedTrack directory album track).path →
      InLibrary paths.destination p := fun p hp => hp ▸ hlib
  intro s hs
  obtain ⟨n, v, hcopy, hext, hback⟩ := hs.copy hne he hlib
  obtain ⟨mode, modified, hi⟩ := hs.ready.template
  have hcopied := (TrackFile.copy_within (fun _ => True) _ _).changes hcopy
  have hv := hs.ready.changes hne hone hcopied
  obtain ⟨target, hto, hbytes⟩ := TrackFile.copy_ok hcopy hs.ready.source hi
  have haway : target ≠ origin := by
    rintro rfl
    exact hv.apart (hv.below hne hlib hto)
  obtain ⟨j, _, _, _, hj, hfile⟩ := (hs.tracks _ he).extends hext
  rw [hto] at hj
  cases hj
  have hopen : TagWriter.Open (expectedTrack directory album track).path target mode file
      v.files := by
    rcases hbytes haway with hnode | hdevice
    · exact ⟨hto, hnode⟩
    · rw [hfile] at hdevice
      cases hdevice
  obtain ⟨out, hout⟩ := hs.tagged _ he
  rcases TagWriter.run_id3v2 haudio hopen (expectedTrack directory album track).tags with
    ⟨e, _, _, herror⟩ | ⟨made, hrun, _⟩
  · rw [hout] at herror
    cases herror
  have hput := FileTree.putBytes_rewritten target made v.files
  let w : Session := { v with
    files := FileTree.putBytes target made v.files
    events := v.events ++ [.tagged (expectedTrack directory album track).path] }
  have hwrite : (writeTrack paths.source directory TagWriter.id3v2 album track).run s =
      (.ok (), w) := by
    rw [writeTrack, Run.run_bind, ← Verification.path_expectedTrack, hcopy]
    simp only [Run.run_bind]
    rw [← Verification.tags_expectedTrack directory album track, hrun]
    rfl
  have hchanges := (writeTrack_within (TagWriter.id3v2_within fun _ => True) _ _ _ _).changes hwrite
  exact ⟨(), w, hwrite, hs.changes hne hone hchanges, hput.back.trans hback⟩

theorem writeTracks_goes {directory : Path} {album : Album} {tracks : List (UInt32 × String)}
    (hne : paths.destination.bytes ≠ []) (hn : ∀ a ∈ catalog, a.Named)
    (he : ∀ track ∈ tracks,
      expectedTrack directory album track ∈ expected paths.destination catalog) :
    (writeTracks paths.source directory TagWriter.id3v2 album tracks).Goes
      (Standing paths catalog origin d file) := by
  induction tracks with
  | nil => exact Run.goes_pure _
  | cons track rest ih =>
    obtain ⟨hone, hrest⟩ := List.forall_mem_cons.mp he
    exact (writeTrack_goes hne hone hn).bind fun _ _ _ _ =>
      (ih hrest).bind fun _ _ _ _ => Run.goes_pure _

/-- Albums that are there are written once more. -/
theorem writeAlbums_goes {albums : Catalog} (hne : paths.destination.bytes ≠ [])
    (hn : ∀ a ∈ catalog, a.Named) (ha : ∀ a ∈ albums, a ∈ catalog) :
    (writeAlbums paths TagWriter.id3v2 albums).Goes (Standing paths catalog origin d file) := by
  induction albums with
  | nil => exact Run.goes_pure _
  | cons album rest ih =>
    obtain ⟨halbum, hrest⟩ := List.forall_mem_cons.mp ha
    have hmade : (TrackFile.makeAlbumDirectory paths.destination album.artist album.title).Goes
        (Standing paths catalog origin d file) :=
      TrackFile.makeAlbumDirectory_goes fun _ hs => hs.directories album halbum
    have hone : (writeAlbum paths TagWriter.id3v2 album).Goes
        (Standing paths catalog origin d file) := by
      apply hmade.bind
      intro directory u v hrun
      obtain rfl := TrackFile.makeAlbumDirectory_ok hrun
      exact (Run.goes_report _).bind fun _ _ _ _ =>
        writeTracks_goes hne hn fun track ht => mem_expected halbum ht
    exact hone.bind fun _ _ _ _ => (ih hrest).bind fun _ _ _ _ => Run.goes_pure _

/-- Albums that are written to a library leave the template as it was and put a file at the path of
each track; what it holds is decided by the latest track there. -/
theorem tracks_of_writeAlbums {n mode : Nat} {modified : Instant}
    (hr : Ready paths origin d file s.files) (hne : paths.destination.bytes ≠ [])
    (hn : ∀ a ∈ catalog, a.Named)
    (hi : s.files.node? origin = some (.file file mode modified))
    (h : (writeAlbums paths TagWriter.id3v2 catalog).run s = (.ok n, s')) :
    Ready paths origin d file s'.files ∧
      s'.files.node? origin = some (.file file mode modified) ∧
      (∀ e ∈ expected paths.destination catalog, FileAt s'.files e.path ∧
        ∃ out, TagWriter.replaceTags e.tags file = .ok out) ∧
      ∀ e, Latest e (expected paths.destination catalog) → ∃ out,
        TagWriter.replaceTags e.tags file = .ok out ∧
          s'.files.readRegular e.path = .ok (out, mode) := by
  have hin := fun e he => Verification.inLibrary_of_expected (e := e) hne hn he
  have hturn := (writeAlbums_written h).2.tagged hr hne hi hin
  obtain ⟨hend, hlatest⟩ := hturn.ready hr hne fun e he => (hin e he).1
  have hstays : s'.files.node? origin = some (.file file mode modified) := by
    refine hr.template_stays hne ?_ hturn.changes hi
    rintro p ⟨e, he, rfl⟩
    exact (hin e he).1
  refine ⟨hend, hstays, fun e he => ⟨?_, hturn.exists_holds he⟩, fun e he => ?_⟩
  · obtain ⟨x, hx, hpath⟩ := exists_latest he
    obtain ⟨i, out, written, hi, hnode, _⟩ := hlatest x hx
    exact ⟨i, out, mode, written, hpath ▸ hi, hnode⟩
  · obtain ⟨i, out, written, hi, hnode, hout⟩ := hlatest e he
    exact ⟨out, hout, FileTree.readRegular_of_file hi hnode⟩

end Again

/-- A place for a library: a site that is away from the template. -/
structure Clear (paths : LibraryPaths) (t : FileTree) : Prop where
  site : Site paths.destination t
  apart : ∀ d i, t.resolve paths.destination = .ok d → t.resolve paths.source = .ok i →
    ¬ Below t d i

section Regenerate

variable {paths : LibraryPaths} {catalog : Catalog} {s s' : Session} {summary : Summary}

theorem Clear.prepared {t : FileTree} {origin mode : Nat} {file : Bytes} {modified : Instant}
    (h : Clear paths t) (ho : t.resolve paths.source = .ok origin)
    (hi : t.node? origin = some (.file file mode modified)) : Prepared paths origin file t :=
  ⟨h.site.root, ho, ⟨mode, modified, hi⟩, h.site.nonempty, h.site.down,
    fun d hd => ⟨h.site.plain d hd, h.apart d origin hd ho⟩⟩

/-- After a run that has written an album, everything that another run would make is there. -/
theorem standing_of_run {origin mode : Nat} {file : Bytes} {modified : Instant}
    (hn : ∀ a ∈ catalog, a.Named) (hc : Clear paths s.files) (hsome : catalog ≠ [])
    (ho : s.files.resolve paths.source = .ok origin)
    (hi : s.files.node? origin = some (.file file mode modified))
    (h : (generate paths catalog TagWriter.id3v2).run s = (.ok summary, s')) :
    ∃ d, Standing paths catalog origin d file s'.files ∧
      s'.files.node? origin = some (.file file mode modified) ∧
      ∀ e, Latest e (expected paths.destination catalog) → ∃ out,
        TagWriter.replaceTags e.tags file = .ok out ∧
          s'.files.readRegular e.path = .ok (out, mode) := by
  obtain ⟨_, t, events, tracks, hmade, hrun, _⟩ := generate_ok h
  have hr := refuse?_of_writeAlbums hc.site.nonempty hc.site.down hn (TagWriter.id3v2_within _)
    hsome hrun
  obtain ⟨d, hready⟩ := (hc.prepared ho hi).ready hr hmade
  have hit := (FileTree.changes_of_makeDirectories hmade _).file_stays hi
  obtain ⟨hend, hstays, htracks, hlatest⟩ :=
    tracks_of_writeAlbums hready hc.site.nonempty hn hit hrun
  exact ⟨d, ⟨hend, writeAlbums_made hc.site.nonempty hc.site.down hn (TagWriter.id3v2_within _) hrun,
    fun e he => (htracks e he).1, fun e he => (htracks e he).2⟩, hstays, hlatest⟩

theorem generate_of_ok {t : FileTree} {tracks : Nat} (hfile : s.files.isFile paths.source = true)
    (hmade : (FileTree.makeDirectories paths.destination).run s.files = (.ok (), t))
    (hrun : (writeAlbums paths TagWriter.id3v2 catalog).run { s with
      files := t
      events := s.events ++ [.started catalog.length (Catalog.totalTracks catalog) paths.source] } =
        (.ok tracks, s')) :
    (generate paths catalog TagWriter.id3v2).run s =
      (.ok ⟨tracks, catalog.length, paths.destination⟩, s') := by
  rw [generate, Run.run_bind, Run.run_ask, if_pos hfile]
  simp only [Run.run_bind, Run.run_onFiles_of_ok hmade, Run.run_report, hrun, Run.run_pure]

/-- A library that has been written is written once more and stays as it is: where a track is
written, the latest one there, it gets what it has. -/
theorem writeAlbums_again {d origin mode tracks : Nat} {file : Bytes} {modified : Instant}
    {u : Session} (hne : paths.destination.bytes ≠ []) (hn : ∀ a ∈ catalog, a.Named)
    (hs : Standing paths catalog origin d file u.files)
    (hi : u.files.node? origin = some (.file file mode modified))
    (hlatest : ∀ e, Latest e (expected paths.destination catalog) → ∃ out j written,
      TagWriter.replaceTags e.tags file = .ok out ∧ u.files.resolve e.path = .ok j ∧
        u.files.node? j = some (.file out mode written))
    (htracks : tracks = Catalog.totalTracks catalog) :
    ∃ again, (writeAlbums paths TagWriter.id3v2 catalog).run u = (.ok tracks, again) ∧
      SameButTimes u.files again.files := by
  obtain ⟨n, again, hrun, _, hback⟩ := writeAlbums_goes hne hn (fun _ ha => ha) u hs
  obtain ⟨hcount, _⟩ := writeAlbums_written hrun
  obtain rfl : tracks = n := htracks.trans hcount.symm
  obtain ⟨_, _, _, hlatest'⟩ := tracks_of_writeAlbums hs.ready hne hn hi hrun
  have hc : Changes (fun _ => True) (WrittenFile paths.destination catalog) u.files again.files :=
    (writeAlbums_within (TagWriter.id3v2_within _) paths catalog (fun _ _ => trivial)
      fun _ h => h).changes hrun
  refine ⟨again, hrun, FileTree.sameButTimes_of_extends hc.extends hback ?_⟩
  intro i bytes mode' written hold
  -- a file that the run has written is that of a track, and the latest track there decides
  rcases hc.file_kept hold with hkept | ⟨p, ⟨e, he, rfl⟩, hto⟩
  · exact ⟨written, hkept⟩
  obtain ⟨x, hx, hpath⟩ := exists_latest he
  obtain ⟨out, j, before, hout, hj, hnode⟩ := hlatest x hx
  obtain ⟨out', hout', hread⟩ := hlatest' x hx
  have hj' := hc.extends.resolve hj
  rw [hpath, hto] at hj'
  cases hj'
  rw [hold] at hnode
  cases hnode
  rw [hout] at hout'
  cases hout'
  obtain ⟨j, after, hj, hnode⟩ := FileTree.readRegular_eq_ok hread
  rw [hpath, hto] at hj
  cases hj
  exact ⟨after, hnode⟩

/-- After a run that succeeds, another one does too, with the same summary, and nothing but times
is different afterwards. -/
theorem generate_again {u : Session} (hn : ∀ a ∈ catalog, a.Named) (hc : Clear paths s.files)
    (h : (generate paths catalog TagWriter.id3v2).run s = (.ok summary, s'))
    (hu : SameButTimes s'.files u.files) :
    ∃ again, (generate paths catalog TagWriter.id3v2).run u = (.ok summary, again) ∧
      SameButTimes u.files again.files := by
  obtain ⟨hfile, t, events, tracks, hmade, hrun, rfl⟩ := generate_ok h
  obtain ⟨origin, file, mode, modified, ho, hi⟩ := FileTree.isFile_eq_true hfile
  have hwritten : Changes (fun _ => True) (fun _ => True) t s'.files :=
    (writeAlbums_within (TagWriter.id3v2_within _) paths catalog (fun _ _ => trivial)
      fun _ _ => trivial).changes hrun
  have hrest : Extends t u.files := hwritten.extends.trans hu.extends
  have hmade' := FileTree.makeDirectories_again hc.site.down hmade hrest
  have hfile' : u.files.isFile paths.source = true := by
    have hall := (FileTree.changes_of_makeDirectories hmade fun _ => True).extends.trans hrest
    exact FileTree.isFile_of_fileAt ((FileTree.isFile_eq_true hfile).extends hall)
  let v : Session := { u with
    events := u.events ++ [.started catalog.length (Catalog.totalTracks catalog) paths.source] }
  have halbums : ∃ again, (writeAlbums paths TagWriter.id3v2 catalog).run v =
      (.ok tracks, again) ∧ SameButTimes u.files again.files := by
    -- without an album the path of the library need not be one that leads anywhere
    by_cases hsome : catalog = []
    · subst hsome
      cases hrun
      exact ⟨v, rfl, FileTree.SameButTimes.refl _⟩
    obtain ⟨d, hs, hstays, hlatest⟩ := standing_of_run hn hc hsome ho hi h
    obtain ⟨written, hstays'⟩ := hu.file hstays
    refine writeAlbums_again hc.site.nonempty hn (hs.same hu) hstays' (fun e he => ?_)
      (writeAlbums_written hrun).1
    obtain ⟨out, hout, hread⟩ := hlatest e he
    obtain ⟨j, before, hj, hnode⟩ := FileTree.readRegular_eq_ok hread
    obtain ⟨after, hnode'⟩ := hu.file hnode
    exact ⟨out, j, after, hout, hu.extends.resolve hj, hnode'⟩
  obtain ⟨again, hrun', hsame⟩ := halbums
  exact ⟨again, generate_of_ok hfile' hmade' hrun', hsame⟩

/-- What is at the path of a track after a run depends on the template and the catalog only. -/
theorem readRegular_of_run {e : Expected} {file : Bytes} {mode : Nat}
    (hn : ∀ a ∈ catalog, a.Named) (hc : Clear paths s.files)
    (hread : s.files.readRegular paths.source = .ok (file, mode))
    (h : (generate paths catalog TagWriter.id3v2).run s = (.ok summary, s'))
    (he : Latest e (expected paths.destination catalog)) :
    ∃ out, TagWriter.replaceTags e.tags file = .ok out ∧
      s'.files.readRegular e.path = .ok (out, mode) := by
  obtain ⟨origin, modified, ho, hi⟩ := FileTree.readRegular_eq_ok hread
  have hsome : catalog ≠ [] := by
    rintro rfl
    exact he
  obtain ⟨_, _, _, hlatest⟩ := standing_of_run hn hc hsome ho hi h
  exact hlatest e he

/-- Where two runs with one template succeed, the paths of the tracks hold the same afterwards,
whatever was at the destination; and after a run that has succeeded, another one, at whatever time,
succeeds as well and leaves everything as it was. -/
theorem regeneration {s₁ s₁' s₂ s₂' : Session} {summary₁ summary₂ : Summary}
    (hn : ∀ a ∈ catalog, a.Named) (hc₁ : Clear paths s₁.files) (hc₂ : Clear paths s₂.files)
    (hsame : s₁.files.readRegular paths.source = s₂.files.readRegular paths.source)
    (h₁ : (generate paths catalog TagWriter.id3v2).run s₁ = (.ok summary₁, s₁'))
    (h₂ : (generate paths catalog TagWriter.id3v2).run s₂ = (.ok summary₂, s₂')) :
    (∀ e ∈ expected paths.destination catalog, ∃ bytes mode,
      s₁'.files.readRegular e.path = .ok (bytes, mode) ∧
        s₂'.files.readRegular e.path = .ok (bytes, mode)) ∧
    ∀ u, SameButTimes s₁'.files u.files → ∃ again,
      (generate paths catalog TagWriter.id3v2).run u = (.ok summary₁, again) ∧
        SameButTimes u.files again.files := by
  refine ⟨fun e he => ?_, fun u hu => generate_again hn hc₁ h₁ hu⟩
  obtain ⟨hfile, _⟩ := generate_ok h₁
  obtain ⟨_, file, mode, _, ho, hi⟩ := FileTree.isFile_eq_true hfile
  have hread := FileTree.readRegular_of_file ho hi
  obtain ⟨x, hx, hpath⟩ := exists_latest he
  obtain ⟨out, hout, hread₁⟩ := readRegular_of_run hn hc₁ hread h₁ hx
  obtain ⟨out', hout', hread₂⟩ := readRegular_of_run hn hc₂ (hsame ▸ hread) h₂ hx
  rw [hout] at hout'
  cases hout'
  rw [hpath] at hread₁ hread₂
  exact ⟨out, mode, hread₁, hread₂⟩

/-- A template at `t.mp3`, and at `M` a track that is longer than it should be and a file that
belongs to no album. -/
def cluttered : FileTree :=
  { nodes := #[.directory 0 [(Utf8.encode "t.mp3", 1), (Utf8.encode "M", 2)],
      .file AudioFile.silence 0o644 ⟨0, 0⟩,
      .directory 0 [(Utf8.encode "A", 3), (Utf8.encode "notes.txt", 6)],
      .directory 2 [(Utf8.encode "B", 4)], .directory 3 [(Utf8.encode "01 T.mp3", 5)],
      .file (Utf8.encode "TAG" ++ List.replicate 4000 0xFF) 0o600 ⟨7, 0⟩,
      .file [1, 2, 3] 0o600 ⟨8, 0⟩]
    root := 0, current := 0 }

theorem clear_oneTemplate : Clear intoM oneTemplate := by
  have hsite : Site intoM.destination oneTemplate :=
    ⟨⟨0, _, by rfl⟩, by decide, by decide,
      fun d _ => FileTree.plain_of_ownNodes (by decide) d⟩
  refine ⟨hsite, fun d i hd _ _ => ?_⟩
  have hmissing : (oneTemplate.resolve intoM.destination).toOption = none := by decide
  rw [hd] at hmissing
  cases hmissing

theorem clear_cluttered : Clear intoM cluttered := by
  have hown : FileTree.OwnNodes cluttered := by decide
  have hsite : Site intoM.destination cluttered :=
    ⟨⟨0, _, by rfl⟩, by decide, by decide,
      fun d _ => FileTree.plain_of_ownNodes hown d⟩
  refine ⟨hsite, fun d i hd hi hb => ?_⟩
  have hdestination : cluttered.resolve intoM.destination = .ok 2 := by rfl
  have hsource : cluttered.resolve intoM.source = .ok 1 := by rfl
  rw [hdestination] at hd
  rw [hsource] at hi
  cases hd
  cases hi
  exact absurd (hown.le_of_below hb) (by decide)

def writtenOver (t : FileTree) : Session :=
  ((generate intoM twoAlbums TagWriter.id3v2).run ⟨t, [], []⟩).2

/-- Nothing of the clutter is left in the tracks, and another run goes through. -/
theorem regeneration_cluttered :
    (∀ e ∈ expected intoM.destination twoAlbums, ∃ bytes mode,
      (writtenOver cluttered).files.readRegular e.path = .ok (bytes, mode) ∧
        (writtenOver oneTemplate).files.readRegular e.path = .ok (bytes, mode)) ∧
    ∃ again, (generate intoM twoAlbums TagWriter.id3v2).run (writtenOver cluttered) =
        (.ok ⟨3, 2, intoM.destination⟩, again) ∧
      SameButTimes (writtenOver cluttered).files again.files := by
  have hok : ∀ t ∈ [cluttered, oneTemplate],
      ((generate intoM twoAlbums TagWriter.id3v2).run ⟨t, [], []⟩).1.toOption =
        some ⟨3, 2, intoM.destination⟩ := by decide +kernel
  have hrun : ∀ t ∈ [cluttered, oneTemplate],
      (generate intoM twoAlbums TagWriter.id3v2).run ⟨t, [], []⟩ =
        (.ok ⟨3, 2, intoM.destination⟩, writtenOver t) :=
    fun t ht => Run.run_of_toOption (hok t ht)
  have hsource : cluttered.readRegular intoM.source = oneTemplate.readRegular intoM.source := by rfl
  obtain ⟨htracks, hagain⟩ := regeneration named_twoAlbums clear_cluttered clear_oneTemplate hsource
    (hrun cluttered (by simp)) (hrun oneTemplate (by simp))
  exact ⟨htracks, hagain _ (FileTree.SameButTimes.refl _)⟩

end Regenerate

end Generation

end TaggedLibrary
