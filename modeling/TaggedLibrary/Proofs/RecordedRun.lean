import TaggedLibrary.Proofs.ExactLibrary
/-!
Runs of a writer that only records what it is asked. They go through a catalog in order, as a run
does that writes no tags at all; where a call is refused, they end, and what is there is what the
tracks up to that one have made.
-/

namespace TaggedLibrary

open FileTree (Changes DirectoryAt Plain refuse?)
open Verification (Expected InLibrary expected expectedOfAlbum expectedTrack)

namespace Run

variable {α β ε : Type}

/-- An operation that works on the files alone: what it does well in one session, it does in all
with these files, and nothing else is different afterwards. -/
def FilesOnly (op : Run α) : Prop :=
  ∀ s v a v', v.files = s.files → op.run v = (.ok a, v') →
    op.run s = (.ok a, { s with files := v'.files })

theorem filesOnly_pure (a : α) : (pure a : Run α).FilesOnly := by
  intro s v b v' hfiles h
  cases h
  rw [run_pure, hfiles]

theorem filesOnly_onFiles (wrap : ε → LibraryError) (op : Disk ε α) :
    (onFiles wrap op).FilesOnly := by
  intro s v a v' hfiles h
  obtain ⟨hop, _⟩ := run_onFiles_ok h
  rw [hfiles] at hop
  exact run_onFiles_of_ok hop

theorem FilesOnly.bind {op : Run α} {f : α → Run β} (h : op.FilesOnly)
    (hf : ∀ a, (f a).FilesOnly) : (op >>= f).FilesOnly := by
  intro s v b v' hfiles hrun
  obtain ⟨a, u, hone, hmore⟩ := run_bind_ok hrun
  rw [run_bind, h s v a u hfiles hone]
  exact hf a { s with files := u.files } u b v' rfl hmore

theorem FilesOnly.during {op : Run α} (h : op.FilesOnly) (a : Activity) :
    (during a op).FilesOnly := by
  intro s v r v' hfiles hrun
  exact run_during_of_ok (h s v r v' hfiles (run_during_ok hrun))

end Run

namespace TrackFile

theorem copy_filesOnly (source dest : Path) : (copy source dest).FilesOnly :=
  Run.FilesOnly.during ((Run.filesOnly_onFiles _ _).bind fun _ =>
    (Run.filesOnly_onFiles _ _).bind fun _ => (Run.filesOnly_onFiles _ _).bind fun _ =>
      Run.filesOnly_pure _) _

theorem makeAlbumDirectory_filesOnly (root : Path) (artist album : String) :
    (makeAlbumDirectory root artist album).FilesOnly :=
  Run.FilesOnly.during ((Run.filesOnly_onFiles _ _).bind fun _ => Run.filesOnly_pure _) _

end TrackFile

namespace TagWriter

/-- Writes no tags. -/
def idle : TagWriter := fun _ _ => pure ()

theorem idle_within (dirs : Path → Prop) (p : Path) (tags : TrackTags) :
    (idle p tags).Within dirs (· = p) := Run.within_pure ()

/-- A writer that records what it is asked and leaves the files alone. The call with the given
number, counted from zero, fails. -/
def Records (write : TagWriter) (refused : Option Nat) (fault : Path → TrackTags → LibraryError) :
    Prop :=
  ∀ p tags s, ∃ events, (write p tags).run s =
    if refused = some s.calls.length then
      (.error (fault p tags), { s with events, calls := s.calls ++ [⟨p, tags, true⟩] })
    else (.ok (), { s with events, calls := s.calls ++ [⟨p, tags, false⟩] })

theorem records_recording (refused : Option Nat) :
    (recording refused).Records refused fun p _ => .unsupportedFormat p :=
  fun _ _ s => ⟨s.events, rfl⟩

end TagWriter

/-- The albums up to that of the track with `k` others before it; all of them, if there are not so
many tracks. -/
def Catalog.upTo : Nat → Catalog → Catalog
  | _, [] => []
  | k, album :: rest =>
    if k < album.tracks.length then [album] else album :: upTo (k - album.tracks.length) rest

theorem Catalog.mem_of_mem_upTo {k : Nat} {c : Catalog} {a : Album} (h : a ∈ upTo k c) : a ∈ c := by
  induction c generalizing k with
  | nil => exact h
  | cons album rest ih =>
    unfold upTo at h
    split at h
    · exact List.mem_singleton.mp h ▸ List.mem_cons_self
    · rcases List.mem_cons.mp h with rfl | h
      · exact List.mem_cons_self
      · exact List.mem_cons_of_mem _ (ih h)

/-- The track that a writer was asked to write. -/
def WriteCall.track (c : WriteCall) : Expected := ⟨c.path, c.tags⟩

theorem WriteCall.track_of (e : Expected) (refused : Bool) :
    track ⟨e.path, e.tags, refused⟩ = e := rfl

namespace Generation

section Loops

variable {paths : LibraryPaths} {template directory : Path} {album : Album} {write : TagWriter}
  {refused : Option Nat} {fault : Path → TrackTags → LibraryError} {s s' v v' : Session} {j n : Nat}
  {e : Expected}

theorem length_calls {es : List Expected}
    (h : s'.calls.map WriteCall.track = s.calls.map WriteCall.track ++ es) :
    s'.calls.length = s.calls.length + es.length := by
  have hlen := congrArg List.length h
  rwa [List.length_append, List.length_map, List.length_map] at hlen

/-- A track that can be copied is asked for, and nothing but the copy is made. -/
theorem writeTrack_recorded {track : UInt32 × String} (hw : write.Records refused fault)
    (hfiles : v.files = s.files)
    (h : (writeTrack template directory TagWriter.idle album track).run v = (.ok (), v')) :
    ∃ s', (writeTrack template directory write album track).run s =
        (if refused = some s.calls.length then .error (fault
          (expectedTrack directory album track).path (expectedTrack directory album track).tags)
        else .ok (), s') ∧ s'.files = v'.files ∧
      s'.calls.map WriteCall.track =
        s.calls.map WriteCall.track ++ [expectedTrack directory album track] := by
  unfold writeTrack at h
  obtain ⟨n, u, hcopy, hafter⟩ := Run.run_bind_ok h
  obtain ⟨_, w, hidle, hreport⟩ := Run.run_bind_ok hafter
  obtain rfl : u = w := (Prod.mk.inj hidle).2
  obtain rfl : { u with events := u.events ++ [_] } = v' := (Prod.mk.inj hreport).2
  have hcopied := TrackFile.copy_filesOnly _ _ s v n u hfiles hcopy
  rw [← Verification.path_expectedTrack] at hcopied
  obtain ⟨events, htag⟩ := hw (expectedTrack directory album track).path
    (expectedTrack directory album track).tags { s with files := u.files }
  dsimp only at htag
  rw [writeTrack, Run.run_bind, ← Verification.path_expectedTrack, hcopied]
  simp only [Run.run_bind]
  rw [← Verification.tags_expectedTrack directory album track, htag]
  by_cases hr : refused = some s.calls.length
  · simp only [if_pos hr]
    exact ⟨_, rfl, rfl, by rw [List.map_append, List.map_singleton, WriteCall.track_of]⟩
  · simp only [if_neg hr, Run.run_report]
    exact ⟨_, rfl, rfl, by rw [List.map_append, List.map_singleton, WriteCall.track_of]⟩

/-- As long as no call is refused, tracks are asked for one after another. -/
theorem writeTracks_recorded {tracks : List (UInt32 × String)} (hw : write.Records refused fault)
    (hfiles : v.files = s.files)
    (h : (writeTracks template directory TagWriter.idle album tracks).run v = (.ok n, v'))
    (hpass : ∀ j < tracks.length, refused ≠ some (s.calls.length + j)) :
    ∃ s', (writeTracks template directory write album tracks).run s = (.ok n, s') ∧
      s'.files = v'.files ∧ s'.calls.map WriteCall.track =
        s.calls.map WriteCall.track ++ tracks.map (expectedTrack directory album) := by
  induction tracks generalizing s v n with
  | nil =>
    cases h
    exact ⟨s, rfl, hfiles.symm, by simp⟩
  | cons track tracks ih =>
    unfold writeTracks at h ⊢
    obtain ⟨_, u, hone, hmore⟩ := Run.run_bind_ok h
    obtain ⟨m, _, hothers, hpure⟩ := Run.run_bind_ok hmore
    cases hpure
    obtain ⟨w, hrun, hfiles', hcalls⟩ := writeTrack_recorded hw hfiles hone
    have hfirst : refused ≠ some s.calls.length := hpass 0 (Nat.succ_pos _)
    rw [if_neg hfirst] at hrun
    have hlen := length_calls hcalls
    obtain ⟨s', hrun', hfiles'', hcalls'⟩ := ih hfiles'.symm hothers fun j hj => by
      rw [hlen, List.length_singleton, Nat.add_assoc, Nat.add_comm 1]
      exact hpass (j + 1) (Nat.succ_lt_succ hj)
    refine ⟨s', ?_, hfiles'', ?_⟩
    · rw [Run.run_bind, hrun]
      simp only [Run.run_bind, hrun', Run.run_pure]
    · rw [hcalls', hcalls, List.append_assoc]
      rfl

/-- Where a call is refused, the tracks up to that one have been asked for, and the files are as if
there were no others. -/
theorem writeTracks_refused {tracks : List (UInt32 × String)} (hw : write.Records refused fault)
    (hfiles : v.files = s.files)
    (h : (writeTracks template directory TagWriter.idle album tracks).run v = (.ok n, v'))
    (hrefused : refused = some (s.calls.length + j))
    (hj : (tracks.map (expectedTrack directory album))[j]? = some e) :
    ∃ s' u m, (writeTracks template directory write album tracks).run s =
        (.error (fault e.path e.tags), s') ∧
      s'.calls.map WriteCall.track = s.calls.map WriteCall.track ++
        (tracks.take (j + 1)).map (expectedTrack directory album) ∧
      (writeTracks template directory TagWriter.idle album (tracks.take (j + 1))).run v =
        (.ok m, u) ∧ s'.files = u.files := by
  induction tracks generalizing s v n j with
  | nil => cases hj
  | cons track tracks ih =>
    unfold writeTracks at h
    obtain ⟨_, u, hone, hmore⟩ := Run.run_bind_ok h
    obtain ⟨_, _, hothers, hpure⟩ := Run.run_bind_ok hmore
    cases hpure
    obtain ⟨w, hrun, hfiles', hcalls⟩ := writeTrack_recorded hw hfiles hone
    rw [List.take_succ_cons]
    -- `j` counts the calls up to the refused one, so each track that goes through takes one off it
    cases j with
    | zero =>
      obtain rfl : expectedTrack directory album track = e := Option.some.inj hj
      have hfirst : refused = some s.calls.length := hrefused
      rw [if_pos hfirst] at hrun
      refine ⟨w, u, 1, ?_, hcalls, ?_, hfiles'⟩
      · rw [writeTracks, Run.run_bind, hrun]
      · rw [writeTracks, Run.run_bind, hone]
        rfl
    | succ j =>
      rw [if_neg (by rw [hrefused]; simp)] at hrun
      have hlen := length_calls hcalls
      obtain ⟨s', u', m, hrun', hcalls', hidle, hfiles''⟩ := ih hfiles'.symm hothers
        (by rw [hrefused, hlen, List.length_singleton, Nat.add_assoc, Nat.add_comm 1])
        (by simpa using hj)
      refine ⟨s', u', m + 1, ?_, ?_, ?_, hfiles''⟩
      · rw [writeTracks, Run.run_bind, hrun]
        simp only [Run.run_bind, hrun']
      · rw [hcalls', hcalls, List.append_assoc]
        rfl
      · rw [writeTracks, Run.run_bind, hone]
        simp only [Run.run_bind, hidle, Run.run_pure]

/-- Where the directory of an album can be made, writing the album is writing its tracks there,
whichever the writer is. -/
theorem writeAlbum_started (hfiles : v.files = s.files)
    (h : (writeAlbum paths TagWriter.idle album).run v = (.ok n, v')) :
    ∃ directory u w x, (TrackFile.makeAlbumDirectory paths.destination album.artist
        album.title).run s = (.ok directory, u) ∧
      w.files = u.files ∧ w.calls = s.calls ∧ x.files = w.files ∧
      (writeTracks paths.source directory TagWriter.idle album album.numberedTracks).run x =
        (.ok n, v') ∧
      expectedOfAlbum paths.destination album =
        album.numberedTracks.map (expectedTrack directory album) ∧
      ∀ write, (writeAlbum paths write album).run s =
        (writeTracks paths.source directory write album album.numberedTracks).run w := by
  unfold writeAlbum at h
  obtain ⟨directory, u, hmade, hmore⟩ := Run.run_bind_ok h
  obtain ⟨_, x, hreport, htracks⟩ := Run.run_bind_ok hmore
  cases hreport
  obtain rfl := TrackFile.makeAlbumDirectory_ok hmade
  have hmade' := TrackFile.makeAlbumDirectory_filesOnly _ _ _ s v _ u hfiles hmade
  let w : Session := { s with
    files := u.files
    events := s.events ++ [.albumStarted album.artist album.title album.tracks.length] }
  refine ⟨_, _, w, _, hmade', rfl, rfl, ?_, htracks, Verification.expectedOfAlbum_eq _ _,
    fun write => ?_⟩
  · rfl
  · rw [writeAlbum, Run.run_bind, hmade']
    rfl

theorem writeAlbum_recorded (hw : write.Records refused fault) (hfiles : v.files = s.files)
    (h : (writeAlbum paths TagWriter.idle album).run v = (.ok n, v'))
    (hpass : ∀ j < album.tracks.length, refused ≠ some (s.calls.length + j)) :
    ∃ s', (writeAlbum paths write album).run s = (.ok n, s') ∧ s'.files = v'.files ∧
      s'.calls.map WriteCall.track =
        s.calls.map WriteCall.track ++ expectedOfAlbum paths.destination album := by
  obtain ⟨directory, _, w, x, _, _, hcalls, hx, htracks, hes, hrun⟩ := writeAlbum_started hfiles h
  rw [hes, hrun, ← hcalls]
  apply writeTracks_recorded hw hx htracks
  rwa [album.length_numberedTracks, hcalls]

/-- As long as no call is refused, albums are gone through one after another. -/
theorem writeAlbums_recorded {catalog : Catalog} (hw : write.Records refused fault)
    (hfiles : v.files = s.files)
    (h : (writeAlbums paths TagWriter.idle catalog).run v = (.ok n, v'))
    (hpass : ∀ j < Catalog.totalTracks catalog, refused ≠ some (s.calls.length + j)) :
    ∃ s', (writeAlbums paths write catalog).run s = (.ok n, s') ∧ s'.files = v'.files ∧
      s'.calls.map WriteCall.track =
        s.calls.map WriteCall.track ++ expected paths.destination catalog := by
  induction catalog generalizing s v n with
  | nil =>
    cases h
    exact ⟨s, rfl, hfiles.symm, (List.append_nil _).symm⟩
  | cons album rest ih =>
    unfold writeAlbums at h ⊢
    obtain ⟨count, u, hone, hmore⟩ := Run.run_bind_ok h
    obtain ⟨m, _, hothers, hpure⟩ := Run.run_bind_ok hmore
    cases hpure
    have htotal : Catalog.totalTracks (album :: rest) =
        album.tracks.length + Catalog.totalTracks rest := rfl
    obtain ⟨w, hrun, hfiles', hcalls⟩ := writeAlbum_recorded hw hfiles hone fun j hj =>
      hpass j (by omega)
    have hlen := length_calls hcalls
    rw [Verification.length_expectedOfAlbum] at hlen
    obtain ⟨s', hrun', hfiles'', hcalls'⟩ := ih hfiles'.symm hothers fun j hj => by
      rw [hlen, Nat.add_assoc]
      exact hpass (album.tracks.length + j) (by omega)
    refine ⟨s', ?_, hfiles'', ?_⟩
    · rw [Run.run_bind, hrun]
      simp only [Run.run_bind, hrun', Run.run_pure]
    · rw [hcalls', hcalls, List.append_assoc]
      rfl

end Loops

/-- A library that has been begun: directories for albums, and for tracks copies of the template
that have no tags of their own yet. -/
structure Begun (paths : LibraryPaths) (albums : Catalog) (es : List Expected)
    (t t' : FileTree) : Prop where
  written : Written paths.source TagWriter.idle es t t'
  changes : Changes (MadeDirectory paths.destination albums) (fun p => ∃ e ∈ es, e.path = p) t t'
  made : ∀ a ∈ albums,
    DirectoryAt t' (TrackFile.albumDirectory paths.destination a.artist a.title)

theorem MadeDirectory.mono {root p : Path} {albums albums' : Catalog}
    (h : MadeDirectory root albums p) (ha : ∀ a ∈ albums, a ∈ albums') :
    MadeDirectory root albums' p := by
  rcases h with h | ⟨a, hm, h⟩
  · exact Or.inl h
  · exact Or.inr ⟨a, ha a hm, h⟩

namespace Begun

variable {paths : LibraryPaths} {albums albums' : Catalog} {es es' : List Expected}
  {t u t' : FileTree}

theorem append (h : Begun paths albums es t u) (h' : Begun paths albums' es' u t') :
    Begun paths (albums ++ albums') (es ++ es') t t' where
  written := h.written.append h'.written
  changes := by
    have hfirst : Changes (MadeDirectory paths.destination (albums ++ albums'))
        (fun p => ∃ e ∈ es ++ es', e.path = p) t u :=
      h.changes.mono (fun _ hp => hp.mono fun _ => List.mem_append_left _)
        fun _ ⟨e, he, hp⟩ => ⟨e, List.mem_append_left _ he, hp⟩
    have hlast : Changes (MadeDirectory paths.destination (albums ++ albums'))
        (fun p => ∃ e ∈ es ++ es', e.path = p) u t' :=
      h'.changes.mono (fun _ hp => hp.mono fun _ => List.mem_append_right _)
        fun _ ⟨e, he, hp⟩ => ⟨e, List.mem_append_right _ he, hp⟩
    exact hfirst.trans hlast
  made := List.forall_mem_append.mpr
    ⟨fun a ha => (h.made a ha).extends h'.changes.extends, h'.made⟩

end Begun

section Begun

variable {paths : LibraryPaths} {catalog : Catalog} {album : Album} {write : TagWriter}
  {refused : Option Nat} {fault : Path → TrackTags → LibraryError} {s s' u v v' : Session}
  {j n : Nat} {e : Expected}

/-- An album is begun with its directory and some of its tracks. -/
theorem begun_of_writeTracks {directory : Path} {tracks : List (UInt32 × String)}
    (hne : paths.destination.bytes ≠ []) (hup : .parent ∉ paths.destination.components)
    (ha : album.Named) (hmade : (TrackFile.makeAlbumDirectory paths.destination album.artist
      album.title).run s = (.ok directory, u)) (hfiles : v.files = u.files)
    (h : (writeTracks paths.source directory TagWriter.idle album tracks).run v = (.ok n, v')) :
    Begun paths [album] (tracks.map (expectedTrack directory album)) s.files v'.files := by
  have hdirs : Changes (MadeDirectory paths.destination [album])
      (fun p => ∃ e ∈ tracks.map (expectedTrack directory album), e.path = p) s.files v.files := by
    rw [hfiles]
    exact ((TrackFile.makeAlbumDirectory_within (fun _ => False) _ _ _).changes hmade).mono
      (fun _ hp => Or.inr ⟨album, List.mem_singleton_self _, hp⟩) fun _ hp => hp.elim
  have htracks : Changes (MadeDirectory paths.destination [album])
      (fun p => ∃ e ∈ tracks.map (expectedTrack directory album), e.path = p) v.files v'.files :=
    (writeTracks_within (TagWriter.idle_within _) paths.source directory album tracks
      fun track ht => ⟨_, List.mem_map_of_mem ht, rfl⟩).changes h
  refine ⟨?_, hdirs.trans htracks, fun a hm => ?_⟩
  · have hbefore := (TrackFile.makeAlbumDirectory_within (fun _ => False) _ _ _).changes hmade
    rw [← hfiles] at hbefore
    exact (writeTracks_written h).2.before (hbefore.mono (fun _ _ => trivial) fun _ hp => hp)
  · obtain rfl := List.mem_singleton.mp hm
    have hdirectory := makeAlbumDirectory_made hne hup ha hmade
    rw [← hfiles] at hdirectory
    exact hdirectory.extends htracks.extends

theorem begun_of_writeAlbum (hne : paths.destination.bytes ≠ [])
    (hup : .parent ∉ paths.destination.components) (ha : album.Named)
    (h : (writeAlbum paths TagWriter.idle album).run s = (.ok n, s')) :
    Begun paths [album] (expectedOfAlbum paths.destination album) s.files s'.files := by
  obtain ⟨_, _, _, _, hmade, hw, _, hx, htracks, hes, _⟩ := writeAlbum_started rfl h
  rw [hes]
  exact begun_of_writeTracks hne hup ha hmade (hx.trans hw) htracks

theorem begun_of_writeAlbums (hne : paths.destination.bytes ≠ [])
    (hup : .parent ∉ paths.destination.components) (hn : ∀ a ∈ catalog, a.Named)
    (h : (writeAlbums paths TagWriter.idle catalog).run s = (.ok n, s')) :
    Begun paths catalog (expected paths.destination catalog) s.files s'.files := by
  induction catalog generalizing s n with
  | nil =>
    cases h
    exact ⟨.done .refl, .refl, fun a ha => absurd ha List.not_mem_nil⟩
  | cons album rest ih =>
    obtain ⟨halbum, hrest⟩ := List.forall_mem_cons.mp hn
    unfold writeAlbums at h
    obtain ⟨count, u, hone, hmore⟩ := Run.run_bind_ok h
    obtain ⟨m, _, hothers, hpure⟩ := Run.run_bind_ok hmore
    cases hpure
    exact (begun_of_writeAlbum hne hup halbum hone).append (ih hrest hothers)

theorem writeAlbum_refused (hne : paths.destination.bytes ≠ [])
    (hup : .parent ∉ paths.destination.components) (ha : album.Named)
    (hw : write.Records refused fault) (hfiles : v.files = s.files)
    (h : (writeAlbum paths TagWriter.idle album).run v = (.ok n, v'))
    (hrefused : refused = some (s.calls.length + j))
    (hj : (expectedOfAlbum paths.destination album)[j]? = some e) :
    ∃ s', (writeAlbum paths write album).run s = (.error (fault e.path e.tags), s') ∧
      s'.calls.map WriteCall.track = s.calls.map WriteCall.track ++
        (expectedOfAlbum paths.destination album).take (j + 1) ∧
      Begun paths [album] ((expectedOfAlbum paths.destination album).take (j + 1))
        s.files s'.files := by
  obtain ⟨directory, u, w, x, hmade, hwfiles, hcalls, hx, htracks, hes, hrun⟩ :=
    writeAlbum_started hfiles h
  rw [hes] at hj
  rw [← hcalls] at hrefused
  obtain ⟨s', u', m, hstop, hcalls', hidle, hfiles'⟩ :=
    writeTracks_refused hw hx htracks hrefused hj
  rw [hes, hrun, ← hcalls, ← List.map_take]
  refine ⟨s', hstop, hcalls', ?_⟩
  rw [hfiles']
  exact begun_of_writeTracks hne hup ha hmade (hx.trans hwfiles) hidle

/-- Where a call is refused, the albums up to that of the track have been begun. -/
theorem writeAlbums_refused (hne : paths.destination.bytes ≠ [])
    (hup : .parent ∉ paths.destination.components) (hn : ∀ a ∈ catalog, a.Named)
    (hw : write.Records refused fault) (hfiles : v.files = s.files)
    (h : (writeAlbums paths TagWriter.idle catalog).run v = (.ok n, v'))
    (hrefused : refused = some (s.calls.length + j))
    (hj : (expected paths.destination catalog)[j]? = some e) :
    ∃ s', (writeAlbums paths write catalog).run s = (.error (fault e.path e.tags), s') ∧
      s'.calls.map WriteCall.track = s.calls.map WriteCall.track ++
        (expected paths.destination catalog).take (j + 1) ∧
      Begun paths (Catalog.upTo j catalog) ((expected paths.destination catalog).take (j + 1))
        s.files s'.files := by
  induction catalog generalizing s v n j with
  | nil => cases hj
  | cons album rest ih =>
    obtain ⟨halbum, hrest⟩ := List.forall_mem_cons.mp hn
    unfold writeAlbums at h
    obtain ⟨count, u, hone, hmore⟩ := Run.run_bind_ok h
    obtain ⟨m, _, hothers, hpure⟩ := Run.run_bind_ok hmore
    cases hpure
    have hcons : expected paths.destination (album :: rest) =
        expectedOfAlbum paths.destination album ++ expected paths.destination rest :=
      List.flatMap_cons
    have hcount := Verification.length_expectedOfAlbum paths.destination album
    rw [hcons] at hj ⊢
    -- the track is one of this album, or all of this album is written before it
    by_cases hlt : j < album.tracks.length
    · rw [List.getElem?_append_left (by omega)] at hj
      rw [List.take_append_of_le_length (by omega), Catalog.upTo, if_pos hlt]
      obtain ⟨s', hrun, hcalls, hbegun⟩ :=
        writeAlbum_refused hne hup halbum hw hfiles hone hrefused hj
      refine ⟨s', ?_, hcalls, hbegun⟩
      rw [writeAlbums, Run.run_bind, hrun]
    · rw [List.getElem?_append_right (by omega), hcount] at hj
      rw [List.take_append, List.take_of_length_le (by omega), hcount, Catalog.upTo, if_neg hlt,
        show j + 1 - album.tracks.length = j - album.tracks.length + 1 by omega]
      obtain ⟨w, hrun, hfiles', hcalls⟩ := writeAlbum_recorded hw hfiles hone fun i hi => by
        rw [hrefused, ne_eq, Option.some.injEq]
        omega
      have hlen := length_calls hcalls
      obtain ⟨s', hrun', hcalls', hbegun⟩ := ih hrest hfiles'.symm hothers
        (j := j - album.tracks.length)
        (by rw [hrefused, hlen, hcount]; congr 1; omega) hj
      have hfirst := begun_of_writeAlbum hne hup halbum hone
      rw [hfiles, ← hfiles'] at hfirst
      refine ⟨s', ?_, ?_, hfirst.append hbegun⟩
      · rw [writeAlbums, Run.run_bind, hrun]
        simp only [Run.run_bind, hrun']
      · rw [hcalls', hcalls, List.append_assoc]

end Begun

section Copies

variable {paths : LibraryPaths} {catalog albums : Catalog} {es : List Expected} {t t' : FileTree}
  {d i origin mode parent : Nat} {file : Bytes} {modified : Instant}

/-- What has been made below an empty directory is no device. -/
theorem not_device_of_empty {dirs files : Path → Prop}
    (hd : t.node? d = some (.directory parent [])) (hc : Changes dirs files t t')
    (hb : FileTree.Below t' d i) : t'.node? i ≠ some .device := by
  intro hdevice
  obtain ⟨hplain, honly⟩ := FileTree.plain_of_empty hd
  by_cases hi : i < t.nodes.size
  · obtain rfl := honly i ((hplain.changes (FileTree.lt_size hd) hc).2 i hi hb)
    obtain ⟨_, hdirectory⟩ := hc.extends.directory hd
    rw [hdevice] at hdirectory
    cases hdirectory
  · rcases hc.fresh (Array.getElem?_eq_none (Nat.le_of_not_lt hi)) hdevice with
      ⟨_, _, _, _, _, hnode⟩ | ⟨_, _, _, _, _, _, hnode⟩
    · cases hnode
    · cases hnode

/-- A library that has been begun in an empty directory fills it with copies of the template. -/
theorem Begun.filled (h : Begun paths albums es t t') (hr : Ready paths origin d file t)
    (hi : t.node? origin = some (.file file mode modified))
    (hempty : t.node? d = some (.directory parent [])) (hne : paths.destination.bytes ≠ [])
    (hn : ∀ a ∈ albums, a.Named) (hin : ∀ e ∈ es, InLibrary paths.destination e.path)
    (hd : es.Pairwise fun e e' => e.path ≠ e'.path) :
    Filled paths.destination albums es (fun _ => file) d t t' ∧
      ∀ e ∈ es, t'.readRegular e.path = .ok (file, mode) := by
  have hturn : InTurn (fun _ out => out = file) mode es t t' := by
    apply h.written.inTurn hr hne hi hin (TagWriter.idle_within _)
    intro e he v w i hc hto hcopied htag
    -- no tags are written, so the copy stays what it was
    cases htag
    rcases hcopied with ⟨modified, hnode⟩ | hdevice
    · exact ⟨file, modified, hnode, rfl⟩
    · have hbelow := (hr.changes hne (fun _ hp => hp) hc).below hne (hin e he) hto
      exact absurd hdevice (not_device_of_empty hempty hc hbelow)
  obtain ⟨_, hlatest⟩ := hturn.ready hr hne hin
  have hcopies : ∀ e ∈ es, ∃ j written, t'.resolve e.path = .ok j ∧
      t'.node? j = some (.file file mode written) := by
    intro e he
    obtain ⟨j, _, written, hj, hnode, rfl⟩ := hlatest e (latest_of_pairwise hd he)
    exact ⟨j, written, hj, hnode⟩
  refine ⟨⟨hne, hn, hin, hr.destination, ⟨parent, hempty⟩, h.changes, h.made, fun e he => ?_⟩,
    fun e he => ?_⟩
  · obtain ⟨j, written, hj, hnode⟩ := hcopies e he
    exact ⟨j, mode, written, hj, hnode⟩
  · obtain ⟨j, written, hj, hnode⟩ := hcopies e he
    exact FileTree.readRegular_of_file hj hnode

/-- Where a library has been filled, a path in it leads to a file only if a track has it. -/
theorem Filled.isFile {root p : Path} {content : Expected → Bytes}
    (h : Filled root albums es content d t t') (hp : InLibrary root p)
    (hfile : t'.isFile p = true) : ∃ e ∈ es, e.path = p := by
  obtain ⟨j, bytes, mode, modified, hj, hnode⟩ := FileTree.isFile_eq_true hfile
  obtain ⟨a, b, c, ha, hb, hc, rfl⟩ := hp
  obtain ⟨k, l, _, _, hka, hlb, hjc⟩ :=
    h.plain.resolve_three h.nonempty ha hb hc h.resolve_root hj
  have hleads : FileTree.Leads t' d [a, b, c] j := .entry (.entry (.entry .top hka) hlb) hjc
  rcases (h.leads_cases hleads (by simp) hnode).2 with ⟨_, _, _, hshown⟩ | ⟨e, he, hpath, _⟩
  · cases hshown
  · exact ⟨e, he, hpath.symm⟩

/-- The library up to a certain track: the directories of the albums and a copy of the template for
each of the tracks `es`; none for the tracks after them. -/
structure CopiedUpTo (destination : Path) (albums : Catalog) (es others : List Expected)
    (file : Bytes) (mode : Nat) (t : FileTree) : Prop where
  consists : Consists destination albums es (fun _ => file) t
  copies : ∀ e ∈ es, t.readRegular e.path = .ok (file, mode)
  missing : ∀ e ∈ others, t.isFile e.path = false

end Copies

/-- Every directory of a library can be made, and every copy of its template: a run that writes no
tags succeeds. -/
def Writable (paths : LibraryPaths) (catalog : Catalog) (t : FileTree) : Prop :=
  ∃ summary s, (generate paths catalog TagWriter.idle).run ⟨t, [], []⟩ = (.ok summary, s)

section Recorded

variable {paths : LibraryPaths} {catalog : Catalog} {write : TagWriter} {refused : Option Nat}
  {fault : Path → TrackTags → LibraryError} {s s' : Session} {result : Except LibraryError Summary}

/-- A library begun where there was nothing consists of what has been begun. -/
theorem Begun.copiedUpTo {albums : Catalog} {es others : List Expected} {t u t' : FileTree}
    {origin mode : Nat} {file : Bytes} {modified : Instant} (hc : Catalog.Named catalog)
    (hv : Vacant paths.destination t) (hr : refuse? paths.destination = none)
    (hmade : (FileTree.makeDirectories paths.destination).run t = (.ok (), u))
    (ho : t.resolve paths.source = .ok origin)
    (hi : t.node? origin = some (.file file mode modified)) (h : Begun paths albums es u t')
    (ha : ∀ a ∈ albums, a ∈ catalog) (he : es ++ others = expected paths.destination catalog) :
    CopiedUpTo paths.destination albums es others file mode t' := by
  obtain ⟨d, parent, hready, hi', hempty⟩ := hv.ready hr hmade ho hi
  have hin : ∀ e ∈ es ++ others, InLibrary paths.destination e.path := by
    rw [he]
    exact fun e hm => (Verification.inLibrary_of_expected hv.nonempty hc.albums hm).1
  have hpaths : (es ++ others).Pairwise fun e e' => e.path ≠ e'.path :=
    he ▸ Verification.expected_paths_pairwise hv.nonempty hc
  obtain ⟨hes, _, hacross⟩ := List.pairwise_append.mp hpaths
  obtain ⟨hfilled, hcopies⟩ := h.filled hready hi' hempty hv.nonempty
    (fun a hm => hc.albums a (ha a hm)) (fun e hm => hin e (List.mem_append_left _ hm)) hes
  refine ⟨hfilled.consists, hcopies, fun e hm => ?_⟩
  cases hfile : t'.isFile e.path with
  | false => rfl
  | true =>
    obtain ⟨x, hx, hpath⟩ := hfilled.isFile (hin e (List.mem_append_right _ hm)) hfile
    exact absurd hpath (hacross x hx e hm)

theorem catalogNamed_twoAlbums : Catalog.Named twoAlbums :=
  ⟨named_twoAlbums, by decide, by decide⟩

def stoppedRun : Except LibraryError Summary × Session :=
  (generate intoM twoAlbums (TagWriter.recording (some 1))).run ⟨oneTemplate, [], []⟩

end Recorded

end Generation

end TaggedLibrary
