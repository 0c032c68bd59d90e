import TaggedLibrary.Generation
import TaggedLibrary.Proofs.Changes
import TaggedLibrary.Verification
/-!
Where a run of the generator changes files: at the paths of the catalog's tracks and nowhere else,
whatever it returns. It makes directories at the destination, at those of the albums and above them.
-/

namespace TaggedLibrary

open FileTree (Changes)

namespace Run

variable {α β ε : Type} {dirs files : Path → Prop}

theorem run_of_toOption {op : Run α} {s : Session} {a : α} (h : (op.run s).1.toOption = some a) :
    op.run s = (.ok a, (op.run s).2) := by
  rcases hrun : op.run s with ⟨e | r, s'⟩
  · rw [hrun] at h
    cases h
  · rw [hrun] at h
    cases h
    rfl

theorem run_during_of_ok {a : Activity} {op : Run α} {s s' : Session} {r : α}
    (h : op.run s = (.ok r, s')) : (during a op).run s = (.ok r, s') := by
  rw [run_during, h]

theorem run_onFiles_of_ok {wrap : ε → LibraryError} {op : Disk ε α} {s : Session}
    {t : FileTree} {a : α} (h : op.run s.files = (.ok a, t)) :
    (onFiles wrap op).run s = (.ok a, { s with files := t }) := by
  rw [run_onFiles, h]
  rfl

/-- An operation that changes a tree at some paths only, whether it succeeds or fails. -/
def Within (dirs files : Path → Prop) (op : Run α) : Prop :=
  ∀ s, Changes dirs files s.files (op.run s).2.files

theorem Within.changes {op : Run α} (h : Within dirs files op) {s s' : Session}
    {result : Except LibraryError α} (hrun : op.run s = (result, s')) :
    Changes dirs files s.files s'.files := by
  have hs := h s
  rwa [hrun] at hs

theorem within_pure (a : α) : Within dirs files (pure a : Run α) := fun _ => .refl

theorem within_fail (e : LibraryError) : Within dirs files (fail e : Run α) := fun _ => .refl

theorem within_report (e : Event) : Within dirs files (report e) := fun _ => .refl

theorem within_ask (question : FileTree → Except LibraryError α) :
    Within dirs files (ask question) := fun _ => .refl

theorem Within.mono {dirs' files' : Path → Prop} {op : Run α} (h : Within dirs files op)
    (hd : ∀ p, dirs p → dirs' p) (hf : ∀ p, files p → files' p) : Within dirs' files' op :=
  fun s => (h s).mono hd hf

theorem Within.bind {op : Run α} {f : α → Run β} (h : Within dirs files op)
    (hf : ∀ a, Within dirs files (f a)) : Within dirs files (op >>= f) := by
  intro s
  have hs := h s
  rw [run_bind]
  rcases ho : op.run s with ⟨e | a, mid⟩
  · rw [ho] at hs
    exact hs
  · rw [ho] at hs
    exact hs.trans (hf a mid)

theorem within_onFiles {wrap : ε → LibraryError} {op : Disk ε α}
    (h : ∀ t, Changes dirs files t (op.run t).2) : Within dirs files (onFiles wrap op) := by
  intro s
  rw [run_onFiles]
  exact h s.files

theorem Within.during {op : Run α} (h : Within dirs files op) (a : Activity) :
    Within dirs files (Run.during a op) := by
  intro s
  rw [files_run_during]
  exact h s

end Run

namespace TagWriter

variable {dirs : Path → Prop}

theorem run_change (p : Path) (f : Bytes → Except TagError Bytes) (t : FileTree) :
    (change p f).run t =
      match t.read p with
      | .error e => (.error (.io e), t)
      | .ok file =>
        match f file with
        | .error e => (.error e, t)
        | .ok file => (((FileTree.overwrite p file).run t).1.mapError .io,
            ((FileTree.overwrite p file).run t).2) := by
  rw [change, Disk.run_bind, Disk.run_mapError, Disk.run_ask]
  rcases t.read p with e | file
  · rfl
  · change (Disk.ask (fun _ => f file) >>= fun file =>
      Disk.mapError .io (FileTree.overwrite p file)).run t = _
    rw [Disk.run_bind, Disk.run_ask]
    dsimp only
    rcases f file with e | out
    · rfl
    · exact Disk.run_mapError _ _ _

theorem change_changes (dirs : Path → Prop) (p : Path) (f : Bytes → Except TagError Bytes)
    (t : FileTree) : Changes dirs (· = p) t ((change p f).run t).2 := by
  rw [run_change]
  rcases t.read p with e | file
  · exact .refl
  · simp only
    rcases f file with e | out
    · exact .refl
    · exact FileTree.overwrite_changes dirs p out t

/-- Writing tags changes what is at the path and nothing else. -/
theorem id3v2_within (dirs : Path → Prop) (p : Path) (tags : TrackTags) :
    (id3v2 p tags).Within dirs (· = p) := by
  have hchange : ∀ f, (Run.onFiles (.tag p) (change p f)).Within dirs (· = p) :=
    fun f => Run.within_onFiles (change_changes dirs p f)
  refine Run.Within.during ?_ _
  apply Run.Within.bind (Run.within_onFiles fun _ => .refl)
  rintro ⟨kind, found⟩
  simp only
  split
  · exact Run.within_fail _
  · have hape : (if found.ape.isSome = true then do
        Run.onFiles (.tag p) (change p AudioFile.removeApe)
        Run.onFiles (.tag p) (change p (AudioFile.putId3v2 tags))
        else Run.onFiles (.tag p) (change p (AudioFile.putId3v2 tags))).Within dirs (· = p) := by
      split
      · exact (hchange _).bind fun _ => hchange _
      · exact hchange _
    split
    · exact (hchange _).bind fun _ => hape
    · exact hape

end TagWriter

namespace TrackFile

variable {dirs : Path → Prop}

theorem copy_within (dirs : Path → Prop) (source dest : Path) :
    (copy source dest).Within dirs (· = dest) := by
  refine Run.Within.during ?_ _
  refine (Run.within_onFiles (FileTree.copy_changes dirs source dest)).bind fun _ => ?_
  refine (Run.within_onFiles fun _ => .refl).bind fun modified => ?_
  exact (Run.within_onFiles (FileTree.setModified_changes dirs dest modified)).bind fun _ =>
    Run.within_pure _

/-- A copy is made in three steps. -/
theorem run_copy_of_ok {source dest : Path} {s : Session} {u v : FileTree} {count : Nat}
    {instant : Instant} (hcopy : (FileTree.copy source dest).run s.files = (.ok count, u))
    (hask : u.modified source = .ok instant)
    (hset : (FileTree.setModified dest instant).run u = (.ok (), v)) :
    (copy source dest).run s = (.ok count, { s with files := v }) := by
  have hmodified : (Disk.ask (FileTree.modified · source)).run u = (.ok instant, u) := by
    rw [Disk.run_ask, hask]
  apply Run.run_during_of_ok
  rw [Run.run_bind, Run.run_onFiles_of_ok hcopy]
  dsimp only
  rw [Run.run_bind, Run.run_onFiles_of_ok hmodified]
  dsimp only
  rw [Run.run_bind, Run.run_onFiles_of_ok hset]
  rfl

/-- Once the bytes are there, nothing stops a copy: the time follows. -/
theorem run_copy_of_copied {source dest : Path} {s : Session} {u : FileTree} {count : Nat}
    (h : (FileTree.copy source dest).run s.files = (.ok count, u)) :
    ∃ target instant, u.resolve dest = .ok target ∧ u.modified source = .ok instant ∧
      (copy source dest).run s =
        (.ok count, { s with files := FileTree.putModified target instant u }) := by
  obtain ⟨origin, target, bytes, mode, modified, hr, hi, hdest, hwritten⟩ := FileTree.copy_ok h
  have hgrown : FileTree.Extends s.files u := by
    have hc := (FileTree.copy_changes (fun _ => False) source dest s.files).extends
    rwa [h] at hc
  obtain ⟨_, _, instant, hsource⟩ := hgrown.file hi
  have hask : u.modified source = .ok instant :=
    FileTree.modified_of_file (hgrown.resolve hr) hsource
  have hopen : u.openExisting dest = .ok target := by
    refine FileTree.openExisting_of_resolve hdest fun parent entries hdirectory => ?_
    by_cases hne : target = origin
    · rw [hne, hsource] at hdirectory
      cases hdirectory
    · rcases (hwritten hne).2 with ⟨_, hfile⟩ | hdevice
      · rw [hfile] at hdirectory
        cases hdirectory
      · rw [hdevice] at hdirectory
        cases hdirectory
  refine ⟨target, instant, hdest, hask, run_copy_of_ok h hask ?_⟩
  rw [FileTree.setModified,
    FileTree.run_onExisting dest (fun i => FileTree.putModified i instant), hopen]

theorem makeAlbumDirectory_within (files : Path → Prop) (root : Path) (artist album : String) :
    (makeAlbumDirectory root artist album).Within
      (· ∈ FileTree.ancestors (albumDirectory root artist album)) files := by
  refine Run.Within.during ?_ _
  exact (Run.within_onFiles (FileTree.makeDirectories_changes files _)).bind fun _ =>
    Run.within_pure _

theorem makeAlbumDirectory_ok {root directory : Path} {artist album : String} {s s' : Session}
    (h : (makeAlbumDirectory root artist album).run s = (.ok directory, s')) :
    albumDirectory root artist album = directory := by
  obtain ⟨_, mid, _, h⟩ := Run.run_bind_ok (Run.run_during_ok h)
  cases h
  rfl

end TrackFile

namespace Verification

/-- A track as it is expected in the directory of its album. -/
def expectedTrack (directory : Path) (album : Album) (track : UInt32 × String) : Expected :=
  ⟨directory.joinText (TrackFile.name track.1 track.2), TrackTags.forTrack album track.1 track.2⟩

theorem path_expectedTrack (directory : Path) (album : Album) (track : UInt32 × String) :
    (expectedTrack directory album track).path =
      directory.joinText (TrackFile.name track.1 track.2) := by
  simp only [expectedTrack]

theorem tags_expectedTrack (directory : Path) (album : Album) (track : UInt32 × String) :
    (expectedTrack directory album track).tags =
      TrackTags.forTrack album track.1 track.2 := by
  simp only [expectedTrack]

theorem expectedOfAlbum_eq (root : Path) (album : Album) : expectedOfAlbum root album =
    album.numberedTracks.map
      (expectedTrack (TrackFile.albumDirectory root album.artist album.title) album) := rfl

end Verification

namespace Generation

open Verification (expectedTrack)

/-- The directories that a run makes, those above the library among them. -/
def MadeDirectory (root : Path) (catalog : Catalog) (p : Path) : Prop :=
  p ∈ FileTree.ancestors root ∨ ∃ album ∈ catalog,
    p ∈ FileTree.ancestors (TrackFile.albumDirectory root album.artist album.title)

/-- The files that a run writes. -/
def WrittenFile (root : Path) (catalog : Catalog) (p : Path) : Prop :=
  ∃ e ∈ Verification.expected root catalog, e.path = p

section Within

variable {dirs files : Path → Prop} {write : TagWriter}

theorem writeTrack_within (hw : ∀ p tags, (write p tags).Within dirs (· = p))
    (template directory : Path) (album : Album) (track : UInt32 × String) :
    (writeTrack template directory write album track).Within dirs
      (· = (expectedTrack directory album track).path) := by
  rw [Verification.path_expectedTrack]
  exact (TrackFile.copy_within dirs template _).bind fun _ =>
    (hw _ _).bind fun _ => Run.within_report _

theorem writeTracks_within (hw : ∀ p tags, (write p tags).Within dirs (· = p))
    (template directory : Path) (album : Album) (tracks : List (UInt32 × String))
    (hf : ∀ track ∈ tracks, files (expectedTrack directory album track).path) :
    (writeTracks template directory write album tracks).Within dirs files := by
  induction tracks with
  | nil => exact Run.within_pure _
  | cons track rest ih =>
    have hone : (writeTrack template directory write album track).Within dirs files :=
      (writeTrack_within hw template directory album track).mono (fun _ h => h) (by
        rintro p rfl
        exact hf track (List.mem_cons_self ..))
    have hrest := ih fun t ht => hf t (List.mem_cons_of_mem track ht)
    exact hone.bind fun _ => hrest.bind fun _ => Run.within_pure _

theorem mem_expected {root : Path} {catalog : Catalog} {album : Album} {track : UInt32 × String}
    (ha : album ∈ catalog) (ht : track ∈ album.numberedTracks) :
    expectedTrack (TrackFile.albumDirectory root album.artist album.title) album track ∈
      Verification.expected root catalog := by
  refine List.mem_flatMap.mpr ⟨album, ha, ?_⟩
  rw [Verification.expectedOfAlbum_eq]
  exact List.mem_map_of_mem ht

theorem writeAlbum_within (hw : ∀ p tags, (write p tags).Within dirs (· = p))
    (paths : LibraryPaths) (album : Album)
    (hd : ∀ p ∈ FileTree.ancestors
      (TrackFile.albumDirectory paths.destination album.artist album.title), dirs p)
    (hf : ∀ track ∈ album.numberedTracks, files (expectedTrack
      (TrackFile.albumDirectory paths.destination album.artist album.title) album track).path) :
    (writeAlbum paths write album).Within dirs files := by
  let directory := TrackFile.albumDirectory paths.destination album.artist album.title
  have hmade : (TrackFile.makeAlbumDirectory paths.destination album.artist album.title).Within
      dirs files := (TrackFile.makeAlbumDirectory_within files _ _ _).mono hd fun _ h => h
  have hrest : (do
      Run.report (.albumStarted album.artist album.title album.tracks.length)
      writeTracks paths.source directory write album album.numberedTracks).Within dirs files :=
    (Run.within_report _).bind fun _ =>
      writeTracks_within hw paths.source directory album album.numberedTracks hf
  intro s
  have hs := hmade s
  rw [writeAlbum, Run.run_bind]
  rcases ho : (TrackFile.makeAlbumDirectory paths.destination album.artist album.title).run s with
    ⟨e | made, mid⟩
  · rw [ho] at hs
    exact hs
  · rw [ho] at hs
    obtain rfl := TrackFile.makeAlbumDirectory_ok ho
    exact hs.trans (hrest mid)

theorem writeAlbums_within (hw : ∀ p tags, (write p tags).Within dirs (· = p))
    (paths : LibraryPaths) (catalog : Catalog)
    (hd : ∀ p, MadeDirectory paths.destination catalog p → dirs p)
    (hf : ∀ p, WrittenFile paths.destination catalog p → files p) :
    (writeAlbums paths write catalog).Within dirs files := by
  induction catalog with
  | nil => exact Run.within_pure _
  | cons album rest ih =>
    have hone : (writeAlbum paths write album).Within dirs files := by
      refine writeAlbum_within hw paths album ?_ ?_
      · intro p hp
        exact hd p (Or.inr ⟨album, List.mem_cons_self .., hp⟩)
      · intro track ht
        exact hf _ ⟨_, mem_expected (List.mem_cons_self ..) ht, rfl⟩
    have hrest : (writeAlbums paths write rest).Within dirs files := by
      refine ih ?_ ?_
      · rintro p (hp | ⟨other, ho, hp⟩)
        · exact hd p (Or.inl hp)
        · exact hd p (Or.inr ⟨other, List.mem_cons_of_mem album ho, hp⟩)
      · rintro p ⟨e, he, rfl⟩
        refine hf _ ⟨e, ?_, rfl⟩
        rw [Verification.expected, List.flatMap_cons]
        exact List.mem_append_right _ he
    exact hone.bind fun _ => hrest.bind fun _ => Run.within_pure _

/-- A run changes files at the paths of the catalog's tracks only. -/
theorem generate_within (paths : LibraryPaths) (catalog : Catalog)
    (hw : ∀ p tags,
      (write p tags).Within (MadeDirectory paths.destination catalog) (· = p)) :
    (generate paths catalog write).Within (MadeDirectory paths.destination catalog)
      (WrittenFile paths.destination catalog) := by
  refine (Run.within_ask _).bind fun _ => ?_
  refine (Run.within_onFiles fun t => ?_).bind fun _ => ?_
  · exact (FileTree.makeDirectories_changes _ paths.destination t).mono (fun _ hp => Or.inl hp)
      fun _ h => h
  · refine (Run.within_report _).bind fun _ => ?_
    exact (writeAlbums_within hw paths catalog (fun _ h => h) fun _ h => h).bind fun _ =>
      Run.within_pure _

end Within

end Generation

end TaggedLibrary
