import TaggedLibrary.Proofs.ExpectedTracks
import TaggedLibrary.Proofs.PlainTree
import TaggedLibrary.Proofs.SourceKept
import TaggedLibrary.Proofs.Tagging
/-!
What a run leaves at the paths of the tracks. Each is a tagged copy of the template when it is
written; the tracks after it do not touch it, since they lead to other nodes.
-/

namespace TaggedLibrary

open FileTree (Changes Below Plain)

namespace TrackFile

/-- A copied file has the bytes and the mode of the source, unless it is the source or swallows
them. -/
theorem copy_ok {source dest : Path} {s s' : Session} {n : Nat}
    (h : (copy source dest).run s = (.ok n, s')) {origin mode : Nat} {bytes : Bytes}
    {modified : Instant} (hr : s.files.resolve source = .ok origin)
    (hi : s.files.node? origin = some (.file bytes mode modified)) :
    ∃ target, s'.files.resolve dest = .ok target ∧ (target ≠ origin →
      (∃ modified, s'.files.node? target = some (.file bytes mode modified)) ∨
        s'.files.node? target = some .device) := by
  obtain ⟨count, u, hcopy, _⟩ := Run.run_bind_ok (Run.run_during_ok h)
  obtain ⟨hcopy, _⟩ := Run.run_onFiles_ok hcopy
  obtain ⟨target, instant, hdest, _, hrun⟩ := run_copy_of_copied hcopy
  rw [h] at hrun
  cases hrun
  obtain ⟨origin', target', bytes', mode', modified', hr', hi', hdest', hcopied⟩ :=
    FileTree.copy_ok hcopy
  rw [hr] at hr'
  cases hr'
  rw [hi] at hi'
  cases hi'
  rw [hdest] at hdest'
  cases hdest'
  have hput := FileTree.putModified_rewritten target instant u.files
  refine ⟨target, hput.extends.resolve hdest, fun hne => ?_⟩
  obtain ⟨_, ⟨written, hnode⟩ | hnode⟩ := hcopied hne
  · exact Or.inl ⟨_, FileTree.node?_putModified hnode instant⟩
  · exact Or.inr (hput.extends.device hnode)

end TrackFile

namespace TagWriter

/-- Tags that are written to an audio file, where that succeeds, replace its bytes and leave its
mode. -/
theorem id3v2_copied {p : Path} {t : TrackTags} {s s' : Session} {i mode : Nat} {file : Bytes}
    (hp : ScannedTrack.isAudio p = true) (hr : s.files.resolve p = .ok i)
    (hi : (∃ modified, s.files.node? i = some (.file file mode modified)) ∨
      s.files.node? i = some .device) (h : (id3v2 p t).run s = (.ok (), s')) :
    ∃ out modified, replaceTags t file = .ok out ∧
      s'.files.node? i = some (.file out mode modified) := by
  rcases hi with ⟨modified, hi⟩ | hdevice
  · rcases run_id3v2 hp ⟨hr, modified, hi⟩ t with ⟨e, s'', hrun, _⟩ | ⟨out, hrun, hmade⟩
    · rw [h] at hrun
      cases hrun
    rw [h] at hrun
    have hfiles : s'.files = FileTree.putBytes i out s.files :=
      congrArg Session.files (Prod.mk.inj hrun).2
    refine ⟨out, s.files.now, hmade, ?_⟩
    rw [hfiles]
    exact FileTree.node?_putBytes hi _
  · -- a device reads as an empty file, which is no audio
    obtain ⟨found, u, hask, _⟩ := Run.run_bind_ok (Run.run_during_ok h)
    obtain ⟨hask, _⟩ := Run.run_onFiles_ok hask
    have hread : s.files.read p = .ok [] := by
      simp only [FileTree.read, hr, bind, Except.bind, hdevice]
    have hinspect : inspect s.files p = .error .endOfFile := by
      simp only [inspect, hr, ScannedTrack.ofPath?_of_isAudio hp, hread, bind, Except.bind,
        FileKind.readTags]
      rfl
    rw [Disk.run_ask, hinspect] at hask
    cases hask

/-- Tags that replace those of the template stand in front of its audio. -/
theorem replaceTags_template {t : TrackTags} {file audio out : Bytes}
    (ht : AudioFile.IsTemplate file audio) (h : replaceTags t file = .ok out) :
    (Id3v2.frameBytes t).length + Id3v2.padding < Id3v2.sizeLimit ∧
      out = Id3v2.tagBytes t ++ audio := by
  unfold replaceTags at h
  rcases hread : AudioFile.read file with e | found
  · rw [hread] at h
    cases h
  obtain ⟨hnone, hnone'⟩ := ht.read_eq_ok hread
  rw [hread] at h
  simp only [bind, Except.bind, hnone, hnone', Option.isSome_none, cutIf] at h
  obtain ⟨rfl, hs⟩ := ht.putId3v2_eq_ok h
  exact ⟨hs, rfl⟩

end TagWriter

namespace Generation

open Verification (Expected InLibrary expectedTrack)

/-- `Written template write es t t'`: from tree `t` on, the tracks `es` are written one after
another, with nothing but new directories between them, and then the tree is `t'`. -/
inductive Written (template : Path) (write : TagWriter) :
    List Expected → FileTree → FileTree → Prop
  | done {t t' : FileTree} (h : Changes (fun _ => True) (fun _ => False) t t') :
      Written template write [] t t'
  | track {e : Expected} {es : List Expected} {t t' : FileTree} {u v w : Session} {n : Nat}
      (hbefore : Changes (fun _ => True) (fun _ => False) t u.files)
      (hcopy : (TrackFile.copy template e.path).run u = (.ok n, v))
      (htag : (write e.path e.tags).run v = (.ok (), w))
      (hrest : Written template write es w.files t') : Written template write (e :: es) t t'

namespace Written

variable {template : Path} {write : TagWriter} {es es' : List Expected} {t u t' : FileTree}

theorem before (hc : Changes (fun _ => True) (fun _ => False) t u)
    (h : Written template write es u t') : Written template write es t t' := by
  cases h with
  | done h => exact .done (hc.trans h)
  | track hbefore hcopy htag hrest => exact .track (hc.trans hbefore) hcopy htag hrest

theorem append (h : Written template write es t u) (h' : Written template write es' u t') :
    Written template write (es ++ es') t t' := by
  induction h with
  | done h => exact h'.before h
  | track hbefore hcopy htag _ ih => exact .track hbefore hcopy htag (ih h')

end Written

section Run

variable {write : TagWriter} {s s' : Session}

theorem writeTrack_written {template directory : Path} {album : Album} {track : UInt32 × String}
    (h : (writeTrack template directory write album track).run s = (.ok (), s')) :
    Written template write [expectedTrack directory album track] s.files s'.files := by
  unfold writeTrack at h
  obtain ⟨_, v, hcopy, hafter⟩ := Run.run_bind_ok h
  obtain ⟨_, w, htag, hreport⟩ := Run.run_bind_ok hafter
  cases hreport
  rw [← Verification.path_expectedTrack directory album track] at hcopy htag
  rw [← Verification.tags_expectedTrack directory album track] at htag
  exact .track .refl hcopy htag (.done .refl)

theorem writeTracks_written {template directory : Path} {album : Album}
    {tracks : List (UInt32 × String)} {n : Nat}
    (h : (writeTracks template directory write album tracks).run s = (.ok n, s')) :
    n = tracks.length ∧
      Written template write (tracks.map (expectedTrack directory album)) s.files s'.files := by
  induction tracks generalizing s n with
  | nil =>
    cases h
    exact ⟨rfl, .done .refl⟩
  | cons track tracks ih =>
    unfold writeTracks at h
    obtain ⟨_, mid, hone, hmore⟩ := Run.run_bind_ok h
    obtain ⟨m, _, hothers, hpure⟩ := Run.run_bind_ok hmore
    cases hpure
    obtain ⟨rfl, hwritten⟩ := ih hothers
    exact ⟨rfl, (writeTrack_written hone).append hwritten⟩

theorem writeAlbum_written {paths : LibraryPaths} {album : Album} {n : Nat}
    (h : (writeAlbum paths write album).run s = (.ok n, s')) :
    n = album.tracks.length ∧ Written paths.source write
      (Verification.expectedOfAlbum paths.destination album) s.files s'.files := by
  unfold writeAlbum at h
  obtain ⟨directory, u, hmade, hmore⟩ := Run.run_bind_ok h
  obtain ⟨_, v, hreport, htracks⟩ := Run.run_bind_ok hmore
  have hdirs := (TrackFile.makeAlbumDirectory_within (fun _ => False) _ _ _).changes hmade
  cases hreport
  obtain rfl := TrackFile.makeAlbumDirectory_ok hmade
  obtain ⟨rfl, hw⟩ := writeTracks_written htracks
  rw [Verification.expectedOfAlbum_eq]
  exact ⟨album.length_numberedTracks, hw.before (hdirs.mono (fun _ _ => trivial) fun _ h => h)⟩

theorem writeAlbums_written {paths : LibraryPaths} {catalog : Catalog} {n : Nat}
    (h : (writeAlbums paths write catalog).run s = (.ok n, s')) :
    n = Catalog.totalTracks catalog ∧ Written paths.source write
      (Verification.expected paths.destination catalog) s.files s'.files := by
  induction catalog generalizing s n with
  | nil =>
    cases h
    exact ⟨rfl, .done .refl⟩
  | cons album rest ih =>
    unfold writeAlbums at h
    obtain ⟨count, u, hone, hmore⟩ := Run.run_bind_ok h
    obtain ⟨m, _, hrest, hpure⟩ := Run.run_bind_ok hmore
    cases hpure
    obtain ⟨rfl, hfirst⟩ := writeAlbum_written hone
    obtain ⟨rfl, hlast⟩ := ih hrest
    exact ⟨rfl, hfirst.append hlast⟩

/-- A run that succeeds has made the destination and then written every track of the catalog. -/
theorem generate_written {paths : LibraryPaths} {catalog : Catalog} {summary : Summary}
    (h : (generate paths catalog write).run s = (.ok summary, s')) :
    summary.tracks = Catalog.totalTracks catalog ∧ ∃ t,
      (FileTree.makeDirectories paths.destination).run s.files = (.ok (), t) ∧
        Written paths.source write (Verification.expected paths.destination catalog) t
          s'.files := by
  unfold generate at h
  obtain ⟨_, u, hask, hchecked⟩ := Run.run_bind_ok h
  obtain ⟨_, v, hmade, hmore⟩ := Run.run_bind_ok hchecked
  obtain ⟨_, w, hreport, hall⟩ := Run.run_bind_ok hmore
  obtain ⟨tracks, x, hwritten, hpure⟩ := Run.run_bind_ok hall
  cases hpure
  cases hreport
  obtain rfl : s = u := (Prod.mk.inj hask).2
  obtain ⟨rfl, hw⟩ := writeAlbums_written hwritten
  exact ⟨rfl, v.files, (Run.run_onFiles_ok hmade).1, hw⟩

end Run

/-- The template can be read at its path, and the library is a plain directory away from it. -/
structure Ready (paths : LibraryPaths) (origin d : Nat) (file : Bytes) (t : FileTree) : Prop where
  source : t.resolve paths.source = .ok origin
  template : ∃ mode modified, t.node? origin = some (.file file mode modified)
  destination : t.resolve paths.destination = .ok d
  directory : ∃ parent entries, t.node? d = some (.directory parent entries)
  plain : Plain t d
  apart : ¬ Below t d origin

namespace Ready

variable {paths : LibraryPaths} {origin d : Nat} {file : Bytes} {t t' : FileTree}
  {dirs files : Path → Prop}

/-- What is in the library is below its directory. -/
theorem below (h : Ready paths origin d file t) (hne : paths.destination.bytes ≠ []) {p : Path}
    (hp : InLibrary paths.destination p) {i : Nat} (hi : t.resolve p = .ok i) : Below t d i := by
  obtain ⟨a, b, c, ha, hb, hc, rfl⟩ := hp
  obtain ⟨k, l, _, _, hk, hl, hj⟩ := h.plain.resolve_three hne ha hb hc h.destination hi
  exact .entry (.entry (.entry .top hk) hl) hj

/-- Changes in the library keep the template as it is. -/
theorem template_stays (h : Ready paths origin d file t) (hne : paths.destination.bytes ≠ [])
    (hf : ∀ p, files p → InLibrary paths.destination p) (hc : Changes dirs files t t')
    {mode : Nat} {modified : Instant} (hi : t.node? origin = some (.file file mode modified)) :
    t'.node? origin = some (.file file mode modified) := by
  obtain ⟨parent, entries, hd⟩ := h.directory
  obtain ⟨hplain, hbelow⟩ := h.plain.changes (FileTree.lt_size hd) hc
  rcases hc.file_kept hi with hk | ⟨p, hp, hr⟩
  · exact hk
  obtain ⟨a, b, c, ha, hb, hn, rfl⟩ := hf p hp
  obtain ⟨k, l, _, _, hk, hl, hj⟩ :=
    hplain.resolve_three hne ha hb hn (hc.extends.resolve h.destination) hr
  exact absurd (hbelow origin (FileTree.lt_size hi) (.entry (.entry (.entry .top hk) hl) hj))
    h.apart

/-- Changes in the library keep everything ready for the next track. -/
theorem changes (h : Ready paths origin d file t) (hne : paths.destination.bytes ≠ [])
    (hf : ∀ p, files p → InLibrary paths.destination p) (hc : Changes dirs files t t') :
    Ready paths origin d file t' := by
  obtain ⟨mode, modified, hi⟩ := h.template
  obtain ⟨parent, entries, hd⟩ := h.directory
  obtain ⟨more, hd'⟩ := hc.extends.directory hd
  obtain ⟨hplain, hbelow⟩ := h.plain.changes (FileTree.lt_size hd) hc
  exact ⟨hc.extends.resolve h.source, ⟨mode, modified, h.template_stays hne hf hc hi⟩,
    hc.extends.resolve h.destination, ⟨_, _, hd'⟩, hplain,
    fun hb => h.apart (hbelow origin (FileTree.lt_size hi) hb)⟩

/-- Paths in the library that lead to one node are one path. -/
theorem injective (h : Ready paths origin d file t) (hne : paths.destination.bytes ≠ [])
    {p q : Path} (hp : InLibrary paths.destination p) (hq : InLibrary paths.destination q) {i : Nat}
    (hi : t.resolve p = .ok i) (hi' : t.resolve q = .ok i) : p = q := by
  obtain ⟨a, b, c, ha, hb, hc, rfl⟩ := hp
  obtain ⟨a', b', c', ha', hb', hc', rfl⟩ := hq
  obtain ⟨k, l, _, _, hk, hl, hj⟩ := h.plain.resolve_three hne ha hb hc h.destination hi
  obtain ⟨k', l', _, _, hk', hl', hj'⟩ := h.plain.resolve_three hne ha' hb' hc' h.destination hi'
  obtain ⟨rfl, rfl, rfl⟩ := h.plain.three_injective hk hl hj hk' hl' hj'
  rfl

end Ready

/-- `InTurn holds mode es t t'`: from tree `t` on, the tracks `es` get contents that they may hold,
one after another, with nothing but new directories between them, and then the tree is `t'`. -/
inductive InTurn (holds : Expected → Bytes → Prop) (mode : Nat) :
    List Expected → FileTree → FileTree → Prop
  | done {t t' : FileTree} (h : Changes (fun _ => True) (fun _ => False) t t') :
      InTurn holds mode [] t t'
  | track {e : Expected} {es : List Expected} {t u t' : FileTree} {i : Nat} {out : Bytes}
      {modified : Instant} (hto : Changes (fun _ => True) (· = e.path) t u)
      (hr : u.resolve e.path = .ok i) (hi : u.node? i = some (.file out mode modified))
      (hout : holds e out) (hrest : InTurn holds mode es u t') : InTurn holds mode (e :: es) t t'

/-- A track after which no other one has its path. -/
def Latest (e : Expected) : List Expected → Prop
  | [] => False
  | x :: es => Latest e es ∨ x = e ∧ ∀ y ∈ es, y.path ≠ e.path

/-- At the path of every track one is the latest. -/
theorem exists_latest {e : Expected} {es : List Expected} (h : e ∈ es) :
    ∃ x, Latest x es ∧ x.path = e.path := by
  induction es generalizing e with
  | nil => cases h
  | cons x es ih =>
    by_cases hlater : ∃ y ∈ es, y.path = e.path
    · obtain ⟨y, hy, hp⟩ := hlater
      obtain ⟨z, hz, hzp⟩ := ih hy
      exact ⟨z, Or.inl hz, hzp.trans hp⟩
    · rcases List.mem_cons.mp h with rfl | h
      · exact ⟨e, Or.inr ⟨rfl, fun y hy hp => hlater ⟨y, hy, hp⟩⟩, rfl⟩
      · exact absurd ⟨e, h, rfl⟩ hlater

theorem latest_of_pairwise {e : Expected} {es : List Expected}
    (hd : es.Pairwise fun e e' => e.path ≠ e'.path) (h : e ∈ es) : Latest e es := by
  induction es with
  | nil => cases h
  | cons x es ih =>
    obtain ⟨hother, hd'⟩ := List.pairwise_cons.mp hd
    rcases List.mem_cons.mp h with rfl | h
    · exact Or.inr ⟨rfl, fun y hy => (hother y hy).symm⟩
    · exact Or.inl (ih hd' h)

namespace InTurn

variable {holds : Expected → Bytes → Prop} {mode : Nat} {e : Expected} {es : List Expected}
  {t t' : FileTree}

/-- The tree changes at the paths of the tracks only. -/
theorem changes (h : InTurn holds mode es t t') :
    Changes (fun _ => True) (fun p => ∃ e ∈ es, e.path = p) t t' := by
  induction h with
  | done h => exact h.mono (fun _ h => h) (fun _ h => h.elim)
  | @track e es t u t' i out modified hto hr hi hout hrest ih =>
    have hone : Changes (fun _ => True) (fun p => ∃ x ∈ e :: es, x.path = p) t u :=
      hto.mono (fun _ h => h) fun _ hp => ⟨e, List.mem_cons_self, hp.symm⟩
    exact hone.trans
      (ih.mono (fun _ h => h) fun _ ⟨x, hx, hp⟩ => ⟨x, List.mem_cons_of_mem _ hx, hp⟩)

theorem exists_holds (h : InTurn holds mode es t t') (he : e ∈ es) : ∃ out, holds e out := by
  induction h with
  | done => cases he
  | @track x es t u t' i out modified hto hr hi hout hrest ih =>
    rcases List.mem_cons.mp he with rfl | he
    · exact ⟨out, hout⟩
    · exact ih he

/-- Each path holds what its latest track has put there, if no two paths lead to one node. The
induction is on the tracks; that one of them is still there follows from the tree after all of
them. -/
theorem latest (h : InTurn holds mode es t t')
    (hd : ∀ x ∈ es, ∀ y ∈ es, ∀ i, t'.resolve x.path = .ok i → t'.resolve y.path = .ok i →
      x.path = y.path) (hl : Latest e es) :
    ∃ i out modified, t'.resolve e.path = .ok i ∧
      t'.node? i = some (.file out mode modified) ∧ holds e out := by
  induction h with
  | done => exact hl.elim
  | @track x es t u t' i out modified hto hr hi hout hrest ih =>
    rcases hl with hl | ⟨rfl, hlast⟩
    · exact ih (fun y hy z hz =>
        hd y (List.mem_cons_of_mem _ hy) z (List.mem_cons_of_mem _ hz)) hl
    · have hr' := hrest.changes.extends.resolve hr
      rcases hrest.changes.file_kept hi with hk | ⟨_, ⟨y, hy, rfl⟩, hres⟩
      · exact ⟨i, out, modified, hr', hk, hout⟩
      · exact absurd (hd y (List.mem_cons_of_mem _ hy) x List.mem_cons_self i hres hr')
          (hlast y hy)

end InTurn

/-- Where a copy has been made: a file with the bytes and the mode of the template, or a device. -/
def Copied (file : Bytes) (mode : Nat) (t : FileTree) (i : Nat) : Prop :=
  (∃ modified, t.node? i = some (.file file mode modified)) ∨ t.node? i = some .device

section Written

variable {paths : LibraryPaths} {origin d mode : Nat} {file : Bytes} {modified : Instant}
  {write : TagWriter} {holds : Expected → Bytes → Prop} {es : List Expected} {t t' : FileTree}

/-- The tracks that are written get the contents that the writer gives to copies of the
template. -/
theorem Written.inTurn (h : Written paths.source write es t t')
    (hr : Ready paths origin d file t) (hne : paths.destination.bytes ≠ [])
    (ho : t.node? origin = some (.file file mode modified))
    (hin : ∀ e ∈ es, InLibrary paths.destination e.path)
    (hw : ∀ p tags, (write p tags).Within (fun _ => True) (· = p))
    (hput : ∀ e ∈ es, ∀ (v w : Session) (i : Nat),
      Changes (fun _ => True) (InLibrary paths.destination) t v.files →
      v.files.resolve e.path = .ok i → Copied file mode v.files i →
      (write e.path e.tags).run v = (.ok (), w) →
      ∃ out modified, w.files.node? i = some (.file out mode modified) ∧ holds e out) :
    InTurn holds mode es t t' := by
  induction h with
  | done h => exact .done h
  | @track e es t t' u v w n hbefore hcopy htag hrest ih =>
    have hlib := hin e List.mem_cons_self
    have hone : ∀ p, p = e.path → InLibrary paths.destination p := fun p hp => hp ▸ hlib
    have hcopied := (TrackFile.copy_within (fun _ => True) _ _).changes hcopy
    have htagged := (hw _ _).changes htag
    have hu := hr.changes hne (fun _ h => h.elim) hbefore
    have hv := hu.changes hne hone hcopied
    have hou := hr.template_stays hne (fun _ h => h.elim) hbefore ho
    have hov := hu.template_stays hne hone hcopied hou
    obtain ⟨target, hto, hbytes⟩ := TrackFile.copy_ok hcopy hu.source hou
    have haway : target ≠ origin := by
      rintro rfl
      exact hv.apart (hv.below hne hlib hto)
    have htov : Changes (fun _ => True) (· = e.path) t v.files :=
      (hbefore.mono (fun _ h => h) fun _ h => h.elim).trans hcopied
    obtain ⟨out, written, hnode, hout⟩ := hput e List.mem_cons_self v w target
      (htov.mono (fun _ h => h) hone) hto (hbytes haway) htag
    have htow : Changes (fun _ => True) (· = e.path) t w.files := htov.trans htagged
    refine .track htow (htagged.extends.resolve hto) hnode hout
      (ih (hv.changes hne hone htagged) (hv.template_stays hne hone htagged hov)
        (fun x hx => hin x (List.mem_cons_of_mem _ hx)) fun x hx y z i hy => ?_)
    exact hput x (List.mem_cons_of_mem _ hx) y z i ((htow.mono (fun _ h => h) hone).trans hy)

/-- Tagging gives a track what replacing the tags of the template comes to. -/
theorem Written.tagged (h : Written paths.source TagWriter.id3v2 es t t')
    (hr : Ready paths origin d file t) (hne : paths.destination.bytes ≠ [])
    (ho : t.node? origin = some (.file file mode modified))
    (hin : ∀ e ∈ es, InLibrary paths.destination e.path ∧ ScannedTrack.isAudio e.path = true) :
    InTurn (fun e out => TagWriter.replaceTags e.tags file = .ok out) mode es t t' := by
  apply h.inTurn hr hne ho (fun e he => (hin e he).1) (TagWriter.id3v2_within _)
  intro e he v w i _ hi hcopied htag
  obtain ⟨out, written, hmade, hnode⟩ := TagWriter.id3v2_copied (hin e he).2 hi hcopied htag
  exact ⟨out, written, hnode, hmade⟩

/-- In the end the library is as ready as before, and each path holds what its latest track has put
there. -/
theorem InTurn.ready (h : InTurn holds mode es t t') (hr : Ready paths origin d file t)
    (hne : paths.destination.bytes ≠ []) (hin : ∀ e ∈ es, InLibrary paths.destination e.path) :
    Ready paths origin d file t' ∧ ∀ e, Latest e es → ∃ i out modified,
      t'.resolve e.path = .ok i ∧ t'.node? i = some (.file out mode modified) ∧ holds e out := by
  have hend : Ready paths origin d file t' := by
    refine hr.changes hne ?_ h.changes
    rintro p ⟨e, he, rfl⟩
    exact hin e he
  refine ⟨hend, fun e he => h.latest (fun x hx y hy i hi hi' => ?_) he⟩
  exact hend.injective hne (hin x hx) (hin y hy) hi hi'

end Written

/-- A track is there as it should be: its tag, and behind it the audio of the template. -/
def Holds (audio : Bytes) (t : FileTree) (e : Expected) : Prop :=
  (Id3v2.frameBytes e.tags).length + Id3v2.padding < Id3v2.sizeLimit ∧
    ∃ i mode modified, t.resolve e.path = .ok i ∧
      t.node? i = some (.file (Id3v2.tagBytes e.tags ++ audio) mode modified)

/-- All tracks that were written are there in the end, if no two have the same path. -/
theorem Written.holds {paths : LibraryPaths} {origin d : Nat} {file audio : Bytes}
    {es : List Expected} {t t' : FileTree} (h : Written paths.source TagWriter.id3v2 es t t')
    (hr : Ready paths origin d file t) (ht : AudioFile.IsTemplate file audio)
    (hne : paths.destination.bytes ≠ [])
    (hin : ∀ e ∈ es, InLibrary paths.destination e.path ∧ ScannedTrack.isAudio e.path = true)
    (hd : es.Pairwise fun e e' => e.path ≠ e'.path) :
    Ready paths origin d file t' ∧ ∀ e ∈ es, Holds audio t' e := by
  obtain ⟨mode, modified, ho⟩ := hr.template
  obtain ⟨hend, hall⟩ := (h.tagged hr hne ho hin).ready hr hne fun e he => (hin e he).1
  refine ⟨hend, fun e he => ?_⟩
  obtain ⟨i, out, written, hi, hnode, hmade⟩ := hall e (latest_of_pairwise hd he)
  obtain ⟨hs, rfl⟩ := TagWriter.replaceTags_template ht hmade
  exact ⟨hs, i, mode, written, hi, hnode⟩

end Generation

end TaggedLibrary
