import TaggedLibrary.Proofs.RunChanges
import TaggedLibrary.Proofs.Template
/-!
Writing tags to a file in a tree, and what a scan of the tree shows afterwards. New contents for a
file change neither which files a scan finds nor their order.
-/

namespace TaggedLibrary

open FileTree (Extends)

namespace ScannedTrack

/-- Files of the extension `mp3` are taken for MPEG audio. -/
theorem ofPath?_of_isAudio {p : Path} (h : isAudio p = true) :
    FileKind.ofPath? p = some .mpeg := by
  unfold isAudio at h
  rcases he : p.extension? with _ | extension
  · rw [he] at h
    cases h
  · rw [he] at h
    simp only [Bool.or_eq_true, beq_iff_eq] at h
    rw [FileKind.ofPath?, he]
    rcases h with ((rfl | rfl) | rfl) | rfl <;> rfl

section Listing

variable {t t' : FileTree}

theorem isLink_congr (h : Extends t t') (h' : Extends t' t) (p : Path) :
    isLink t' p = isLink t p := by
  have hiff : ∀ {u u' : FileTree}, Extends u u' → isLink u p = true → isLink u' p = true := by
    intro u u' hu hl
    unfold isLink at hl
    rcases hr : u.resolve p false with e | i
    · rw [hr] at hl
      cases hl
    · rw [hr] at hl
      simp only at hl
      split at hl
      · rename_i target hi
        rw [isLink, hu.resolve hr]
        simp only [hu.link hi]
      · cases hl
  exact Bool.eq_iff_iff.mpr ⟨hiff h', hiff h⟩

/-- Trees of one shape list the same files. -/
theorem audioFiles_congr (h : Extends t t') (h' : Extends t' t) (fuel : Nat) (above : List Nat)
    (p : Path) : audioFiles t' fuel above p = audioFiles t fuel above p := by
  induction fuel generalizing above p with
  | zero => rfl
  | succ fuel ih =>
    rw [audioFiles, audioFiles]
    rcases hr : t.resolve p with e | i
    · rcases hr' : t'.resolve p with e' | j
      · rfl
      · rw [h'.resolve hr'] at hr
        cases hr
    · rw [h.resolve hr]
      simp only
      cases hi : t.node? i with
      | none =>
        cases hi' : t'.node? i with
        | none => rfl
        | some node =>
          have hlt := FileTree.lt_size hi'
          have hge := FileTree.node?_eq_none hi
          have := h'.size
          omega
      | some node =>
        cases node with
        | file bytes mode modified =>
          obtain ⟨_, _, _, hi'⟩ := h.file hi
          rw [hi']
        | device => rw [h.device hi]
        | link target => rw [h.link hi]
        | directory parent entries =>
          rw [h.directory_eq h' hi]
          simp only [isLink_congr h h', ih]

theorem path_ofPath (t : FileTree) (p : Path) : (ofPath t p).path = p := by
  unfold ofPath
  split <;> rfl

/-- The paths of a scan are those of the audio files, in their order. -/
theorem map_path_scan (t : FileTree) (p : Path) : (scan t p).map (·.path) =
    (audioFiles t FileTree.pathLimit [] p).mergeSort fun a b => ¬ b.key < a.key := by
  have hpath : (fun e : ScannedTrack => e.path) ∘ ofPath t = id := funext (path_ofPath t)
  rw [scan, List.map_map, hpath, List.map_id]

/-- Trees of one shape show the same paths in the same order. -/
theorem scan_paths_congr (h : Extends t t') (h' : Extends t' t) (p : Path) :
    (scan t' p).map (·.path) = (scan t p).map (·.path) := by
  rw [map_path_scan, map_path_scan, audioFiles_congr h h']

theorem eq_ofPath_of_mem_scan {p : Path} {e : ScannedTrack} (h : e ∈ scan t p) :
    e = ofPath t e.path := by
  obtain ⟨q, _, rfl⟩ := List.mem_map.mp h
  rw [path_ofPath]

theorem ofPath_of_file {p : Path} {i mode : Nat} {bytes : Bytes} {modified : Instant}
    (hr : t.resolve p = .ok i) (hi : t.node? i = some (.file bytes mode modified)) :
    ofPath t p = ⟨p, fieldsOf bytes⟩ := by
  rw [ofPath, FileTree.read_of_file hr hi]

/-- A file that is scanned by its own path shows what its bytes say. -/
theorem scan_of_file {p : Path} {i mode : Nat} {bytes : Bytes} {modified : Instant}
    (hr : t.resolve p = .ok i) (hi : t.node? i = some (.file bytes mode modified))
    (hp : isAudio p = true) : scan t p = [⟨p, fieldsOf bytes⟩] := by
  have hfiles : audioFiles t FileTree.pathLimit [] p = [p] := by
    rw [show FileTree.pathLimit = 4095 + 1 from rfl, audioFiles, hr]
    simp only [hi, hp, if_true]
  rw [scan, hfiles, List.mergeSort_singleton, List.map_singleton, ofPath_of_file hr hi]

end Listing

end ScannedTrack

namespace TagWriter

section Run

variable {t : FileTree} {p : Path} {i mode : Nat} {bytes : Bytes} {modified : Instant}

theorem run_overwrite_file (hr : t.resolve p = .ok i)
    (hi : t.node? i = some (.file bytes mode modified)) (out : Bytes) :
    (FileTree.overwrite p out).run t = (.ok (), FileTree.putBytes i out t) := by
  have hopen : t.openExisting p = .ok i := by
    simp only [FileTree.openExisting, hr, bind, Except.bind, hi]
  rw [FileTree.overwrite, FileTree.run_onExisting p (fun i => FileTree.putBytes i out), hopen]

/-- Changing a file gives it the bytes that come out of its own. -/
theorem run_change_file (hr : t.resolve p = .ok i)
    (hi : t.node? i = some (.file bytes mode modified)) (f : Bytes → Except TagError Bytes) :
    (change p f).run t = match f bytes with
      | .error e => (.error e, t)
      | .ok out => (.ok (), FileTree.putBytes i out t) := by
  rw [run_change, FileTree.read_of_file hr hi]
  dsimp only
  rcases f bytes with e | out
  · rfl
  · dsimp only
    rw [run_overwrite_file hr hi]
    rfl

theorem inspect_of_file (hp : ScannedTrack.isAudio p = true) (hr : t.resolve p = .ok i)
    (hi : t.node? i = some (.file bytes mode modified)) :
    inspect t p = (AudioFile.read bytes).map fun tags => (FileKind.mpeg, tags) := by
  simp only [inspect, hr, ScannedTrack.ofPath?_of_isAudio hp, FileTree.read_of_file hr hi, bind, Except.bind,
    FileKind.readTags]
  rcases AudioFile.read bytes with e | tags <;> rfl

end Run

/-- Cuts a tag off if one was found. -/
def cutIf (present : Bool) (cut : Bytes → Except TagError Bytes) (bytes : Bytes) :
    Except TagError Bytes :=
  if present then cut bytes else .ok bytes

/-- What becomes of the bytes of an audio file whose tags are replaced: the tags found at its end
are cut off, and the new one is put in front. -/
def replaceTags (tags : TrackTags) (bytes : Bytes) : Except TagError Bytes := do
  let found ← AudioFile.read bytes
  let bytes ← cutIf found.id3v1.isSome AudioFile.removeId3v1 bytes
  let bytes ← cutIf found.ape.isSome AudioFile.removeApe bytes
  AudioFile.putId3v2 tags bytes

section Write

variable {s : Session} {p : Path} {i mode : Nat} {bytes : Bytes} {modified : Instant}

theorem putBytes_putBytes {t : FileTree} (hi : t.node? i = some (.file bytes mode modified))
    (b b' : Bytes) :
    FileTree.putBytes i b' (FileTree.putBytes i b t) = FileTree.putBytes i b' t := by
  rw [FileTree.putBytes_of_file (FileTree.node?_putBytes hi b), FileTree.putBytes_of_file hi,
    FileTree.setNode_setNode, FileTree.putBytes_of_file hi]
  rfl

/-- A file is open to be changed at its path while it is changed. -/
structure Open (p : Path) (i mode : Nat) (bytes : Bytes) (t : FileTree) : Prop where
  resolve : t.resolve p = .ok i
  node : ∃ modified, t.node? i = some (.file bytes mode modified)

theorem Open.putBytes {t : FileTree} (h : Open p i mode bytes t) (out : Bytes) :
    Open p i mode out (FileTree.putBytes i out t) := by
  obtain ⟨modified, hi⟩ := h.node
  exact ⟨(FileTree.putBytes_rewritten i out t).extends.resolve h.resolve, _,
    FileTree.node?_putBytes hi out⟩

/-- While a file is changed over and over, the rest of the session stays as it was, and the next
change makes up for all before it. -/
structure Midway (p : Path) (i mode : Nat) (s : Session) (bytes : Bytes) (u : Session) : Prop where
  opened : Open p i mode bytes u.files
  rest : u = { s with files := u.files }
  last : ∀ out, FileTree.putBytes i out u.files = FileTree.putBytes i out s.files

namespace Midway

variable {u : Session}

theorem refl (h : Open p i mode bytes s.files) : Midway p i mode s bytes s :=
  ⟨h, rfl, fun _ => rfl⟩

theorem put (h : Midway p i mode s bytes u) (out : Bytes) :
    Midway p i mode s out { u with files := FileTree.putBytes i out u.files } where
  opened := h.opened.putBytes out
  rest := by rw [h.rest]
  last := fun b => by
    obtain ⟨modified, hi⟩ := h.opened.node
    rw [putBytes_putBytes hi, h.last]

end Midway

/-- An operation that comes to nothing but new bytes for the file, or fails as their making does. -/
def Settles (p : Path) (i : Nat) (s u : Session) (op : Run Unit) (made : Except TagError Bytes) :
    Prop :=
  (∃ e s', op.run u = (.error (.tag p e), s') ∧ made = .error e) ∨
    ∃ out, op.run u = (.ok (), { s with files := FileTree.putBytes i out s.files }) ∧
      made = .ok out

theorem settles_change {u : Session} (h : Midway p i mode s bytes u)
    (f : Bytes → Except TagError Bytes) :
    Settles p i s u (Run.onFiles (.tag p) (change p f)) (f bytes) := by
  obtain ⟨modified, hi⟩ := h.opened.node
  have hrun := run_change_file h.opened.resolve hi f
  rcases hf : f bytes with e | out
  · rw [hf] at hrun
    refine Or.inl ⟨e, u, ?_, rfl⟩
    rw [Run.run_onFiles, hrun]
    rfl
  · rw [hf] at hrun
    refine Or.inr ⟨out, ?_, rfl⟩
    rw [Run.run_onFiles, hrun, h.rest]
    simp only [h.last]
    rfl

/-- One change after another. -/
theorem settles_change_bind {u : Session} (h : Midway p i mode s bytes u)
    (f g : Bytes → Except TagError Bytes) (next : Run Unit)
    (hn : ∀ v out, Midway p i mode s out v → Settles p i s v next (g out)) :
    Settles p i s u (Run.onFiles (.tag p) (change p f) >>= fun _ => next) (f bytes >>= g) := by
  obtain ⟨modified, hi⟩ := h.opened.node
  have hrun := run_change_file h.opened.resolve hi f
  rcases hf : f bytes with e | out
  · rw [hf] at hrun
    refine Or.inl ⟨e, u, ?_, rfl⟩
    rw [Run.run_bind, Run.run_onFiles, hrun]
    rfl
  · rw [hf] at hrun
    have hnext := hn _ out (h.put out)
    rw [Settles, Run.run_bind, Run.run_onFiles, hrun]
    exact hnext

theorem Settles.during {u : Session} {op : Run Unit} {made : Except TagError Bytes}
    (h : Settles p i s u op made) (a : Activity) : Settles p i s u (Run.during a op) made := by
  rcases h with ⟨e, s', ho, hm⟩ | ⟨out, ho, hm⟩
  · refine Or.inl ⟨e, { s' with events := s'.events ++ [.failed a (.tag p e)] }, ?_, hm⟩
    rw [Run.run_during, ho]
  · refine Or.inr ⟨out, ?_, hm⟩
    rw [Run.run_during, ho]

/-- Writing tags to an audio file replaces its bytes, if that can be done, and leaves the rest of
the session as it was. -/
theorem run_id3v2 (hp : ScannedTrack.isAudio p = true) (h : Open p i mode bytes s.files)
    (tags : TrackTags) : Settles p i s s (id3v2 p tags) (replaceTags tags bytes) := by
  obtain ⟨modified, hi⟩ := h.node
  have hinspect := inspect_of_file hp h.resolve hi
  have hput : ∀ v out, Midway p i mode s out v → Settles p i s v
      (Run.onFiles (.tag p) (change p (AudioFile.putId3v2 tags))) (AudioFile.putId3v2 tags out) :=
    fun v out hv => settles_change hv _
  refine Settles.during ?_ _
  rw [Settles, Run.run_bind, Run.run_onFiles, Disk.run_ask, hinspect, replaceTags]
  rcases AudioFile.read bytes with e | found
  · exact Or.inl ⟨e, s, rfl, rfl⟩
  have hape : ∀ v out, Midway p i mode s out v → Settles p i s v
      (if found.ape.isSome = true then do
        Run.onFiles (.tag p) (change p AudioFile.removeApe)
        Run.onFiles (.tag p) (change p (AudioFile.putId3v2 tags))
      else Run.onFiles (.tag p) (change p (AudioFile.putId3v2 tags)))
      (cutIf found.ape.isSome AudioFile.removeApe out >>= AudioFile.putId3v2 tags) := by
    intro v out hv
    cases found.ape.isSome with
    | true => exact settles_change_bind hv _ _ _ hput
    | false => exact hput v out hv
  change Settles p i s s
    (if found.id3v1.isSome = true then do
      Run.onFiles (.tag p) (change p AudioFile.removeId3v1)
      if found.ape.isSome = true then do
        Run.onFiles (.tag p) (change p AudioFile.removeApe)
        Run.onFiles (.tag p) (change p (AudioFile.putId3v2 tags))
      else Run.onFiles (.tag p) (change p (AudioFile.putId3v2 tags))
    else
      if found.ape.isSome = true then do
        Run.onFiles (.tag p) (change p AudioFile.removeApe)
        Run.onFiles (.tag p) (change p (AudioFile.putId3v2 tags))
      else Run.onFiles (.tag p) (change p (AudioFile.putId3v2 tags)))
    (cutIf found.id3v1.isSome AudioFile.removeId3v1 bytes >>=
      fun out => cutIf found.ape.isSome AudioFile.removeApe out >>= AudioFile.putId3v2 tags)
  cases found.id3v1.isSome with
  | true => exact settles_change_bind (.refl h) _ _ _ hape
  | false => exact hape s bytes (.refl h)

end Write

/-- New contents for a file change nothing that a scan looks at to find files. -/
theorem putBytes_shape {t : FileTree} {i mode : Nat} {bytes : Bytes} {modified : Instant}
    (hi : t.node? i = some (.file bytes mode modified)) (out : Bytes) :
    Extends t (FileTree.putBytes i out t) ∧ Extends (FileTree.putBytes i out t) t := by
  have hput : FileTree.Rewritten i t (FileTree.putBytes i out t) :=
    Or.inr ⟨_, _, _, _, _, _, hi, by simp only [FileTree.putBytes, hi]; rfl⟩
  exact ⟨hput.extends, hput.back⟩

/-- Tags that are written to audio without tags come back in every scan that meets the file: the
numbers and the year as they were given, the other texts trimmed, and none where nothing but white
space was given. Which files are met does not change. -/
theorem id3v2_then_scan {s : Session} {p : Path} (hp : ScannedTrack.isAudio p = true)
    {i mode : Nat} {audio : Bytes} {modified : Instant} (hr : s.files.resolve p = .ok i)
    (hi : s.files.node? i = some (.file audio mode modified)) (hb : AudioFile.IsBareAudio audio)
    {t : TrackTags} (ht : t.Plain)
    (hs : (Id3v2.frameBytes t).length + Id3v2.padding < Id3v2.sizeLimit) :
    ∃ s', (id3v2 p t).run s = (.ok (), s') ∧ ScannedTrack.scan s'.files p = [⟨p, t.shown⟩] ∧
      ∀ dir, (ScannedTrack.scan s'.files dir).map (·.path) =
          (ScannedTrack.scan s.files dir).map (·.path) ∧
        ∀ e ∈ ScannedTrack.scan s'.files dir, s'.files.resolve e.path = .ok i →
          e.fields = t.shown := by
  have hmade : replaceTags t audio = .ok (Id3v2.tagBytes t ++ audio) := by
    rw [replaceTags, hb.read_eq]
    exact hb.putId3v2_eq hs
  rcases run_id3v2 hp ⟨hr, modified, hi⟩ t with ⟨e, s', _, he⟩ | ⟨out, hrun, hout⟩
  · rw [hmade] at he
    cases he
  rw [hmade] at hout
  obtain rfl := Except.ok.inj hout
  obtain ⟨hgrow, hback⟩ := putBytes_shape hi (Id3v2.tagBytes t ++ audio)
  have hnode := FileTree.node?_putBytes hi (Id3v2.tagBytes t ++ audio)
  have hshown := AudioFile.fieldsOf_tagBytes hb ht hs
  refine ⟨_, hrun, ?_, fun dir => ⟨ScannedTrack.scan_paths_congr hgrow hback dir, ?_⟩⟩
  · rw [ScannedTrack.scan_of_file (hgrow.resolve hr) hnode hp, hshown]
  · intro e he hres
    rw [ScannedTrack.eq_ofPath_of_mem_scan he, ScannedTrack.ofPath_of_file hres hnode, hshown]

/-- Tags with white space around a title, a blank artist and letters beyond ASCII. -/
def someTags : TrackTags :=
  { title := " Grüße 世界\n", artist := " \t", albumArtist := "Ψ", album := "A\u00a0B"
    track := 4294967295, trackTotal := 0, disc := 1, discTotal := 10, year := "0099", genre := "Trip Hop" }

theorem plain_someTags : someTags.Plain := by
  refine ⟨⟨?_, ?_, ?_, ?_, ?_⟩, ?_, ?_, ?_, ?_⟩ <;> simp [someTags, Numeral.isDigit]

theorem id3v2_then_scan_someTags :
    ∃ s', (id3v2 (Path.ofString "t.mp3") someTags).run ⟨oneTemplate, [], []⟩ = (.ok (), s') ∧
      ScannedTrack.scan s'.files (Path.ofString "t.mp3") =
        [⟨Path.ofString "t.mp3", someTags.shown⟩] ∧
      someTags.shown.title = some "Grüße 世界" ∧ someTags.shown.artist = none := by
  have hr : oneTemplate.resolve (Path.ofString "t.mp3") = .ok 1 := by rfl
  have hi : oneTemplate.node? 1 = some (.file AudioFile.silence 0o644 ⟨0, 0⟩) := by rfl
  set_option maxRecDepth 20000 in
  obtain ⟨s', hrun, hscan, _⟩ := id3v2_then_scan (s := ⟨oneTemplate, [], []⟩) (by decide) hr
    hi AudioFile.isBareAudio_silence plain_someTags (by decide)
  exact ⟨s', hrun, hscan, by decide, by decide⟩

end TagWriter

end TaggedLibrary
