import TaggedLibrary.Proofs.ExpectedTracks
import TaggedLibrary.Proofs.PlainTree
import TaggedLibrary.Proofs.SourceKept
/-!
The frame of a run, which holds however the run ends: nothing that was there goes away or turns
into something else, a file keeps its contents unless a track leads to it, and what is new are
directories on the way to the albums and files at the paths of the tracks. A run complains of a
missing template exactly when there is none, and then it has done nothing.
-/

namespace TaggedLibrary

open FileTree (Below Changes Extends IsEntry Plain refuse?)

namespace Run

variable {α β ε : Type} {P : LibraryError → Prop}

/-- An operation whose errors are all of one sort. -/
def Raises (P : LibraryError → Prop) (op : Run α) : Prop :=
  ∀ s e s', op.run s = (.error e, s') → P e

theorem raises_pure (a : α) : (pure a : Run α).Raises P := fun _ _ _ h => by cases h

theorem raises_report (e : Event) : (report e).Raises P := fun _ _ _ h => by cases h

theorem raises_fail {e : LibraryError} (he : P e) : (fail e : Run α).Raises P := by
  intro s e' s' h
  cases h
  exact he

theorem Raises.bind {op : Run α} {f : α → Run β} (h : op.Raises P) (hf : ∀ a, (f a).Raises P) :
    (op >>= f).Raises P := by
  intro s e s' hrun
  rw [run_bind] at hrun
  rcases ho : op.run s with ⟨e' | a, mid⟩
  · rw [ho] at hrun
    cases hrun
    exact h s _ _ ho
  · rw [ho] at hrun
    exact hf a mid e s' hrun

theorem raises_onFiles {wrap : ε → LibraryError} (hw : ∀ e, P (wrap e)) (op : Disk ε α) :
    (onFiles wrap op).Raises P := by
  intro s e s' h
  rw [run_onFiles] at h
  rcases ho : op.run s.files with ⟨e' | a, t⟩
  · rw [ho] at h
    cases h
    exact hw e'
  · rw [ho] at h
    cases h

theorem Raises.during {op : Run α} (h : op.Raises P) (a : Activity) : (during a op).Raises P := by
  intro s e s' hrun
  rw [run_during] at hrun
  rcases ho : op.run s with ⟨e' | r, mid⟩
  · rw [ho] at hrun
    cases hrun
    exact h s _ _ ho
  · rw [ho] at hrun
    cases hrun

end Run

namespace TagWriter

/-- Writing tags fails with what went wrong about the tags, or because the file has no room for
them. -/
theorem id3v2_raises {P : LibraryError → Prop} {p : Path} (ht : ∀ e, P (.tag p e))
    (hu : P (.unsupportedFormat p)) (tags : TrackTags) : (id3v2 p tags).Raises P := by
  have hchange : ∀ f, (Run.onFiles (.tag p) (change p f)).Raises P :=
    fun f => Run.raises_onFiles ht _
  refine Run.Raises.during ?_ _
  apply Run.Raises.bind (Run.raises_onFiles ht _)
  rintro ⟨kind, found⟩
  simp only
  split
  · exact Run.raises_fail hu
  · have hape : (if found.ape.isSome = true then do
        Run.onFiles (.tag p) (change p AudioFile.removeApe)
        Run.onFiles (.tag p) (change p (AudioFile.putId3v2 tags))
        else Run.onFiles (.tag p) (change p (AudioFile.putId3v2 tags))).Raises P := by
      split
      · exact (hchange _).bind fun _ => hchange _
      · exact hchange _
    split
    · exact (hchange _).bind fun _ => hape
    · exact hape

end TagWriter

namespace Generation

section Raises

variable {P : LibraryError → Prop} {write : TagWriter}

theorem writeTracks_raises (hio : ∀ p e, P (.io p e)) (hw : ∀ p tags, (write p tags).Raises P)
    (template directory : Path) (album : Album) (tracks : List (UInt32 × String)) :
    (writeTracks template directory write album tracks).Raises P := by
  have hcopy : ∀ dest, (TrackFile.copy template dest).Raises P := fun dest =>
    Run.Raises.during ((Run.raises_onFiles (hio dest) _).bind fun _ =>
      (Run.raises_onFiles (hio template) _).bind fun _ =>
      (Run.raises_onFiles (hio dest) _).bind fun _ => Run.raises_pure _) _
  induction tracks with
  | nil => exact Run.raises_pure _
  | cons track rest ih =>
    have hone : (writeTrack template directory write album track).Raises P :=
      (hcopy _).bind fun _ => (hw _ _).bind fun _ => Run.raises_report _
    exact hone.bind fun _ => ih.bind fun _ => Run.raises_pure _

/-- Beyond the errors of its writer, writing albums has only those of the file system. -/
theorem writeAlbums_raises (hio : ∀ p e, P (.io p e)) (hw : ∀ p tags, (write p tags).Raises P)
    (paths : LibraryPaths) (catalog : Catalog) : (writeAlbums paths write catalog).Raises P := by
  induction catalog with
  | nil => exact Run.raises_pure _
  | cons album rest ih =>
    have hmade : (TrackFile.makeAlbumDirectory paths.destination album.artist
        album.title).Raises P :=
      Run.Raises.during ((Run.raises_onFiles (hio _) _).bind fun _ => Run.raises_pure _) _
    have hone : (writeAlbum paths write album).Raises P :=
      hmade.bind fun _ => (Run.raises_report _).bind fun _ => writeTracks_raises hio hw _ _ _ _
    exact hone.bind fun _ => ih.bind fun _ => Run.raises_pure _

end Raises

section Cases

variable {paths : LibraryPaths} {catalog : Catalog} {write : TagWriter} {s s' : Session}
  {result : Except LibraryError Summary}

/-- A run that finds no template stops at once. -/
theorem generate_missing (h : s.files.isFile paths.source = false) :
    (generate paths catalog write).run s = (.error (.missingTemplate paths.source), s) := by
  rw [generate, Run.run_bind, Run.run_ask, if_neg (by simp [h])]

/-- A run with a template stops at the destination, if that cannot be made, or goes on to the
albums. -/
theorem generate_cases (hfile : s.files.isFile paths.source = true)
    (h : (generate paths catalog write).run s = (result, s')) :
    (∃ e, (FileTree.makeDirectories paths.destination).run s.files = (.error e, s'.files) ∧
      result = .error (.io paths.destination e)) ∨
    ∃ t events made, (FileTree.makeDirectories paths.destination).run s.files = (.ok (), t) ∧
      (writeAlbums paths write catalog).run { s with files := t, events } = (made, s') ∧
      result = made.map fun tracks => ⟨tracks, catalog.length, paths.destination⟩ := by
  rw [generate, Run.run_bind, Run.run_ask, if_pos hfile] at h
  simp only [Run.run_bind, Run.run_onFiles] at h
  rcases hd : (FileTree.makeDirectories paths.destination).run s.files with ⟨e | _, t⟩
  · rw [hd] at h
    cases h
    exact Or.inl ⟨e, rfl, rfl⟩
  · rw [hd] at h
    simp only [Except.mapError, Run.run_report] at h
    rcases hw : (writeAlbums paths write catalog).run { s with
        files := t, events := s.events ++ [.started catalog.length (Catalog.totalTracks catalog)
          paths.source] } with ⟨e | tracks, u⟩
    · rw [hw] at h
      cases h
      exact Or.inr ⟨t, _, _, rfl, hw, rfl⟩
    · rw [hw] at h
      cases h
      exact Or.inr ⟨t, _, _, rfl, hw, rfl⟩

/-- A run that succeeds has found the template, made the destination and written the albums. -/
theorem generate_ok {summary : Summary}
    (h : (generate paths catalog write).run s = (.ok summary, s')) :
    s.files.isFile paths.source = true ∧ ∃ t events tracks,
      (FileTree.makeDirectories paths.destination).run s.files = (.ok (), t) ∧
      (writeAlbums paths write catalog).run { s with files := t, events } = (.ok tracks, s') ∧
      summary = ⟨tracks, catalog.length, paths.destination⟩ := by
  cases hfile : s.files.isFile paths.source with
  | false =>
    rw [generate_missing hfile] at h
    cases h
  | true =>
    refine ⟨rfl, ?_⟩
    rcases generate_cases hfile h with ⟨_, _, he⟩ | ⟨t, events, made, hmade, hrun, he⟩
    · cases he
    · cases made with
      | error e => cases he
      | ok tracks => exact ⟨t, events, tracks, hmade, hrun, Except.ok.inj he⟩

/-- A missing template is all that a run complains of in this way. -/
theorem source_of_missingTemplate {p : Path}
    (hw : ∀ q tags, (write q tags).Raises fun e => ∀ p, e ≠ .missingTemplate p)
    (h : (generate paths catalog write).run s = (.error (.missingTemplate p), s')) :
    p = paths.source ∧ s.files.isFile paths.source = false := by
  cases hfile : s.files.isFile paths.source with
  | false =>
    rw [generate_missing hfile] at h
    cases h
    exact ⟨rfl, rfl⟩
  | true =>
    rcases generate_cases hfile h with ⟨_, _, he⟩ | ⟨t, events, made, _, hmade, he⟩
    · cases he
    · rcases made with e | tracks
      · obtain rfl : LibraryError.missingTemplate p = e := Except.error.inj he
        exact absurd rfl
          (writeAlbums_raises (fun _ _ _ => by simp) hw paths catalog _ _ _ hmade p)
      · cases he

end Cases

/-- A destination for a library. The root is a directory, as in every file system; the destination
goes down from there or from the current directory, and if something is there, it is plain. -/
structure Site (destination : Path) (t : FileTree) : Prop where
  root : ∃ parent entries, t.node? t.root = some (.directory parent entries)
  nonempty : destination.bytes ≠ []
  down : .parent ∉ destination.components
  plain : ∀ d, t.resolve destination = .ok d → Plain t d

/-- Once the destination has been made, it is a plain directory: the one that was there, or an
empty one. -/
theorem Site.made {destination : Path} {t t' : FileTree} (hs : Site destination t)
    (hr : refuse? destination = none)
    (h : (FileTree.makeDirectories destination).run t = (.ok (), t')) :
    ∃ d parent entries, t'.resolve destination = .ok d ∧
      t'.node? d = some (.directory parent entries) ∧ Plain t' d ∧
      (t' = t ∨ t.nodes.size ≤ d ∧ entries = []) := by
  rcases FileTree.makeDirectories_ok hs.down h with
    (⟨rfl, d, parent, entries, hd, hnode⟩ | ⟨d, parent, hnew, hd, hnode⟩) | ⟨rfl, hempty | hroot⟩
  · exact ⟨d, parent, entries, hd, hnode, hs.plain d hd, Or.inl rfl⟩
  · exact ⟨d, parent, [], hd, hnode, (FileTree.plain_of_empty hnode).1, Or.inr ⟨hnew, rfl⟩⟩
  · exact absurd hempty (Path.components_ne_nil hs.nonempty)
  · obtain ⟨parent, entries, hnode⟩ := hs.root
    have hd := FileTree.resolve_root hr hroot hnode
    exact ⟨_, parent, entries, hd, hnode, hs.plain _ hd, Or.inl rfl⟩

/-- A path in the library is one that the system takes only if that to the library is. -/
theorem refuse?_of_inLibrary {root p : Path} (hne : root.bytes ≠ [])
    (hp : Verification.InLibrary root p) (hr : refuse? p = none) : refuse? root = none := by
  obtain ⟨a, b, c, ha, hb, hc, rfl⟩ := hp
  have hne1 := Path.bytes_join_ne_nil hne ha
  have hne2 := Path.bytes_join_ne_nil hne1 hb
  exact FileTree.refuse?_of_join hne ha
    (FileTree.refuse?_of_join hne1 hb (FileTree.refuse?_of_join hne2 hc hr))

/-- Directories on the way to the albums of a catalog, by their steps: those down to the
destination, those of the artists and those of the albums. -/
def OnTheWay (destination : Path) (catalog : Catalog) (p : Path) : Prop :=
  p.components <+: destination.components ∨ ∃ album ∈ catalog,
    p.Same (destination.joinText album.artist) ∨
      p.Same (TrackFile.albumDirectory destination album.artist album.title)

theorem onTheWay_of_made {destination p : Path} {catalog : Catalog}
    (hne : destination.bytes ≠ []) (hn : ∀ a ∈ catalog, a.Named)
    (h : MadeDirectory destination catalog p) : OnTheWay destination catalog p := by
  rcases h with h | ⟨album, ha, h⟩
  · exact Or.inl (FileTree.components_of_mem_ancestors h)
  have hprefix := FileTree.components_of_mem_ancestors h
  have hartist := Path.components_join hne (hn album ha).artist
  have halbum := Path.components_join (Path.bytes_join_ne_nil hne (hn album ha).artist)
    (hn album ha).title
  rw [TrackFile.albumDirectory, Path.joinText, Path.joinText, Path.ofString, Path.ofString, halbum,
    List.prefix_concat_iff] at hprefix
  rcases hprefix with hsame | hprefix
  · exact Or.inr ⟨album, ha, Or.inr (hsame.trans halbum.symm)⟩
  rw [hartist, List.prefix_concat_iff] at hprefix
  rcases hprefix with hsame | hprefix
  · exact Or.inr ⟨album, ha, Or.inl (hsame.trans hartist.symm)⟩
  · exact Or.inl hprefix

/-- What a run leaves alone, between the tree before it and the tree after it. -/
structure Frame (destination : Path) (catalog : Catalog) (t t' : FileTree) : Prop where
  /-- nothing is removed, and nothing turns into something else -/
  grows : Extends t t'
  /-- a file that no track leads to keeps its contents, its mode and its time -/
  kept : ∀ {i mode : Nat} {bytes : Bytes} {modified : Instant},
    t.node? i = some (.file bytes mode modified) →
    (∀ e ∈ Verification.expected destination catalog, t.resolve e.path ≠ .ok i) →
    t'.node? i = some (.file bytes mode modified)
  /-- what is new is a directory on the way to an album, or a file at the path of a track -/
  fresh : ∀ {i : Nat} {node : Node}, t.node? i = none → t'.node? i = some node →
    (∃ p parent entries, OnTheWay destination catalog p ∧ t'.resolve p = .ok i ∧
      node = .directory parent entries) ∨
    ∃ e ∈ Verification.expected destination catalog, t'.resolve e.path = .ok i ∧
      ∃ bytes mode modified, node = .file bytes mode modified
  /-- a new name is that of a new node -/
  names : ∀ {i child : Nat} {n : Bytes}, IsEntry t' i n child →
    IsEntry t i n child ∨ t.node? child = none

section Frame

variable {paths : LibraryPaths} {catalog : Catalog} {s s' : Session}
  {result : Except LibraryError Summary}

/-- A file that was there keeps its contents unless a track has led to it all along: where the
destination is new, nothing old is below it, and where it was there, it is plain. -/
theorem run_keeps_old_file (hn : ∀ a ∈ catalog, a.Named) (hs : Site paths.destination s.files)
    (h : (generate paths catalog TagWriter.id3v2).run s = (result, s'))
    {i mode : Nat} {bytes : Bytes} {modified : Instant}
    (hi : s.files.node? i = some (.file bytes mode modified))
    (ht : ∀ e ∈ Verification.expected paths.destination catalog,
      s.files.resolve e.path ≠ .ok i) :
    s'.files.node? i = some (.file bytes mode modified) := by
  cases hfile : s.files.isFile paths.source with
  | false =>
    rw [generate_missing hfile] at h
    cases h
    exact hi
  | true =>
    rcases generate_cases hfile h with ⟨e, hmade, _⟩ | ⟨t, events, made, hmade, hrun, _⟩
    · exact (FileTree.changes_of_makeDirectories hmade _).file_stays hi
    have hi' := (FileTree.changes_of_makeDirectories hmade _).file_stays hi
    have hwithin : (writeAlbums paths TagWriter.id3v2 catalog).Within (fun _ => True)
        (WrittenFile paths.destination catalog) :=
      writeAlbums_within (TagWriter.id3v2_within _) paths catalog (fun _ _ => trivial) fun _ h => h
    have hc := hwithin.changes hrun
    rcases hc.file_kept hi' with hk | ⟨p, ⟨e, he, rfl⟩, hp⟩
    · exact hk
    obtain ⟨hlib, _⟩ := Verification.inLibrary_of_expected hs.nonempty hn he
    have hr := refuse?_of_inLibrary hs.nonempty hlib (FileTree.resolve_eq_ok.mp hp).1
    obtain ⟨d, parent, entries, hd, hnode, hplain, hthere⟩ := hs.made hr hmade
    obtain ⟨a, b, c, ha, hb, hc', hpath⟩ := hlib
    rw [hpath] at hp
    have hold := hplain.resolve_three_old (FileTree.lt_size hnode) hc hs.nonempty ha hb hc' hd hp
      (FileTree.lt_size hi')
    rcases hthere with rfl | ⟨_, rfl⟩
    · rw [← hpath] at hold
      exact absurd hold (ht e he)
    · obtain ⟨k, _, _, _, ⟨_, _, hempty, hmem⟩, _⟩ :=
        hplain.resolve_three hs.nonempty ha hb hc' hd hold
      rw [hnode] at hempty
      cases hempty
      cases hmem

/-- However a run ends, what it changes stays within its frame. -/
theorem run_frame (hn : ∀ a ∈ catalog, a.Named) (hs : Site paths.destination s.files)
    (h : (generate paths catalog TagWriter.id3v2).run s = (result, s')) :
    Frame paths.destination catalog s.files s'.files := by
  have hc := (generate_within paths catalog (TagWriter.id3v2_within _)).changes h
  refine ⟨hc.extends, fun hi ht => run_keeps_old_file hn hs h hi ht, fun hi hnode => ?_,
    fun he => ?_⟩
  · rcases hc.fresh hi hnode with ⟨p, parent, entries, hp, hr, rfl⟩ |
      ⟨p, bytes, mode, modified, ⟨e, he, rfl⟩, hr, rfl⟩
    · exact Or.inl ⟨p, parent, entries, onTheWay_of_made hs.nonempty hn hp, hr, rfl⟩
    · exact Or.inr ⟨e, he, hr, bytes, mode, modified, rfl⟩
  · rcases hc.isEntry he with hold | hnew
    · exact Or.inl hold
    · exact Or.inr (Array.getElem?_eq_none hnew)

/-- A run on any tree keeps within its frame, whatever it returns, and it returns that the template
is missing exactly when it is; then nothing has changed. -/
theorem run_frame_and_missing (hn : ∀ a ∈ catalog, a.Named)
    (hs : Site paths.destination s.files)
    (h : (generate paths catalog TagWriter.id3v2).run s = (result, s')) :
    Frame paths.destination catalog s.files s'.files ∧
      (s.files.isFile paths.source = false →
        result = .error (.missingTemplate paths.source) ∧ s' = s) ∧
      ∀ p, result = .error (.missingTemplate p) →
        p = paths.source ∧ s.files.isFile paths.source = false := by
  refine ⟨run_frame hn hs h, fun hfile => ?_, fun p hp => ?_⟩
  · rw [generate_missing hfile] at h
    cases h
    exact ⟨rfl, rfl⟩
  · subst hp
    exact source_of_missingTemplate
      (fun q tags => TagWriter.id3v2_raises (fun _ _ => by simp) (fun _ => by simp) tags) h

/-- Two albums of one artist. -/
def twoAlbums : Catalog :=
  [{ artist := "A", title := "B", year := "1998", genre := "Pop", tracks := ["T"] },
   { artist := "A", title := "C", year := "1999", genre := "Rock", tracks := ["U", "V"] }]

theorem named_twoAlbums : ∀ a ∈ twoAlbums, a.Named := by
  intro a ha
  rcases List.mem_cons.mp ha with rfl | ha
  · exact ⟨⟨by decide, by decide, by decide, by decide⟩,
      ⟨by decide, by decide, by decide, by decide⟩,
      by decide⟩
  · obtain rfl := List.mem_singleton.mp ha
    exact ⟨⟨by decide, by decide, by decide, by decide⟩,
      ⟨by decide, by decide, by decide, by decide⟩,
      by decide⟩

/-- A library in which a file has the name of the second album. -/
def blocked : FileTree :=
  { nodes := #[.directory 0 [(Utf8.encode "t.mp3", 1), (Utf8.encode "M", 2)],
      .file AudioFile.silence 0o644 ⟨0, 0⟩, .directory 0 [(Utf8.encode "A", 3)],
      .directory 2 [(Utf8.encode "C", 4)], .file [1, 2, 3] 0o600 ⟨7, 0⟩]
    root := 0, current := 0 }

theorem site_blocked : Site intoM.destination blocked :=
  ⟨⟨0, _, by rfl⟩, by decide, by decide,
    fun d _ => FileTree.plain_of_ownNodes (by decide) d⟩

/-- The second album cannot be made; the first one stays, and the file in the way is as it was. -/
theorem run_frame_and_missing_blocked :
    ((generate intoM twoAlbums TagWriter.id3v2).run ⟨blocked, [], []⟩).1 =
        .error (.io (Path.ofString "M/A/C") .alreadyExists) ∧
      Frame intoM.destination twoAlbums blocked
        ((generate intoM twoAlbums TagWriter.id3v2).run ⟨blocked, [], []⟩).2.files ∧
      ((generate intoM twoAlbums TagWriter.id3v2).run ⟨blocked, [], []⟩).2.files.node? 4 =
        some (.file [1, 2, 3] 0o600 ⟨7, 0⟩) := by
  have hframe := (run_frame_and_missing named_twoAlbums site_blocked
    (s := ⟨blocked, [], []⟩) (Prod.eta _).symm).1
  refine ⟨by decide +kernel, hframe, hframe.kept (by rfl) fun e he => ?_⟩
  have htracks : ∀ e ∈ Verification.expected intoM.destination twoAlbums,
      (blocked.resolve e.path).toOption = none := by decide
  have hnone := htracks e he
  intro h4
  rw [h4] at hnone
  cases hnone

end Frame

end Generation

end TaggedLibrary
