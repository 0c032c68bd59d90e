import TaggedLibrary.Proofs.RunChanges
import TaggedLibrary.Proofs.Template
import TaggedLibrary.Settings
/-!
What becomes of the template in a run. It is only read, so it stays as it is unless one of the
tracks that are written leads to it; the settings do not rule that out.
-/

namespace TaggedLibrary.Generation

/-- Whatever a run returns, a file is left as it was if no track of the catalog is written to it.
The tracks are looked up when the run has ended, since it makes directories on their way. -/
theorem run_keeps_file {paths : LibraryPaths} {catalog : Catalog} {s s' : Session}
    {result : Except LibraryError Summary}
    (h : (generate paths catalog TagWriter.id3v2).run s = (result, s'))
    {i mode : Nat} {bytes : Bytes} {modified : Instant}
    (hi : s.files.node? i = some (.file bytes mode modified))
    (ht : ∀ e ∈ Verification.expected paths.destination catalog,
      s'.files.resolve e.path ≠ .ok i) :
    s'.files.node? i = some (.file bytes mode modified) := by
  have hc := (generate_within paths catalog (TagWriter.id3v2_within _)).changes h
  rcases hc.file_kept hi with hk | ⟨p, ⟨e, he, rfl⟩, hp⟩
  · exact hk
  · exact absurd hp (ht e he)

/-- The template keeps its bytes, its mode and its time, and is still found, unless one of the
tracks leads to it. -/
theorem template_kept {paths : LibraryPaths} {catalog : Catalog} {s s' : Session}
    {result : Except LibraryError Summary}
    (h : (generate paths catalog TagWriter.id3v2).run s = (result, s'))
    {i mode : Nat} {bytes : Bytes} {modified : Instant}
    (hr : s.files.resolve paths.source = .ok i)
    (hi : s.files.node? i = some (.file bytes mode modified))
    (ht : ∀ e ∈ Verification.expected paths.destination catalog,
      s'.files.resolve e.path ≠ s'.files.resolve paths.source) :
    s'.files.node? i = some (.file bytes mode modified) ∧
      s'.files.read paths.source = .ok bytes := by
  have hc := generate_within paths catalog (TagWriter.id3v2_within _) s
  rw [h] at hc
  have hr' := hc.extends.resolve hr
  have hk : s'.files.node? i = some (.file bytes mode modified) := by
    refine run_keeps_file h hi fun e he => ?_
    rw [← hr']
    exact ht e he
  exact ⟨hk, FileTree.read_of_file hr' hk⟩

def oneTrack : Catalog :=
  [{ artist := "A", title := "B", year := "1998", genre := "Pop", tracks := ["T"] }]

/-- From the template at `t.mp3` into a library at `M`. -/
def intoM : LibraryPaths := ⟨Path.ofString "t.mp3", Path.ofString "M"⟩

def writtenM : Session := ((generate intoM oneTrack TagWriter.id3v2).run ⟨oneTemplate, [], []⟩).2

/-- The run ends well, and the template and the track are where they were put. -/
theorem ran_oneTrack :
    ((generate intoM oneTrack TagWriter.id3v2).run ⟨oneTemplate, [], []⟩).1.toOption =
        some ⟨1, 1, intoM.destination⟩ ∧
      (writtenM.files.resolve intoM.source).toOption = some 1 ∧
      ∀ e ∈ Verification.expected intoM.destination oneTrack,
        (writtenM.files.resolve e.path).toOption = some 5 := by
  decide +kernel

theorem run_oneTrack :
    (generate intoM oneTrack TagWriter.id3v2).run ⟨oneTemplate, [], []⟩ =
      (.ok ⟨1, 1, intoM.destination⟩, writtenM) := by
  obtain ⟨hok, _⟩ := ran_oneTrack
  exact Run.run_of_toOption hok

theorem template_kept_oneTrack :
    writtenM.files.node? 1 = some (.file AudioFile.silence 0o644 ⟨0, 0⟩) ∧
      writtenM.files.read intoM.source = .ok AudioFile.silence := by
  have hr : oneTemplate.resolve intoM.source = .ok 1 := by rfl
  have hi : oneTemplate.node? 1 = some (.file AudioFile.silence 0o644 ⟨0, 0⟩) := by rfl
  obtain ⟨_, hsource, htracks⟩ := ran_oneTrack
  apply template_kept run_oneTrack hr hi
  intro e he hsame
  have h5 := htracks e he
  rw [hsame, hsource] at h5
  cases h5

/-- A template that is itself the only track of its library. -/
def templateInLibrary : FileTree :=
  { nodes := #[.directory 0 [(Utf8.encode "M", 1)], .directory 0 [(Utf8.encode "A", 2)],
      .directory 1 [(Utf8.encode "B", 3)], .directory 2 [(Utf8.encode "01 T.mp3", 4)],
      .file AudioFile.silence 0o644 ⟨0, 0⟩]
    root := 0, current := 0 }

def ontoItself : Settings :=
  { paths := ⟨Path.ofString "M/A/B/01 T.mp3", Path.ofString "M"⟩, verify := false }

/-- Settings are accepted that empty the template: copying begins by emptying the track. -/
theorem template_emptied :
    ontoItself.invalid? = none ∧
      (templateInLibrary.resolve ontoItself.paths.source).toOption = some 4 ∧
      templateInLibrary.node? 4 = some (.file AudioFile.silence 0o644 ⟨0, 0⟩) ∧
      ((generate ontoItself.paths oneTrack TagWriter.id3v2).run
        ⟨templateInLibrary, [], []⟩).2.files.node? 4 = some (.file [] 0o644 ⟨0, 0⟩) := by
  set_option maxRecDepth 20000 in
  decide

end TaggedLibrary.Generation
