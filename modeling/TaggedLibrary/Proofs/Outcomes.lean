import TaggedLibrary.Program
import TaggedLibrary.Proofs.WrittenLibrary
import TaggedLibrary.Proofs.RunFrame
/-!
How a run of the program ends. What has been reported before a step has no say in what the step
does, so every way to end is told by steps that start from the files alone: settings that are no
good, a library that cannot be written, one that is not as it should be, and one that is.
-/

namespace TaggedLibrary

namespace Run

variable {α β ε : Type}

/-- An operation that goes by the files alone, not by what was reported or recorded before. -/
def Blind (op : Run α) : Prop :=
  ∀ s u : Session, s.files = u.files →
    (op.run s).1 = (op.run u).1 ∧ (op.run s).2.files = (op.run u).2.files

theorem blind_pure (a : α) : (pure a : Run α).Blind := fun _ _ h => ⟨rfl, h⟩

theorem blind_fail (e : LibraryError) : (fail e : Run α).Blind := fun _ _ h => ⟨rfl, h⟩

theorem blind_report (e : Event) : (report e).Blind := fun _ _ h => ⟨rfl, h⟩

theorem blind_ask (question : FileTree → Except LibraryError α) : (ask question).Blind := by
  intro s u h
  rw [run_ask, run_ask]
  exact ⟨congrArg question h, h⟩

theorem blind_onFiles (wrap : ε → LibraryError) (op : Disk ε α) : (onFiles wrap op).Blind := by
  intro s u h
  rw [run_onFiles, run_onFiles, h]
  exact ⟨rfl, rfl⟩

theorem Blind.bind {op : Run α} {f : α → Run β} (h : op.Blind) (hf : ∀ a, (f a).Blind) :
    (op >>= f).Blind := by
  intro s u hsu
  obtain ⟨hresult, hfiles⟩ := h s u hsu
  rw [run_bind, run_bind]
  rcases hs : op.run s with ⟨e | a, s'⟩ <;> rcases hu : op.run u with ⟨e' | a', u'⟩
  all_goals rw [hs, hu] at hresult hfiles
  · cases hresult
    exact ⟨rfl, hfiles⟩
  · cases hresult
  · cases hresult
  · cases hresult
    exact hf a s' u' hfiles

theorem Blind.during {op : Run α} (h : op.Blind) (a : Activity) : (during a op).Blind := by
  intro s u hsu
  obtain ⟨hresult, hfiles⟩ := h s u hsu
  rw [run_during, run_during]
  rcases hs : op.run s with ⟨e | r, s'⟩ <;> rcases hu : op.run u with ⟨e' | r', u'⟩
  all_goals rw [hs, hu] at hresult hfiles
  all_goals cases hresult
  · exact ⟨rfl, hfiles⟩
  · exact ⟨rfl, hfiles⟩

/-- From the same files a blind operation does the same. -/
theorem Blind.run {op : Run α} (h : op.Blind) {s s' : Session} {r : Except LibraryError α}
    (hrun : op.run s = (r, s')) :
    ∃ u, op.run { files := s.files } = (r, u) ∧ u.files = s'.files := by
  obtain ⟨hresult, hfiles⟩ := h s { files := s.files } rfl
  rw [hrun] at hresult hfiles
  exact ⟨(op.run { files := s.files }).2, Prod.ext hresult.symm rfl, hfiles.symm⟩

end Run

theorem TagWriter.id3v2_blind (p : Path) (tags : TrackTags) : (TagWriter.id3v2 p tags).Blind := by
  have hchange : ∀ f, (Run.onFiles (.tag p) (TagWriter.change p f)).Blind :=
    fun f => Run.blind_onFiles _ _
  refine Run.Blind.during ?_ _
  apply (Run.blind_onFiles _ _).bind
  rintro ⟨kind, found⟩
  simp only
  split
  · exact Run.blind_fail _
  · have hape : (if found.ape.isSome = true then do
        Run.onFiles (.tag p) (TagWriter.change p AudioFile.removeApe)
        Run.onFiles (.tag p) (TagWriter.change p (AudioFile.putId3v2 tags))
        else Run.onFiles (.tag p) (TagWriter.change p (AudioFile.putId3v2 tags))).Blind := by
      split
      · exact (hchange _).bind fun _ => hchange _
      · exact hchange _
    split
    · exact (hchange _).bind fun _ => hape
    · exact hape

namespace Generation

variable {write : TagWriter}

section Blind

variable (hw : ∀ p tags, (write p tags).Blind)
include hw

theorem writeTracks_blind (template directory : Path) (album : Album)
    (tracks : List (UInt32 × String)) :
    (writeTracks template directory write album tracks).Blind := by
  have hcopy : ∀ dest, (TrackFile.copy template dest).Blind := fun dest =>
    Run.Blind.during ((Run.blind_onFiles _ _).bind fun _ => (Run.blind_onFiles _ _).bind fun _ =>
      (Run.blind_onFiles _ _).bind fun _ => Run.blind_pure _) _
  induction tracks with
  | nil => exact Run.blind_pure _
  | cons track rest ih =>
    have hone : (writeTrack template directory write album track).Blind :=
      (hcopy _).bind fun _ => (hw _ _).bind fun _ => Run.blind_report _
    exact hone.bind fun _ => ih.bind fun _ => Run.blind_pure _

theorem writeAlbums_blind (paths : LibraryPaths) (catalog : Catalog) :
    (writeAlbums paths write catalog).Blind := by
  induction catalog with
  | nil => exact Run.blind_pure _
  | cons album rest ih =>
    have hmade : (TrackFile.makeAlbumDirectory paths.destination album.artist
        album.title).Blind :=
      Run.Blind.during ((Run.blind_onFiles _ _).bind fun _ => Run.blind_pure _) _
    have hone : (writeAlbum paths write album).Blind :=
      hmade.bind fun _ => (Run.blind_report _).bind fun _ => writeTracks_blind hw _ _ _ _
    exact hone.bind fun _ => ih.bind fun _ => Run.blind_pure _

/-- Writing a library goes by the files alone, if its writer does. -/
theorem generate_blind (paths : LibraryPaths) (catalog : Catalog) :
    (generate paths catalog write).Blind :=
  (Run.blind_ask _).bind fun _ => (Run.blind_onFiles _ _).bind fun _ =>
    (Run.blind_report _).bind fun _ => (writeAlbums_blind hw _ _).bind fun _ => Run.blind_pure _

end Blind

theorem summary_of_generate {paths : LibraryPaths} {catalog : Catalog} {summary : Summary}
    {s s' : Session} (h : (generate paths catalog write).run s = (.ok summary, s')) :
    summary = ⟨Catalog.totalTracks catalog, catalog.length, paths.destination⟩ := by
  obtain ⟨_, t, events, tracks, _, hrun, rfl⟩ := generate_ok h
  obtain ⟨rfl, _⟩ := writeAlbums_written hrun
  rfl

end Generation

namespace Verification

theorem verify_blind (root : Path) (catalog : Catalog) : (verify root catalog).Blind :=
  (Run.blind_ask _).bind fun _ => (Run.blind_report _).bind fun _ => Run.blind_pure _

/-- A check leaves the files as they are, and counts the tracks of the catalog. -/
theorem verify_files {root : Path} {catalog : Catalog} {s s' : Session}
    {r : Except LibraryError Nat} (h : (verify root catalog).run s = (r, s')) :
    s'.files = s.files ∧ ∀ n, r = .ok n → n = Catalog.totalTracks catalog := by
  rw [verify, Run.run_bind, Run.run_ask] at h
  cases hcheck : check s.files root catalog with
  | error e =>
    rw [hcheck] at h
    cases h
    exact ⟨rfl, fun n hn => by cases hn⟩
  | ok counts =>
    obtain ⟨checked, extra⟩ := counts
    rw [hcheck] at h
    cases h
    refine ⟨rfl, fun n hn => ?_⟩
    cases hn
    rw [check] at hcheck
    cases hall : checkAll (ScannedTrack.scan s.files root) (expected root catalog) with
    | error e =>
      rw [hall] at hcheck
      cases hcheck
    | ok extra' =>
      rw [hall] at hcheck
      cases hcheck
      exact length_expected root catalog

end Verification

namespace Program

open Generation Verification

/-- The summary of a whole library. -/
def fullSummary (s : Settings) : Summary :=
  { tracks := Catalog.totalTracks Catalog.builtIn, albums := Catalog.builtIn.length
    destination := s.paths.destination }

/-- All steps of a run succeed with these settings, and leave these files. -/
structure Succeeds (env : Environment) (t : FileTree) (s : Settings) (t' : FileTree) : Prop where
  settings : loadSettings env t = .ok s
  generated : ∃ u, (generate s.paths Catalog.builtIn TagWriter.id3v2).run { files := t } =
    (.ok (fullSummary s), u) ∧ u.files = t'
  verified : s.verify = true → ∃ v, (verify s.paths.destination Catalog.builtIn).run
    { files := t' } = (.ok (Catalog.totalTracks Catalog.builtIn), v)

/-- The step that fails, what it fails with, and the files that it leaves. -/
inductive Fails (env : Environment) (t : FileTree) : Failure → FileTree → Prop
  | unsettled {e : Failure} (settings : loadSettings env t = .error e) : Fails env t e t
  | unwritten {s : Settings} {e : LibraryError} {u : Session}
      (settings : loadSettings env t = .ok s)
      (generated : (generate s.paths Catalog.builtIn TagWriter.id3v2).run { files := t } =
        (.error e, u)) : Fails env t (.library e) u.files
  | unverified {s : Settings} {e : LibraryError} {u v : Session}
      (settings : loadSettings env t = .ok s)
      (generated : (generate s.paths Catalog.builtIn TagWriter.id3v2).run { files := t } =
        (.ok (fullSummary s), u))
      (asked : s.verify = true)
      (verified : (verify s.paths.destination Catalog.builtIn).run { files := u.files } =
        (.error e, v)) : Fails env t (.library e) u.files

section Work

variable {env : Environment} {t : FileTree} {s : Settings} {u : Session}

theorem run_work (s : Settings) (t : FileTree) : (work s).run { files := t } =
    match (generate s.paths Catalog.builtIn TagWriter.id3v2).run
      { files := t, events := [.settingsLoaded s.paths.source s.paths.destination] } with
    | (.error e, u) => (.error e, u)
    | (.ok summary, u) =>
      if s.verify then
        match (verify summary.destination Catalog.builtIn).run u with
        | (.error e, v) => (.error e, v)
        | (.ok n, v) => (.ok summary, { v with events := v.events ++ [.matched n] })
      else (.ok summary, u) := by
  rw [work, Run.run_bind, Run.run_report]
  simp only [List.nil_append, Run.run_bind]
  rcases (generate s.paths Catalog.builtIn TagWriter.id3v2).run _ with ⟨e | summary, u⟩
  · rfl
  · cases s.verify with
    | false => rfl
    | true =>
      simp only [if_true, Run.run_bind]
      rcases (verify summary.destination Catalog.builtIn).run u with ⟨e | n, v⟩ <;> rfl

/-- Once there are settings, a run writes the library and checks it if it is asked to. -/
theorem work_ends (hs : loadSettings env t = .ok s) {result : Except LibraryError Summary}
    (h : (work s).run { files := t } = (result, u)) :
    (result = .ok (fullSummary s) ∧ Succeeds env t s u.files) ∨
      ∃ e, result = .error e ∧ Fails env t (.library e) u.files := by
  have hblind := generate_blind TagWriter.id3v2_blind s.paths Catalog.builtIn
  rw [run_work] at h
  rcases hg : (generate s.paths Catalog.builtIn TagWriter.id3v2).run
    { files := t, events := [.settingsLoaded s.paths.source s.paths.destination] } with
    ⟨e | summary, w⟩
  · rw [hg] at h
    cases h
    obtain ⟨w', hw', hfiles⟩ := hblind.run hg
    exact Or.inr ⟨e, rfl, hfiles ▸ .unwritten hs hw'⟩
  obtain rfl : summary = fullSummary s := summary_of_generate hg
  obtain ⟨w', hw', hfiles⟩ := hblind.run hg
  rw [hg] at h
  cases hasked : s.verify with
  | false =>
    rw [hasked] at h
    cases h
    exact Or.inl ⟨rfl, hs, ⟨w', hw', hfiles⟩, fun hv => absurd hv (by simp [hasked])⟩
  | true =>
    simp only [hasked, if_true] at h
    rcases hv : (verify (fullSummary s).destination Catalog.builtIn).run w with ⟨e | n, v⟩
    all_goals
      obtain ⟨hkept, hcount⟩ := verify_files hv
      obtain ⟨v', hv', _⟩ := (verify_blind _ _).run hv
      rw [hv] at h
      cases h
    · rw [hkept, ← hfiles]
      rw [← hfiles] at hv'
      exact Or.inr ⟨e, rfl, .unverified hs hw' hasked hv'⟩
    · refine Or.inl ⟨rfl, hs, ⟨w', hw', hfiles.trans hkept.symm⟩, fun _ => ?_⟩
      rw [← hcount n rfl]
      exact ⟨v', hkept ▸ hv'⟩

end Work

section Failing

variable {env : Environment} {t t' : FileTree} {e e' : Failure} {s : Settings}

theorem Fails.of_settings (h : Fails env t e t') (hs : loadSettings env t = .error e') :
    e = e' ∧ t' = t := by
  cases h with
  | unsettled settings => exact ⟨Except.error.inj (settings.symm.trans hs), rfl⟩
  | unwritten settings | unverified settings => cases settings.symm.trans hs

/-- Without a template nothing is made. -/
theorem Fails.of_template (h : Fails env t e t') (hs : loadSettings env t = .ok s)
    (hfile : t.isFile s.paths.source = false) :
    e = .library (.missingTemplate s.paths.source) ∧ t' = t := by
  have hmissing : (generate s.paths Catalog.builtIn TagWriter.id3v2).run { files := t } = _ :=
    generate_missing hfile
  cases h with
  | unsettled settings => cases settings.symm.trans hs
  | unwritten settings generated =>
    cases settings.symm.trans hs
    cases generated.symm.trans hmissing
    exact ⟨rfl, rfl⟩
  | unverified settings generated =>
    cases settings.symm.trans hs
    cases generated.symm.trans hmissing

theorem getLast?_messages (e : Failure) (events : List Event) :
    (({ result := .error e, events } : Outcome).messages env).getLast? =
      some ("Error: " ++ e.text) := by
  rw [Outcome.messages, List.getLast?_append]
  rfl

end Failing

/-- What a run comes to: all steps have succeeded, or one has failed. -/
theorem run_ends (env : Environment) (t : FileTree) : ∃ o t', run env t = (o, t') ∧
    ((∃ s, o.result = .ok (fullSummary s) ∧ Succeeds env t s t') ∨
      ∃ e, o.result = .error e ∧ Fails env t e t') := by
  cases hload : loadSettings env t with
  | error e =>
    refine ⟨_, t, by simp only [run, hload]; rfl, Or.inr ⟨e, rfl, .unsettled hload⟩⟩
  | ok s =>
    rcases hwork : (work s).run { files := t } with ⟨result, u⟩
    rcases work_ends hload hwork with ⟨rfl, hdone⟩ | ⟨e, rfl, hfails⟩
    · exact ⟨_, u.files, by simp only [run, hload, hwork]; rfl, Or.inl ⟨s, rfl, hdone⟩⟩
    · exact ⟨_, u.files, by simp only [run, hload, hwork]; rfl, Or.inr ⟨_, rfl, hfails⟩⟩

end Program

end TaggedLibrary
