import TaggedLibrary.Proofs.Differences
import TaggedLibrary.Proofs.RunFrame
import TaggedLibrary.Proofs.WrittenLibrary
/-!
A library that was written passes the check against its catalog: a scan finds every track at its
path, and what its file says is what the catalog asks for.
-/

namespace TaggedLibrary

open FileTree (IsEntry Plain)

namespace Verification

variable {p : Path} {tracks : List ScannedTrack}

/-- A track that is found is taken out, and those at other paths are left. -/
theorem take?_eq_some (h : ∃ x ∈ tracks, x.path.Same p) :
    ∃ found rest, take? p tracks = some (found, rest) ∧ found ∈ tracks ∧ found.path.Same p ∧
      (∀ x ∈ rest, x ∈ tracks) ∧ ∀ x ∈ tracks, ¬ x.path.Same p → x ∈ rest := by
  induction tracks with
  | nil =>
    obtain ⟨x, hx, _⟩ := h
    cases hx
  | cons t ts ih =>
    by_cases ht : t.path.Same p
    · refine ⟨t, ts, by rw [take?, if_pos ht], List.mem_cons_self, ht,
        fun x hx => List.mem_cons_of_mem _ hx, fun x hx hne => ?_⟩
      rcases List.mem_cons.mp hx with rfl | hx
      · exact absurd ht hne
      · exact hx
    · have hts : ∃ x ∈ ts, x.path.Same p := by
        obtain ⟨x, hx, hs⟩ := h
        rcases List.mem_cons.mp hx with rfl | hx
        · exact absurd hs ht
        · exact ⟨x, hx, hs⟩
      obtain ⟨found, rest, htake, hfound, hs, hsub, hleft⟩ := ih hts
      refine ⟨found, t :: rest, by rw [take?, if_neg ht, htake]; rfl,
        List.mem_cons_of_mem _ hfound, hs, fun x hx => ?_, fun x hx hne => ?_⟩
      · rcases List.mem_cons.mp hx with rfl | hx
        · exact List.mem_cons_self
        · exact List.mem_cons_of_mem _ (hsub x hx)
      · rcases List.mem_cons.mp hx with rfl | hx
        · exact List.mem_cons_self
        · exact List.mem_cons_of_mem _ (hleft x hx hne)

theorem take?_eq_none (h : ∀ x ∈ tracks, ¬ x.path.Same p) : take? p tracks = none := by
  induction tracks with
  | nil => rfl
  | cons t ts ih =>
    obtain ⟨ht, hts⟩ := List.forall_mem_cons.mp h
    rw [take?, if_neg ht, ih hts]
    rfl

/-- Tracks that are there under their paths, with files that are as they should be, are passed over,
and no file at another path is used up by them. -/
theorem checkAll_passes {front : List Expected} (more : List Expected)
    (hfound : ∀ e ∈ front, ∃ x ∈ tracks, x.path.Same e.path)
    (hmatch : ∀ e ∈ front, ∀ x ∈ tracks, x.path.Same e.path → mismatch? x e.tags = none)
    (hd : front.Pairwise fun e e' => ¬ e.path.Same e'.path) :
    ∃ rest, checkAll tracks (front ++ more) = checkAll rest more ∧ (∀ x ∈ rest, x ∈ tracks) ∧
      ∀ x ∈ tracks, (∀ e ∈ front, ¬ x.path.Same e.path) → x ∈ rest := by
  induction front generalizing tracks with
  | nil => exact ⟨tracks, rfl, fun x hx => hx, fun x hx _ => hx⟩
  | cons e front ih =>
    obtain ⟨hother, hd'⟩ := List.pairwise_cons.mp hd
    obtain ⟨found, left, htake, hmem, hs, hsub, hleft⟩ :=
      take?_eq_some (hfound e List.mem_cons_self)
    have hnone := hmatch e List.mem_cons_self found hmem hs
    obtain ⟨rest, hrest, hsub', hleft'⟩ : ∃ rest, checkAll left (front ++ more) =
        checkAll rest more ∧ (∀ x ∈ rest, x ∈ left) ∧
          ∀ x ∈ left, (∀ e ∈ front, ¬ x.path.Same e.path) → x ∈ rest := by
      refine ih (fun x hx => ?_) (fun x hx y hy => ?_) hd'
      · obtain ⟨y, hy, hys⟩ := hfound x (List.mem_cons_of_mem _ hx)
        refine ⟨y, hleft y hy fun hye => hother x hx ?_, hys⟩
        exact hye.symm.trans hys
      · exact hmatch x (List.mem_cons_of_mem _ hx) y (hsub y hy)
    refine ⟨rest, ?_, fun x hx => hsub x (hsub' x hx), fun x hx hout => ?_⟩
    · rw [List.cons_append, checkAll, htake]
      simp only [hnone, hrest]
    · obtain ⟨hne, hout⟩ := List.forall_mem_cons.mp hout
      exact hleft' x (hleft x hx hne) hout

/-- The check passes if every track is there under its path and every file there is as it should
be. No two tracks need the same file. -/
theorem checkAll_ok {es : List Expected} (hfound : ∀ e ∈ es, ∃ x ∈ tracks, x.path.Same e.path)
    (hmatch : ∀ e ∈ es, ∀ x ∈ tracks, x.path.Same e.path → mismatch? x e.tags = none)
    (hd : es.Pairwise fun e e' => ¬ e.path.Same e'.path) : ∃ n, checkAll tracks es = .ok n := by
  obtain ⟨rest, hrest, _⟩ := checkAll_passes [] hfound hmatch hd
  rw [List.append_nil] at hrest
  exact ⟨rest.length, hrest⟩

end Verification

namespace ScannedTrack

variable {t : FileTree} {p q : Path} {fuel i : Nat} {before : List Nat}

/-- What is found is the file that is looked at, or is found below a name in the directory that is
looked through. -/
theorem mem_audioFiles_cases (h : q ∈ audioFiles t (fuel + 1) before p) :
    (q = p ∧ ∃ i bytes mode modified, t.resolve p = .ok i ∧
      t.node? i = some (.file bytes mode modified)) ∨
    ∃ i n child, t.resolve p = .ok i ∧ IsEntry t i n child ∧
      q ∈ audioFiles t fuel (i :: before) (p.join ⟨n⟩) := by
  unfold audioFiles at h
  split at h
  · cases h
  · rename_i i hr
    split at h
    · rename_i hi
      split at h
      · exact Or.inl ⟨List.mem_singleton.mp h, i, _, _, _, hr, hi⟩
      · cases h
    · rename_i hi
      split at h
      · cases h
      · obtain ⟨⟨n, child⟩, he, hq⟩ := List.mem_flatMap.mp h
        exact Or.inr ⟨i, n, child, hr, ⟨_, _, hi, he⟩, hq⟩
    · cases h

/-- What is looked through leads to a file. -/
theorem resolve_of_mem_audioFiles (h : q ∈ audioFiles t fuel before p) :
    ∃ i bytes mode modified, t.resolve q = .ok i ∧
      t.node? i = some (.file bytes mode modified) := by
  induction fuel generalizing before p with
  | zero => cases h
  | succ fuel ih =>
    rcases mem_audioFiles_cases h with ⟨rfl, hfile⟩ | ⟨_, _, _, _, _, hq⟩
    · exact hfile
    · exact ih hq

theorem mem_audioFiles_file {bytes : Bytes} {mode : Nat} {modified : Instant}
    (hr : t.resolve p = .ok i) (hi : t.node? i = some (.file bytes mode modified))
    (hp : isAudio p = true) : p ∈ audioFiles t (fuel + 1) before p := by
  rw [audioFiles, hr]
  simp only [hi, hp, if_true, List.mem_singleton]

/-- A directory that is not looked through already is looked through name by name. -/
theorem mem_audioFiles_entry {n : Bytes} {child : Nat} (hr : t.resolve p = .ok i)
    (he : IsEntry t i n child) (hnew : i ∉ before)
    (h : q ∈ audioFiles t fuel (i :: before) (p.join ⟨n⟩)) :
    q ∈ audioFiles t (fuel + 1) before p := by
  obtain ⟨parent, entries, hi, hm⟩ := he
  have hseen : before.contains i = false := by simpa using hnew
  rw [audioFiles, hr]
  simp only [hi, hseen, Bool.and_false, Bool.false_eq_true, if_false]
  exact List.mem_flatMap.mpr ⟨(n, child), hm, h⟩

/-- An audio file three names below a plain directory is found by a scan of it. -/
theorem mem_audioFiles_three {d k l j mode : Nat} {a b c bytes : Bytes} {modified : Instant}
    (hp : Plain t d) (hd : t.resolve p = .ok d) (hk : t.resolve (p.join ⟨a⟩) = .ok k)
    (hl : t.resolve ((p.join ⟨a⟩).join ⟨b⟩) = .ok l)
    (hj : t.resolve (((p.join ⟨a⟩).join ⟨b⟩).join ⟨c⟩) = .ok j) (ha : IsEntry t d a k)
    (hb : IsEntry t k b l) (hc : IsEntry t l c j)
    (hfile : t.node? j = some (.file bytes mode modified))
    (haudio : isAudio (((p.join ⟨a⟩).join ⟨b⟩).join ⟨c⟩) = true) :
    ((p.join ⟨a⟩).join ⟨b⟩).join ⟨c⟩ ∈ audioFiles t FileTree.pathLimit [] p := by
  have hbk : t.Below d k := .entry .top ha
  have hkd : k ≠ d := by
    rintro rfl
    exact hp.top .top ha
  have hld : l ≠ d := by
    rintro rfl
    exact hp.top hbk hb
  have hlk : l ≠ k := by
    rintro rfl
    exact hkd (hp.unique hbk .top hb ha).1
  rw [show FileTree.pathLimit = 4092 + 1 + 1 + 1 + 1 from rfl]
  refine mem_audioFiles_entry hd ha List.not_mem_nil (mem_audioFiles_entry hk hb ?_
    (mem_audioFiles_entry hl hc ?_ (mem_audioFiles_file hj hfile haudio)))
  · simpa using hkd
  · simp [hlk, hld]

/-- A scan of a plain library finds every audio file in it. -/
theorem mem_audioFiles_of_inLibrary {d j mode : Nat} {bytes : Bytes} {modified : Instant}
    (hp : Plain t d) (hd : t.resolve p = .ok d) (hne : p.bytes ≠ [])
    (hin : Verification.InLibrary p q) (haudio : isAudio q = true) (hj : t.resolve q = .ok j)
    (hfile : t.node? j = some (.file bytes mode modified)) :
    q ∈ audioFiles t FileTree.pathLimit [] p := by
  obtain ⟨a, b, c, ha, hb, hc, rfl⟩ := hin
  obtain ⟨k, l, hk, hl, hka, hlb, hjc⟩ := hp.resolve_three hne ha hb hc hd hj
  exact mem_audioFiles_three hp hd hk hl hj hka hlb hjc hfile haudio

theorem mem_scan {x : ScannedTrack} : x ∈ scan t p ↔
    x.path ∈ audioFiles t FileTree.pathLimit [] p ∧ x = ofPath t x.path := by
  rw [scan, List.mem_map]
  simp only [List.mem_mergeSort]
  constructor
  · rintro ⟨q, hq, rfl⟩
    rw [path_ofPath]
    exact ⟨hq, rfl⟩
  · rintro ⟨hq, hx⟩
    exact ⟨x.path, hq, hx.symm⟩

end ScannedTrack

namespace Generation

open FileTree (Below refuse?)
open Verification (Expected InLibrary expected)

variable {paths : LibraryPaths} {origin d : Nat} {file audio : Bytes} {t t' : FileTree}

/-- Where a library can be written. The root is a directory, as in every file system. The template
can be read, and the destination goes down from the root or the current directory; if something is
there, it is plain and away from the template. -/
structure Prepared (paths : LibraryPaths) (origin : Nat) (file : Bytes) (t : FileTree) : Prop where
  root : ∃ parent entries, t.node? t.root = some (.directory parent entries)
  source : t.resolve paths.source = .ok origin
  template : ∃ mode modified, t.node? origin = some (.file file mode modified)
  nonempty : paths.destination.bytes ≠ []
  down : .parent ∉ paths.destination.components
  library : ∀ d, t.resolve paths.destination = .ok d → Plain t d ∧ ¬ Below t d origin

theorem Prepared.site (hp : Prepared paths origin file t) : Site paths.destination t :=
  ⟨hp.root, hp.nonempty, hp.down, fun d hd => (hp.library d hd).1⟩

/-- When the destination has been made, everything is ready for the tracks. -/
theorem Prepared.ready (hp : Prepared paths origin file t)
    (hr : refuse? paths.destination = none)
    (h : (FileTree.makeDirectories paths.destination).run t = (.ok (), t')) :
    ∃ d, Ready paths origin d file t' := by
  obtain ⟨mode, modified, hi⟩ := hp.template
  obtain ⟨d, parent, entries, hd, hnode, hplain, hthere⟩ := hp.site.made hr h
  rcases hthere with rfl | ⟨hnew, rfl⟩
  · exact ⟨d, hp.source, hp.template, hd, ⟨parent, entries, hnode⟩, hplain, (hp.library d hd).2⟩
  · have hc := FileTree.changes_of_makeDirectories h fun _ => False
    have hfile := hc.file_stays hi
    refine ⟨d, hc.extends.resolve hp.source, ⟨mode, modified, hfile⟩, hd, ⟨parent, [], hnode⟩,
      hplain, fun hb => ?_⟩
    have hlt := FileTree.lt_size hi
    have hsame := (FileTree.plain_of_empty hnode).2 origin hb
    omega

/-- A path with a track below it is one that the system takes. -/
theorem Written.refuse?_eq_none {write : TagWriter} {e : Expected} {es : List Expected}
    (h : Written paths.source write (e :: es) t t') (hp : Prepared paths origin file t)
    (hin : InLibrary paths.destination e.path) : refuse? paths.destination = none := by
  obtain ⟨mode, modified, hi⟩ := hp.template
  cases h with
  | track hbefore hcopy =>
    obtain ⟨_, hto, _⟩ :=
      TrackFile.copy_ok hcopy (hbefore.extends.resolve hp.source) (hbefore.file_stays hi)
    exact refuse?_of_inLibrary hp.nonempty hin (FileTree.resolve_eq_ok.mp hto).1

end Generation

namespace Verification

open Generation (Ready Holds)

variable {paths : LibraryPaths} {origin d : Nat} {file audio : Bytes} {t : FileTree}
  {catalog : Catalog} {e : Expected}

/-- A scan finds a track that is there. -/
theorem mem_scan_of_holds (hr : Ready paths origin d file t) (hne : paths.destination.bytes ≠ [])
    (hin : InLibrary paths.destination e.path) (haudio : ScannedTrack.isAudio e.path = true)
    (hh : Holds audio t e) :
    ScannedTrack.ofPath t e.path ∈ ScannedTrack.scan t paths.destination := by
  obtain ⟨_, j, mode, modified, hj, hfile⟩ := hh
  rw [ScannedTrack.mem_scan, ScannedTrack.path_ofPath]
  exact ⟨ScannedTrack.mem_audioFiles_of_inLibrary hr.plain hr.destination hne hin haudio hj hfile,
    rfl⟩

/-- Whatever a scan finds under the steps of a track that is there shows the tags of the track. -/
theorem fields_of_mem_scan (ha : AudioFile.IsBareAudio audio) (ht : e.tags.Plain)
    (hh : Holds audio t e) {root : Path} {x : ScannedTrack} (hx : x ∈ ScannedTrack.scan t root)
    (hs : x.path.Same e.path) : x.fields = e.tags.shown := by
  obtain ⟨hsize, i, mode, modified, hi, hfile⟩ := hh
  obtain ⟨hmem, hx⟩ := ScannedTrack.mem_scan.mp hx
  obtain ⟨j, _, _, _, hj, _⟩ := ScannedTrack.resolve_of_mem_audioFiles hmem
  obtain rfl := FileTree.resolve_of_same hs hj hi
  rw [hx, ScannedTrack.ofPath_of_file hj hfile]
  exact AudioFile.fieldsOf_tagBytes ha ht hsize

/-- Whatever a scan finds under the steps of a track that is there says what it should. -/
theorem mismatch?_of_holds (ha : AudioFile.IsBareAudio audio) (hc : catalog.Tidy)
    (he : e ∈ expected paths.destination catalog) (hh : Holds audio t e) {x : ScannedTrack}
    (hx : x ∈ ScannedTrack.scan t paths.destination) (hs : x.path.Same e.path) :
    mismatch? x e.tags = none := by
  have htidy := tidy_of_expected hc he
  rw [mismatch?_of_shown htidy (fields_of_mem_scan ha htidy.plain hh hx hs),
    TrackTags.firstDifference?_self, Option.map_none]

theorem check_of_holds (hr : Ready paths origin d file t) (hne : paths.destination.bytes ≠ [])
    (ha : AudioFile.IsBareAudio audio) (hc : catalog.Tidy)
    (hh : ∀ e ∈ expected paths.destination catalog, Holds audio t e) :
    ∃ extra, check t paths.destination catalog = .ok (Catalog.totalTracks catalog, extra) := by
  obtain ⟨extra, hall⟩ : ∃ extra, checkAll (ScannedTrack.scan t paths.destination)
      (expected paths.destination catalog) = .ok extra := by
    refine checkAll_ok (fun e he => ?_) (fun e he x hx hs => ?_) (expected_pairwise hne hc.named)
    · obtain ⟨hin, haudio⟩ := inLibrary_of_expected hne hc.named.albums he
      exact ⟨_, mem_scan_of_holds hr hne hin haudio (hh e he),
        congrArg Path.components (ScannedTrack.path_ofPath t e.path)⟩
    · exact mismatch?_of_holds ha hc he (hh e he) hx hs
  refine ⟨extra, ?_⟩
  simp only [check, hall, Except.map, length_expected]

end Verification

namespace Generation

variable {paths : LibraryPaths} {origin : Nat} {file audio : Bytes} {before t t' : FileTree}
  {catalog : Catalog}

/-- After the destination had been made, tracks were written: now the library is as ready as before
for others, and each of them is there as it should be. -/
theorem Written.library {e : Verification.Expected}
    (h : Written paths.source TagWriter.id3v2 (Verification.expected paths.destination catalog) t
      t')
    (hmade : (FileTree.makeDirectories paths.destination).run before = (.ok (), t))
    (hp : Prepared paths origin file before) (ht : AudioFile.IsTemplate file audio)
    (hc : catalog.Named) (he : e ∈ Verification.expected paths.destination catalog) :
    ∃ d, Ready paths origin d file t' ∧
      ∀ x ∈ Verification.expected paths.destination catalog, Holds audio t' x := by
  have hin := fun x hx => Verification.inLibrary_of_expected (e := x) hp.nonempty hc.albums hx
  have hdirs := FileTree.changes_of_makeDirectories hmade fun _ => False
  have hall := h.before (hdirs.mono (fun _ _ => trivial) fun _ hf => hf)
  obtain ⟨x, xs, hes⟩ := List.exists_cons_of_ne_nil (List.ne_nil_of_mem he)
  have hfirst : x ∈ Verification.expected paths.destination catalog := by
    rw [hes]
    exact List.mem_cons_self
  rw [hes] at hall
  obtain ⟨d, hready⟩ := hp.ready (hall.refuse?_eq_none hp (hin x hfirst).1) hmade
  exact ⟨d, h.holds hready ht hp.nonempty hin (Verification.expected_paths_pairwise hp.nonempty hc)⟩

/-- What was written after the destination had been made passes the check. Without a track there is
nothing to be checked; with one, the destination is a path that the system takes. -/
theorem Written.check_ok
    (h : Written paths.source TagWriter.id3v2 (Verification.expected paths.destination catalog) t
      t')
    (hmade : (FileTree.makeDirectories paths.destination).run before = (.ok (), t))
    (hp : Prepared paths origin file before) (ht : AudioFile.IsTemplate file audio)
    (hc : catalog.Tidy) : ∃ extra, Verification.check t' paths.destination catalog =
      .ok (Catalog.totalTracks catalog, extra) := by
  cases hes : Verification.expected paths.destination catalog with
  | nil =>
    have hnone := Verification.length_expected paths.destination catalog
    rw [hes] at hnone
    refine ⟨(ScannedTrack.scan t' paths.destination).length, ?_⟩
    simp only [Verification.check, hes, Verification.checkAll, Except.map, ← hnone]
  | cons e es =>
    have hfirst : e ∈ Verification.expected paths.destination catalog := by
      rw [hes]
      exact List.mem_cons_self
    obtain ⟨d, hend, hholds⟩ := h.library hmade hp ht hc.named hfirst
    exact Verification.check_of_holds hend hp.nonempty ht.1 hc hholds

/-- If a library has been written without an error, then it passes the check, for all tracks of its
catalog. -/
theorem generate_then_verify {s s' : Session} {summary : Summary} (hc : catalog.Tidy)
    (hp : Prepared paths origin file s.files) (ht : AudioFile.IsTemplate file audio)
    (h : (generate paths catalog TagWriter.id3v2).run s = (.ok summary, s')) :
    summary.tracks = Catalog.totalTracks catalog ∧
      ((Verification.verify paths.destination catalog).run s').1 =
        .ok (Catalog.totalTracks catalog) := by
  obtain ⟨hn, t, hmade, hw⟩ := generate_written h
  obtain ⟨extra, hcheck⟩ := hw.check_ok hmade hp ht hc
  refine ⟨hn, ?_⟩
  rw [Verification.verify, Run.run_bind, Run.run_ask, hcheck]
  rfl

theorem tidy_oneTrack : oneTrack.Tidy := by
  have htidy : ∀ text ∈ ["A", "B", "T", "Pop"], TidyText text := by
    have hall : ∀ text ∈ ["A", "B", "T", "Pop"],
        text ≠ "" ∧ '\x00' ∉ text.toList ∧ Blank.trim text = text := by decide
    exact fun text hm => ⟨(hall text hm).1, (hall text hm).2.1, (hall text hm).2.2⟩
  refine ⟨fun a ha => ?_, List.pairwise_singleton _ _⟩
  obtain rfl := List.mem_singleton.mp ha
  refine ⟨⟨by decide, by decide, by decide, by decide⟩,
    ⟨by decide, by decide, by decide, by decide⟩,
    by decide, htidy _ (by decide), htidy _ (by decide), fun title hm => ?_,
    htidy _ (by decide), by simp [Numeral.isDigit], by decide, by simp,
    by simp [Numeral.isDigit], by decide⟩
  obtain rfl := List.mem_singleton.mp hm
  exact htidy _ (by decide)

theorem prepared_oneTemplate : Prepared intoM 1 AudioFile.silence oneTemplate := by
  refine ⟨⟨0, _, by rfl⟩, by rfl, ⟨0o644, ⟨0, 0⟩, by rfl⟩, by decide, by decide,
    fun d hd => ?_⟩
  have hmissing : (oneTemplate.resolve intoM.destination).toOption = none := by decide
  rw [hd] at hmissing
  cases hmissing

theorem generate_then_verify_oneTrack :
    ((Verification.verify intoM.destination oneTrack).run writtenM).1 = .ok 1 :=
  (generate_then_verify tidy_oneTrack prepared_oneTemplate
    ⟨AudioFile.isBareAudio_silence, Or.inl rfl⟩ run_oneTrack).2

end Generation

end TaggedLibrary
