import TaggedLibrary.Proofs.ScanOrder
/-!
The library that a run leaves where there was nothing: the directories of the catalog's artists and
albums and one file for each of its tracks, each a tagged copy of the template, and a scan that
lists these, album by album.
-/

namespace TaggedLibrary

open FileTree (Below Changes IsEntry Leads Plain Shown refuse?)
open Verification (Expected InLibrary expected expectedOfAlbum)
open TaggedLibrary.Path (IsNormal)

namespace TagWriter

/-- Writing the tags turns an audio file of the bytes `file` into one of the bytes `out`, and
changes nothing else. -/
def Makes (tags : TrackTags) (file out : Bytes) : Prop :=
  ∀ (s : Session) (p : Path) (i mode : Nat), ScannedTrack.isAudio p = true →
    Open p i mode file s.files →
    (id3v2 p tags).run s = (.ok (), { s with files := FileTree.putBytes i out s.files })

theorem makes_of_replaceTags {tags : TrackTags} {file out : Bytes}
    (h : replaceTags tags file = .ok out) : Makes tags file out := by
  intro s p i mode hp hopen
  rcases run_id3v2 hp hopen tags with ⟨e, _, _, he⟩ | ⟨made, hrun, hmade⟩
  · rw [h] at he
    cases he
  · rw [h] at hmade
    cases hmade
    exact hrun

end TagWriter

namespace Generation

namespace Filled

variable {root : Path} {albums : Catalog} {es : List Expected} {content : Expected → Bytes}
  {d : Nat} {t t' : FileTree}

theorem bytes_down_ne_nil (h : Filled root albums es content d t t') {ms : List Bytes}
    (hms : ∀ m ∈ ms, IsNormal m) : (root.down ms).bytes ≠ [] := by
  intro hnil
  have hsteps := Path.components_down h.nonempty hms
  have hroot := Path.components_ne_nil h.nonempty
  rw [Path.components, hnil] at hsteps
  exact hroot (List.append_eq_nil_iff.mp hsteps.symm).1

/-- A name behind a path in the library leads on from where the path leads. -/
theorem leads_down (h : Filled root albums es content d t t') {ms : List Bytes} {n : Bytes}
    (hms : ∀ m ∈ ms ++ [n], IsNormal m)
    (hl : ∀ i, t'.resolve (root.down ms) = .ok i → Leads t' d ms i) {j : Nat}
    (hj : t'.resolve (root.down (ms ++ [n])) = .ok j) : Leads t' d (ms ++ [n]) j := by
  obtain ⟨hms, hn⟩ := List.forall_mem_append.mp hms
  have hnormal := hn n (List.mem_singleton_self n)
  have hne := h.bytes_down_ne_nil hms
  rw [Path.down_concat] at hj
  obtain ⟨k, _, _, _, hk, _⟩ := FileTree.resolve_join hne hnormal hj
  exact (hl k hk).entry (h.plain.resolve_join hne hnormal hk (hl k hk).isBelow hj).1

/-- What is found below a path in the library is a file further down. -/
theorem leads_of_mem_audioFiles (h : Filled root albums es content d t t') {fuel : Nat}
    {above : List Nat} {ms : List Bytes} {q : Path} (hms : ∀ m ∈ ms, IsNormal m)
    (hl : ∀ i, t'.resolve (root.down ms) = .ok i → Leads t' d ms i)
    (hq : q ∈ ScannedTrack.audioFiles t' fuel above (root.down ms)) :
    ∃ ns j bytes mode modified, q = root.down (ms ++ ns) ∧ Leads t' d (ms ++ ns) j ∧
      t'.node? j = some (.file bytes mode modified) := by
  induction fuel generalizing above ms with
  | zero => cases hq
  | succ fuel ih =>
    rcases ScannedTrack.mem_audioFiles_cases hq with
      ⟨rfl, i, bytes, mode, modified, hi, hnode⟩ | ⟨i, n, child, hi, he, hq⟩
    · exact ⟨[], i, bytes, mode, modified, by rw [List.append_nil],
        by rw [List.append_nil]; exact hl i hi, hnode⟩
    · have hnames := h.normal ((hl i hi).entry he)
      rw [← Path.down_concat] at hq
      obtain ⟨ns, j, bytes, mode, modified, hpath, hlead, hnode⟩ :=
        ih hnames (fun _ => h.leads_down hnames hl) hq
      rw [List.append_assoc] at hpath hlead
      exact ⟨n :: ns, j, bytes, mode, modified, hpath, hlead, hnode⟩

/-- No file is found twice. What is found through one name is told from what is found through
another by that name. -/
theorem nodup_audioFiles (h : Filled root albums es content d t t') {fuel : Nat}
    {above : List Nat} {ms : List Bytes} (hms : ∀ m ∈ ms, IsNormal m)
    (hl : ∀ i, t'.resolve (root.down ms) = .ok i → Leads t' d ms i) :
    (ScannedTrack.audioFiles t' fuel above (root.down ms)).Nodup := by
  induction fuel generalizing above ms with
  | zero => exact List.nodup_nil
  | succ fuel ih =>
    unfold ScannedTrack.audioFiles
    split
    · exact List.nodup_nil
    rename_i i hi
    split
    · split
      · exact List.nodup_singleton _
      · exact List.nodup_nil
    · rename_i parent entries hnode
      split
      · exact List.nodup_nil
      have hdown : ∀ e ∈ entries, (∀ m ∈ ms ++ [e.1], IsNormal m) ∧
          ∀ j, t'.resolve (root.down (ms ++ [e.1])) = .ok j → Leads t' d (ms ++ [e.1]) j := by
        intro e he
        have hnames := h.normal ((hl i hi).entry ⟨parent, entries, hnode, he⟩)
        exact ⟨hnames, fun _ => h.leads_down hnames hl⟩
      rw [List.nodup_flatMap]
      constructor
      · intro e he
        change (ScannedTrack.audioFiles t' fuel (i :: above) ((root.down ms).join ⟨e.1⟩)).Nodup
        rw [← Path.down_concat]
        exact ih (hdown e he).1 (hdown e he).2
      · have hdistinct := h.distinct (hl i hi).isBelow parent entries hnode
        rw [List.nodup_iff_pairwise_ne, List.pairwise_map] at hdistinct
        apply hdistinct.imp_of_mem
        intro e e' he he' hne q hq hq'
        change q ∈ ScannedTrack.audioFiles t' fuel (i :: above) ((root.down ms).join ⟨e.1⟩) at hq
        change q ∈ ScannedTrack.audioFiles t' fuel (i :: above) ((root.down ms).join ⟨e'.1⟩) at hq'
        rw [← Path.down_concat] at hq hq'
        obtain ⟨ns, _, _, _, _, hpath, hlead, _⟩ :=
          h.leads_of_mem_audioFiles (hdown e he).1 (hdown e he).2 hq
        obtain ⟨ns', _, _, _, _, hpath', hlead', _⟩ :=
          h.leads_of_mem_audioFiles (hdown e' he').1 (hdown e' he').2 hq'
        have hways := Path.down_injective h.nonempty (h.normal hlead) (h.normal hlead')
          (hpath.symm.trans hpath')
        rw [List.append_assoc, List.append_assoc] at hways
        exact hne (List.cons.inj (List.append_cancel_left hways)).1
    · exact List.nodup_nil

/-- A scan of a library that has been filled finds the files of its tracks, each of them once. -/
theorem audioFiles_perm (h : Filled root albums es content d t t')
    (haudio : ∀ e ∈ es, ScannedTrack.isAudio e.path = true)
    (hd : es.Pairwise fun e e' => e.path ≠ e'.path) :
    (ScannedTrack.audioFiles t' FileTree.pathLimit [] root).Perm (es.map (·.path)) := by
  have htop : ∀ i, t'.resolve (root.down []) = .ok i → Leads t' d [] i := by
    intro i hi
    rw [Path.down_nil, h.resolve_root] at hi
    cases hi
    exact .top
  have hnone : ∀ m ∈ ([] : List Bytes), IsNormal m := fun m hm => absurd hm List.not_mem_nil
  refine (List.perm_ext_iff_of_nodup (h.nodup_audioFiles hnone htop)
    (List.pairwise_map.mpr hd)).mpr fun q => ⟨fun hq => ?_, fun hq => ?_⟩
  · obtain ⟨ns, j, bytes, mode, modified, rfl, hlead, hnode⟩ :=
      h.leads_of_mem_audioFiles hnone htop hq
    rw [List.nil_append] at hlead
    have hne : ns ≠ [] := by
      rintro rfl
      obtain rfl := hlead.eq_top
      obtain ⟨_, hempty⟩ := h.empty
      obtain ⟨_, hdirectory⟩ := h.changes.extends.directory hempty
      rw [hnode] at hdirectory
      cases hdirectory
    rcases (h.leads_cases hlead hne hnode).2 with ⟨_, _, _, hshown⟩ | ⟨e, he, hpath, _⟩
    · cases hshown
    · exact List.mem_map.mpr ⟨e, he, hpath.symm⟩
  · obtain ⟨e, he, rfl⟩ := List.mem_map.mp hq
    obtain ⟨j, mode, modified, hj, hnode⟩ := h.written e he
    exact ScannedTrack.mem_audioFiles_of_inLibrary h.plain h.resolve_root h.nonempty
      (h.inside e he) (haudio e he) hj hnode

end Filled

/-- What is below a destination: the directories of artists and albums and the files of tracks, each
of them once, and nothing else. -/
structure Consists (destination : Path) (albums : Catalog) (es : List Expected)
    (content : Expected → Bytes) (t : FileTree) : Prop where
  only : ∀ (p : Path) (shown : Shown), (p, shown) ∈ FileTree.contents t destination ↔
    (∃ a ∈ albums, (p = destination.joinText a.artist ∨
      p = TrackFile.albumDirectory destination a.artist a.title) ∧ shown = .directory) ∨
    ∃ e ∈ es, p = e.path ∧ shown = .file (content e)
  once : ((FileTree.contents t destination).map Prod.fst).Nodup

theorem Filled.consists {root : Path} {albums : Catalog} {es : List Expected}
    {content : Expected → Bytes} {d : Nat} {t t' : FileTree}
    (h : Filled root albums es content d t t') : Consists root albums es content t' :=
  ⟨fun _ _ => h.mem_contents, h.nodup_contents⟩

theorem consists_nil {destination : Path} {t : FileTree} (content : Expected → Bytes)
    (h : FileTree.contents t destination = []) : Consists destination [] [] content t := by
  refine ⟨fun p shown => ?_, ?_⟩
  · simp [h]
  · rw [h]
    exact List.nodup_nil

/-- A destination at which there is nothing. The root is a directory, as in every file system; the
destination goes down from there or from the current directory. -/
structure Vacant (destination : Path) (t : FileTree) : Prop where
  root : ∃ parent entries, t.node? t.root = some (.directory parent entries)
  nonempty : destination.bytes ≠ []
  down : .parent ∉ destination.components
  absent : ∀ i, t.resolve destination ≠ .ok i

namespace Vacant

variable {paths : LibraryPaths} {catalog : Catalog} {write : TagWriter} {s s' : Session}
  {t t' : FileTree} {n : Nat}

theorem site {destination : Path} (h : Vacant destination t) : Site destination t :=
  ⟨h.root, h.nonempty, h.down, fun d hd => absurd hd (h.absent d)⟩

/-- The destination that has been made is an empty directory, and ready for the tracks. -/
theorem ready (h : Vacant paths.destination t) (hr : refuse? paths.destination = none)
    (hmade : (FileTree.makeDirectories paths.destination).run t = (.ok (), t'))
    {origin mode : Nat} {file : Bytes} {modified : Instant}
    (ho : t.resolve paths.source = .ok origin)
    (hi : t.node? origin = some (.file file mode modified)) :
    ∃ d parent, Ready paths origin d file t' ∧
      t'.node? origin = some (.file file mode modified) ∧
      t'.node? d = some (.directory parent []) := by
  obtain ⟨d, parent, entries, hd, hnode, hplain, hthere⟩ := h.site.made hr hmade
  have hc := FileTree.changes_of_makeDirectories hmade fun _ => False
  have hi' := hc.file_stays hi
  rcases hthere with rfl | ⟨_, rfl⟩
  · exact absurd hd (h.absent d)
  refine ⟨d, parent, ⟨hc.extends.resolve ho, ⟨mode, modified, hi'⟩, hd, ⟨parent, [], hnode⟩,
    hplain, fun hb => ?_⟩, hi', hnode⟩
  obtain rfl := (FileTree.plain_of_empty hnode).2 origin hb
  rw [hnode] at hi'
  cases hi'

/-- To a destination that the system does not take only an empty catalog can be written, and
nothing comes of it. -/
theorem refused (h : Vacant paths.destination t) (hr : refuse? paths.destination ≠ none)
    (hn : ∀ a ∈ catalog, a.Named)
    (hw : ∀ p tags, (write p tags).Within (fun _ => True) (· = p))
    (hrun : (writeAlbums paths write catalog).run s = (.ok n, s')) :
    catalog = [] ∧ ∀ u : FileTree, FileTree.contents u paths.destination = [] ∧
      ScannedTrack.scan u paths.destination = [] := by
  constructor
  · by_contra hne
    exact hr (refuse?_of_writeAlbums h.nonempty h.down hn hw hne hrun)
  · intro u
    cases he : refuse? paths.destination with
    | none => exact absurd he hr
    | some e =>
      have hres : u.resolve paths.destination = .error e := by
        rw [FileTree.resolve, he]
      have hfiles : ScannedTrack.audioFiles u FileTree.pathLimit [] paths.destination = [] := by
        rw [show FileTree.pathLimit = 4095 + 1 from rfl, ScannedTrack.audioFiles, hres]
      constructor
      · rw [FileTree.contents, FileTree.listing, hres]
        rfl
      · rw [ScannedTrack.scan, hfiles, List.mergeSort_nil]
        rfl

end Vacant

section Exact

variable {paths : LibraryPaths} {catalog : Catalog} {s s' : Session} {summary : Summary}

/-- A run into nothing that succeeds leaves there exactly the library of its catalog: its
directories, one file for each track at a path of its own, with the tags put into the bytes of the
template and the template's mode; and a scan lists each track once, the tracks of an album together and by number. -/
theorem exact_library (hn : ∀ a ∈ catalog, a.Named)
    (hd : catalog.Pairwise fun a b => (a.artist, a.title) ≠ (b.artist, b.title))
    (hfew : ∀ a ∈ catalog, a.tracks.length ≤ 99) (hv : Vacant paths.destination s.files)
    (h : (generate paths catalog TagWriter.id3v2).run s = (.ok summary, s')) :
    ∃ file mode, s.files.readRegular paths.source = .ok (file, mode) ∧
      ∃ out : Expected → Bytes,
        (∀ e ∈ expected paths.destination catalog, TagWriter.Makes e.tags file (out e)) ∧
        Consists paths.destination catalog (expected paths.destination catalog) out s'.files ∧
        ((expected paths.destination catalog).map (·.path)).Nodup ∧
        (∀ e ∈ expected paths.destination catalog,
          s'.files.readRegular e.path = .ok (out e, mode)) ∧
        ((ScannedTrack.scan s'.files paths.destination).map (·.path)).Perm
          ((expected paths.destination catalog).map (·.path)) ∧
        ∀ album ∈ catalog, (expectedOfAlbum paths.destination album).map (·.path) <:+:
          (ScannedTrack.scan s'.files paths.destination).map (·.path) := by
  obtain ⟨hfile, t, events, tracks, hmade, hrun, _⟩ := generate_ok h
  obtain ⟨origin, file, mode, modified, ho, hi⟩ := FileTree.isFile_eq_true hfile
  refine ⟨file, mode, FileTree.readRegular_of_file ho hi, ?_⟩
  by_cases hr : refuse? paths.destination = none
  case neg =>
    obtain ⟨rfl, hnothing⟩ := hv.refused hr hn (TagWriter.id3v2_within _) hrun
    obtain ⟨hcontents, hscan⟩ := hnothing s'.files
    refine ⟨fun _ => [], fun e he => absurd he List.not_mem_nil, consists_nil _ hcontents,
      List.nodup_nil, fun e he => absurd he List.not_mem_nil, ?_, fun a ha => absurd ha List.not_mem_nil⟩
    rw [hscan]
    exact List.Perm.refl _
  have hnamed : Catalog.Named catalog := ⟨hn, hd, fun a ha => by have := hfew a ha; omega⟩
  have hin := fun e he => Verification.inLibrary_of_expected (e := e) hv.nonempty hn he
  have hpaths := Verification.expected_paths_pairwise hv.nonempty hnamed
  obtain ⟨d, parent, hready, hi', hempty⟩ := hv.ready hr hmade ho hi
  obtain ⟨_, hwritten⟩ := writeAlbums_written hrun
  obtain ⟨_, hlatest⟩ := (hwritten.tagged hready hv.nonempty hi' hin).ready hready hv.nonempty
    fun e he => (hin e he).1
  -- what becomes of a track depends on its tags alone, so it is a function of the track
  have hout : ∀ e, ∃ out, e ∈ expected paths.destination catalog →
      TagWriter.replaceTags e.tags file = .ok out ∧ ∃ j written, s'.files.resolve e.path = .ok j ∧
        s'.files.node? j = some (.file out mode written) := by
    intro e
    by_cases he : e ∈ expected paths.destination catalog
    · obtain ⟨j, out, written, hj, hnode, hreplaced⟩ := hlatest e (latest_of_pairwise hpaths he)
      exact ⟨out, fun _ => ⟨hreplaced, j, written, hj, hnode⟩⟩
    · exact ⟨[], fun h => absurd h he⟩
  choose out hout using hout
  have htracks : ∀ e ∈ expected paths.destination catalog, ∃ j mode written,
      s'.files.resolve e.path = .ok j ∧
        s'.files.node? j = some (.file (out e) mode written) := by
    intro e he
    obtain ⟨_, j, written, hj, hnode⟩ := hout e he
    exact ⟨j, mode, written, hj, hnode⟩
  have hfilled := filled_of_writeAlbums hv.nonempty hv.down hn TagWriter.id3v2_within
    hready.destination hempty hrun htracks
  have hperm := hfilled.audioFiles_perm (fun e he => (hin e he).2) hpaths
  refine ⟨out, fun e he => TagWriter.makes_of_replaceTags (hout e he).1, hfilled.consists,
    List.pairwise_map.mpr hpaths, fun e he => ?_, ?_, fun album ha => ?_⟩
  · obtain ⟨_, j, written, hj, hnode⟩ := hout e he
    exact FileTree.readRegular_of_file hj hnode
  · rw [ScannedTrack.map_path_scan]
    exact (List.mergeSort_perm _ _).trans hperm
  · rw [ScannedTrack.map_path_scan]
    exact Verification.sorted_expected hv.nonempty hn hd (hfew album ha) ha hperm

theorem vacant_oneTemplate : Vacant intoM.destination oneTemplate := by
  refine ⟨⟨0, _, by rfl⟩, by decide, by decide, fun d hd => ?_⟩
  have hmissing : (oneTemplate.resolve intoM.destination).toOption = none := by decide
  rw [hd] at hmissing
  cases hmissing

def writtenTwo : Session := ((generate intoM twoAlbums TagWriter.id3v2).run ⟨oneTemplate, [], []⟩).2

/-- Two albums of one artist, where nothing was. -/
theorem exact_library_twoAlbums : ∃ out : Expected → Bytes,
    (∀ e ∈ expected intoM.destination twoAlbums,
      TagWriter.Makes e.tags AudioFile.silence (out e)) ∧
    Consists intoM.destination twoAlbums (expected intoM.destination twoAlbums) out
      writtenTwo.files ∧
    (∀ e ∈ expected intoM.destination twoAlbums,
      writtenTwo.files.readRegular e.path = .ok (out e, 0o644)) ∧
    [Path.ofString "M/A/C/01 U.mp3", Path.ofString "M/A/C/02 V.mp3"] <:+:
      (ScannedTrack.scan writtenTwo.files intoM.destination).map (·.path) := by
  have hok : ((generate intoM twoAlbums TagWriter.id3v2).run ⟨oneTemplate, [], []⟩).1.toOption =
      some ⟨3, 2, intoM.destination⟩ := by decide +kernel
  have hrun : (generate intoM twoAlbums TagWriter.id3v2).run ⟨oneTemplate, [], []⟩ =
      (.ok ⟨3, 2, intoM.destination⟩, writtenTwo) := Run.run_of_toOption hok
  obtain ⟨file, mode, hread, out, hmakes, hconsists, _, htracks, _, htogether⟩ :=
    exact_library named_twoAlbums (by decide) (by decide) vacant_oneTemplate hrun
  have htemplate : oneTemplate.readRegular intoM.source = .ok (AudioFile.silence, 0o644) := by rfl
  obtain ⟨rfl, rfl⟩ := Prod.mk.inj (Except.ok.inj (hread.symm.trans htemplate))
  exact ⟨out, hmakes, hconsists, htracks, htogether _ (List.mem_cons_of_mem _ List.mem_cons_self)⟩

end Exact

end Generation

end TaggedLibrary
