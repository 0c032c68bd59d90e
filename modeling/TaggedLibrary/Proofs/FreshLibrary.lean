import TaggedLibrary.Proofs.Contents
import TaggedLibrary.Proofs.RunFrame
/-!
A library in a directory that was empty. All that is below it has been made in the run, so it is
known by the paths of the run: the directories of the artists and the albums, the files of the
tracks, each of them once, and nothing else.
-/

namespace TaggedLibrary.Generation

open FileTree (Below Changes Distinct IsEntry Leads Plain Shown contents)
open Verification (Expected InLibrary)
open TaggedLibrary.Path (IsNormal)

/-- An empty directory at the root of a library has been filled with the directories of albums and
the files of tracks, which hold what they should. -/
structure Filled (root : Path) (albums : Catalog) (es : List Expected) (content : Expected → Bytes)
    (d : Nat) (t t' : FileTree) : Prop where
  nonempty : root.bytes ≠ []
  named : ∀ a ∈ albums, a.Named
  inside : ∀ e ∈ es, InLibrary root e.path
  top : t.resolve root = .ok d
  empty : ∃ parent, t.node? d = some (.directory parent [])
  changes : Changes (MadeDirectory root albums) (fun p => ∃ e ∈ es, e.path = p) t t'
  made : ∀ a ∈ albums,
    FileTree.DirectoryAt t' (TrackFile.albumDirectory root a.artist a.title)
  written : ∀ e ∈ es, ∃ j mode modified, t'.resolve e.path = .ok j ∧
    t'.node? j = some (.file (content e) mode modified)

namespace Filled

variable {root : Path} {albums : Catalog} {es : List Expected} {content : Expected → Bytes}
  {d : Nat} {t t' : FileTree}

theorem lt (h : Filled root albums es content d t t') : d < t.nodes.size := by
  obtain ⟨_, hd⟩ := h.empty
  exact FileTree.lt_size hd

theorem plain (h : Filled root albums es content d t t') : Plain t' d := by
  obtain ⟨_, hd⟩ := h.empty
  exact ((FileTree.plain_of_empty hd).1.changes h.lt h.changes).1

theorem eq_of_old (h : Filled root albums es content d t t') {i : Nat} (hb : Below t' d i)
    (hi : i < t.nodes.size) : i = d := by
  obtain ⟨_, hd⟩ := h.empty
  obtain ⟨hplain, honly⟩ := FileTree.plain_of_empty hd
  exact honly i ((hplain.changes h.lt h.changes).2 i hi hb)

/-- Whatever the library's directory leads to is new. -/
theorem fresh (h : Filled root albums es content d t t') {ns : List Bytes} {j : Nat}
    (hl : Leads t' d ns j) (hne : ns ≠ []) : t.node? j = none := by
  refine Array.getElem?_eq_none (Nat.le_of_not_lt fun hlt => hne ?_)
  obtain rfl := h.eq_of_old hl.isBelow hlt
  exact hl.unique h.plain .top

theorem resolve_root (h : Filled root albums es content d t t') : t'.resolve root = .ok d :=
  h.changes.extends.resolve h.top

/-- The directories of an album and of its artist. -/
theorem album_ways (h : Filled root albums es content d t t') {a : Album} (ha : a ∈ albums) :
    ∃ k l, t'.resolve (root.joinText a.artist) = .ok k ∧
      t'.resolve (TrackFile.albumDirectory root a.artist a.title) = .ok l ∧
      IsEntry t' d (Utf8.encode a.artist) k ∧ IsEntry t' k (Utf8.encode a.title) l ∧
      ∃ parent entries, t'.node? l = some (.directory parent entries) := by
  obtain ⟨l, parent, entries, hl, hnode⟩ := h.made a ha
  have hartist := (h.named a ha).artist
  have hne := Path.bytes_join_ne_nil h.nonempty hartist
  obtain ⟨k, _, _, _, hk, _⟩ := FileTree.resolve_join hne (h.named a ha).title hl
  obtain ⟨hka, hbk⟩ := h.plain.resolve_join h.nonempty hartist h.resolve_root .top hk
  obtain ⟨hlb, _⟩ := h.plain.resolve_join hne (h.named a ha).title hk hbk hl
  exact ⟨k, l, hk, hl, hka, hlb, parent, entries, hnode⟩

/-- The way of a track, by its three names. -/
theorem track_way (h : Filled root albums es content d t t') {e : Expected} (he : e ∈ es) :
    ∃ a b c k l j, (∀ n ∈ [a, b, c], IsNormal n) ∧ e.path = root.down [a, b, c] ∧
      t'.resolve e.path = .ok j ∧ IsEntry t' d a k ∧ IsEntry t' k b l ∧ IsEntry t' l c j ∧
      ∃ mode modified, t'.node? j = some (.file (content e) mode modified) := by
  obtain ⟨j, mode, modified, hj, hnode⟩ := h.written e he
  obtain ⟨a, b, c, ha, hb, hc, hp⟩ := h.inside e he
  rw [hp] at hj
  obtain ⟨k, l, _, _, hka, hlb, hjc⟩ :=
    h.plain.resolve_three h.nonempty ha hb hc h.resolve_root hj
  refine ⟨a, b, c, k, l, j, ?_, hp, hp ▸ hj, hka, hlb, hjc, mode, modified, hnode⟩
  simp only [List.mem_cons, List.not_mem_nil, or_false]
  rintro n (rfl | rfl | rfl)
  · exact ha
  · exact hb
  · exact hc

/-- What is below the library's directory is the directory of an artist or an album, or the file
of a track. It is new, so the run has a path that leads there, and there is only one way to it. -/
theorem leads_cases (h : Filled root albums es content d t t') {ns : List Bytes} {j : Nat}
    {node : Node} (hl : Leads t' d ns j) (hne : ns ≠ []) (hnode : t'.node? j = some node) :
    (∀ n ∈ ns, IsNormal n) ∧ ((∃ a ∈ albums, (root.down ns = root.joinText a.artist ∨
        root.down ns = TrackFile.albumDirectory root a.artist a.title) ∧
        Shown.ofNode node = .directory) ∨
      ∃ e ∈ es, root.down ns = e.path ∧ Shown.ofNode node = .file (content e)) := by
  have hnew := h.fresh hl hne
  rcases h.changes.fresh hnew hnode with ⟨p, parent, entries, hp, hr, rfl⟩ |
    ⟨p, bytes, mode, modified, ⟨e, he, rfl⟩, hr, rfl⟩
  · rcases onTheWay_of_made h.nonempty h.named hp with hupper | ⟨a, ha, hsame⟩
    · obtain ⟨_, hempty⟩ := h.empty
      obtain ⟨old, hold⟩ :=
        FileTree.node?_of_upper h.changes.extends h.top hempty hupper hr
      rw [hnew] at hold
      cases hold
    · obtain ⟨k, l, hk, hl', hka, hlb, _⟩ := h.album_ways ha
      have hway : Leads t' d [Utf8.encode a.artist] k := .entry .top hka
      have hway' : Leads t' d [Utf8.encode a.artist, Utf8.encode a.title] l := .entry hway hlb
      rcases hsame with hs | hs
      · obtain rfl := FileTree.resolve_of_same hs hr hk
        obtain rfl := hl.unique h.plain hway
        refine ⟨?_, Or.inl ⟨a, ha, Or.inl rfl, rfl⟩⟩
        simpa using (h.named a ha).artist
      · obtain rfl := FileTree.resolve_of_same hs hr hl'
        obtain rfl := hl.unique h.plain hway'
        refine ⟨?_, Or.inl ⟨a, ha, Or.inr rfl, rfl⟩⟩
        simpa using ⟨(h.named a ha).artist, (h.named a ha).title⟩
  · obtain ⟨a, b, c, k, l, i, hnormal, hp, hi, hka, hlb, hjc, mode', modified', hfile⟩ :=
      h.track_way he
    rw [hr] at hi
    cases hi
    have hway : Leads t' d [a, b, c] j := .entry (.entry (.entry .top hka) hlb) hjc
    obtain rfl := hl.unique h.plain hway
    rw [hnode] at hfile
    cases hfile
    exact ⟨hnormal, Or.inr ⟨e, he, hp.symm, rfl⟩⟩

theorem listing_eq (h : Filled root albums es content d t t') :
    t'.listing root = t'.below (t'.nodes.size + 1) [] d := by
  rw [FileTree.listing, h.resolve_root]

/-- Below the root of a library that has been filled are the directories of the artists and the
albums and the files of the tracks, and nothing else. -/
theorem mem_contents (h : Filled root albums es content d t t') {p : Path} {shown : Shown} :
    (p, shown) ∈ contents t' root ↔
      (∃ a ∈ albums, (p = root.joinText a.artist ∨
        p = TrackFile.albumDirectory root a.artist a.title) ∧ shown = .directory) ∨
      ∃ e ∈ es, p = e.path ∧ shown = .file (content e) := by
  rw [contents, h.listing_eq, List.mem_map]
  constructor
  · rintro ⟨⟨ns, s⟩, hx, hp⟩
    obtain ⟨rfl, rfl⟩ := Prod.mk.inj hp
    obtain ⟨n, ms, j, node, hns, hl, hnode, rfl⟩ := FileTree.leads_of_mem_below .top hx
    have hne : ns ≠ [] := by
      rintro rfl
      cases hns
    exact (h.leads_cases hl hne hnode).2
  · have hbelow : ∀ {depth : Nat} {way : List Bytes} {i child : Nat} {n : Bytes} {node : Node},
        IsEntry t' i n child → t'.node? child = some node →
        (way ++ [n], Shown.ofNode node) ∈ t'.below (depth + 1) way i :=
      fun he hn => FileTree.mem_below_succ.mpr ⟨_, _, _, he, hn, Or.inl rfl⟩
    have hdown : ∀ {depth : Nat} {way : List Bytes} {i child : Nat} {n : Bytes}
        {x : List Bytes × Shown}, IsEntry t' i n child →
        x ∈ t'.below (depth + 1) (way ++ [n]) child → x ∈ t'.below (depth + 2) way i := by
      intro depth way i child n x he hx
      obtain ⟨_, _, _, ⟨_, _, hchild, _⟩, _⟩ := FileTree.mem_below_succ.mp hx
      exact FileTree.mem_below_succ.mpr ⟨_, _, _, he, hchild, Or.inr hx⟩
    rintro (⟨a, ha, hp, rfl⟩ | ⟨e, he, rfl, rfl⟩)
    · obtain ⟨k, l, _, _, hka, hlb, parent, entries, hnode⟩ := h.album_ways ha
      obtain ⟨m, hm⟩ : ∃ m, t'.nodes.size = m + 1 :=
        Nat.exists_eq_succ_of_ne_zero (by have := hka.lt; omega)
      rw [hm]
      rcases hp with rfl | rfl
      · obtain ⟨up, names, hk, _⟩ := id hlb
        exact ⟨_, hbelow hka hk, rfl⟩
      · exact ⟨_, hdown hka (hbelow hlb hnode), rfl⟩
    · obtain ⟨a, b, c, k, l, j, _, hp, _, hka, hlb, hjc, mode, modified, hnode⟩ := h.track_way he
      have hkd : k ≠ d := by
        rintro rfl
        exact h.plain.top .top hka
      obtain ⟨m, hm⟩ : ∃ m, t'.nodes.size = m + 2 := by
        have := hka.lt
        have := hlb.lt
        exact ⟨t'.nodes.size - 2, by omega⟩
      rw [hm]
      exact ⟨_, hdown hka (hdown hlb (hbelow hjc hnode)), by rw [hp]; rfl⟩

/-- Every name in the library is there once. -/
theorem distinct (h : Filled root albums es content d t t') {j : Nat} (hb : Below t' d j) :
    Distinct t' j := by
  refine h.changes.distinct fun parent entries hj => ?_
  obtain rfl := h.eq_of_old hb (FileTree.lt_size hj)
  obtain ⟨_, hempty⟩ := h.empty
  rw [hempty] at hj
  cases hj
  exact List.nodup_nil

/-- The names on the ways in the library are normal. -/
theorem normal (h : Filled root albums es content d t t') {ns : List Bytes} {j : Nat}
    (hl : Leads t' d ns j) : ∀ n ∈ ns, IsNormal n := by
  by_cases hne : ns = []
  · subst hne
    exact fun n hn => absurd hn List.not_mem_nil
  cases hnode : t'.node? j with
  | some node => exact (h.leads_cases hl hne hnode).1
  | none =>
    cases hl with
    | top => exact absurd rfl hne
    | entry hi he =>
      have hlt := h.plain.inside hi.isBelow he
      have hle := FileTree.node?_eq_none hnode
      omega

/-- Nothing below the root of a library that has been filled is there twice. -/
theorem nodup_contents (h : Filled root albums es content d t t') :
    ((contents t' root).map Prod.fst).Nodup := by
  have hways : ((t'.below (t'.nodes.size + 1) [] d).map Prod.fst).Nodup :=
    FileTree.nodup_below h.distinct .top
  have hmap : (contents t' root).map Prod.fst =
      ((t'.below (t'.nodes.size + 1) [] d).map Prod.fst).map root.down := by
    rw [contents, h.listing_eq, List.map_map, List.map_map]
    rfl
  have hnormal : ∀ ns ∈ (t'.below (t'.nodes.size + 1) [] d).map Prod.fst,
      ∀ n ∈ ns, IsNormal n := by
    intro ns hns
    obtain ⟨x, hx, rfl⟩ := List.mem_map.mp hns
    obtain ⟨_, _, _, _, _, hl, _⟩ := FileTree.leads_of_mem_below .top hx
    exact h.normal hl
  rw [hmap]
  exact hways.map_on fun ns hns ms hms hsame =>
    Path.down_injective h.nonempty (hnormal ns hns) (hnormal ms hms) hsame

end Filled

section Run

variable {paths : LibraryPaths} {catalog : Catalog} {write : TagWriter} {s s' : Session} {n : Nat}

theorem makeAlbumDirectory_made {root directory : Path} {album : Album} (hne : root.bytes ≠ [])
    (hup : .parent ∉ root.components) (ha : album.Named)
    (h : (TrackFile.makeAlbumDirectory root album.artist album.title).run s =
      (.ok directory, s')) :
    FileTree.DirectoryAt s'.files (TrackFile.albumDirectory root album.artist album.title) := by
  obtain ⟨_, w, hmade, hpure⟩ := Run.run_bind_ok (Run.run_during_ok h)
  cases hpure
  have hsteps : (TrackFile.albumDirectory root album.artist album.title).components =
      (root.components ++ [.name (Utf8.encode album.artist)]) ++
        [.name (Utf8.encode album.title)] := by
    rw [(Verification.components_album hne ha).2, List.append_assoc]
    rfl
  exact FileTree.directoryAt_of_made (by simpa using hup) (by simp) hsteps
    (Run.run_onFiles_ok hmade).1

theorem writeAlbum_made {album : Album} (hne : paths.destination.bytes ≠ [])
    (hup : .parent ∉ paths.destination.components) (ha : album.Named)
    (hw : ∀ p tags, (write p tags).Within (fun _ => True) (· = p))
    (h : (writeAlbum paths write album).run s = (.ok n, s')) : FileTree.DirectoryAt s'.files
      (TrackFile.albumDirectory paths.destination album.artist album.title) := by
  unfold writeAlbum at h
  obtain ⟨directory, u, hmade, hmore⟩ := Run.run_bind_ok h
  have hgrown : Changes (fun _ => True) (fun _ => True) u.files s'.files :=
    ((Run.within_report _).bind fun _ => writeTracks_within hw paths.source directory album
      album.numberedTracks fun _ _ => trivial).changes hmore
  exact (makeAlbumDirectory_made hne hup ha hmade).extends hgrown.extends

/-- Every album that has been written has its directory. -/
theorem writeAlbums_made (hne : paths.destination.bytes ≠ [])
    (hup : .parent ∉ paths.destination.components) (hn : ∀ a ∈ catalog, a.Named)
    (hw : ∀ p tags, (write p tags).Within (fun _ => True) (· = p))
    (h : (writeAlbums paths write catalog).run s = (.ok n, s')) :
    ∀ a ∈ catalog, FileTree.DirectoryAt s'.files
      (TrackFile.albumDirectory paths.destination a.artist a.title) := by
  induction catalog generalizing s n with
  | nil => exact fun a ha => absurd ha List.not_mem_nil
  | cons album rest ih =>
    obtain ⟨halbum, hrest⟩ := List.forall_mem_cons.mp hn
    unfold writeAlbums at h
    obtain ⟨count, u, hone, hmore⟩ := Run.run_bind_ok h
    obtain ⟨m, _, hothers, hpure⟩ := Run.run_bind_ok hmore
    cases hpure
    have hgrown : Changes (fun _ => True) (fun _ => True) u.files s'.files :=
      (writeAlbums_within hw paths rest (fun _ _ => trivial) fun _ _ => trivial).changes hothers
    exact List.forall_mem_cons.mpr
      ⟨(writeAlbum_made hne hup halbum hw hone).extends hgrown.extends, ih hrest hothers⟩

/-- Where an album has been written, the system takes the path of the library. -/
theorem refuse?_of_writeAlbums (hne : paths.destination.bytes ≠ [])
    (hup : .parent ∉ paths.destination.components) (hn : ∀ a ∈ catalog, a.Named)
    (hw : ∀ p tags, (write p tags).Within (fun _ => True) (· = p)) (hsome : catalog ≠ [])
    (h : (writeAlbums paths write catalog).run s = (.ok n, s')) :
    FileTree.refuse? paths.destination = none := by
  obtain ⟨album, ha⟩ := List.exists_mem_of_ne_nil catalog hsome
  obtain ⟨l, _, _, hl, _⟩ := writeAlbums_made hne hup hn hw h album ha
  have hartist := (hn album ha).artist
  refine FileTree.refuse?_of_join hne hartist (FileTree.refuse?_of_join
    (Path.bytes_join_ne_nil hne hartist) (hn album ha).title ?_)
  exact (FileTree.resolve_eq_ok.mp hl).1

/-- Albums that are written to an empty directory fill it, if their tracks hold what they should in
the end. -/
theorem filled_of_writeAlbums {content : Expected → Bytes} {d parent : Nat}
    (hne : paths.destination.bytes ≠ []) (hup : .parent ∉ paths.destination.components)
    (hn : ∀ a ∈ catalog, a.Named)
    (hw : ∀ dirs p tags, (write p tags).Within dirs (· = p))
    (hd : s.files.resolve paths.destination = .ok d)
    (hempty : s.files.node? d = some (.directory parent []))
    (h : (writeAlbums paths write catalog).run s = (.ok n, s'))
    (hcontent : ∀ e ∈ Verification.expected paths.destination catalog, ∃ j mode modified,
      s'.files.resolve e.path = .ok j ∧
        s'.files.node? j = some (.file (content e) mode modified)) :
    Filled paths.destination catalog (Verification.expected paths.destination catalog) content d
      s.files s'.files where
  nonempty := hne
  named := hn
  inside := fun _ he => (Verification.inLibrary_of_expected hne hn he).1
  top := hd
  empty := ⟨parent, hempty⟩
  changes := (writeAlbums_within (hw _) paths catalog (fun _ h => h) fun _ h => h).changes h
  made := writeAlbums_made hne hup hn (hw _) h
  written := hcontent

end Run

end TaggedLibrary.Generation
