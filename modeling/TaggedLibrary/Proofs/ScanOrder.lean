import Mathlib.Data.List.Lex
import TaggedLibrary.Proofs.FreshLibrary
import TaggedLibrary.Proofs.VerifiedLibrary
/-!
The order in which a scan lists a library. Paths are compared name by name, so what is in one
directory stands together, and numbers of two digits stand in their order.
-/

namespace TaggedLibrary

section Between

variable {α : Type}

/-- After one of a kind, in a list that goes up, come the others of that kind first. -/
theorem first_of_between {r : α → α → Prop} {mine : α → Bool} {x : α} {l : List α}
    (hr : (x :: l).Pairwise r) (hx : mine x = true)
    (hm : ∀ {a b c}, r a b → r b c → mine a = true → mine c = true → mine b = true) :
    l.filter mine <+: l := by
  induction l with
  | nil => exact List.nil_prefix
  | cons y l ih =>
    obtain ⟨hafter, hrest⟩ := List.pairwise_cons.mp hr
    have hxl : (x :: l).Pairwise r :=
      List.pairwise_cons.mpr ⟨fun z hz => hafter z (List.mem_cons_of_mem _ hz), hrest.of_cons⟩
    by_cases hy : mine y = true
    · rw [List.filter_cons_of_pos hy]
      exact (List.prefix_cons_inj y).mpr (ih hxl)
    · have hnone : l.filter mine = [] := by
        rw [List.filter_eq_nil_iff]
        intro z hz hmine
        exact hy (hm (hafter y List.mem_cons_self) ((List.pairwise_cons.mp hrest).1 z hz) hx hmine)
      rw [List.filter_cons_of_neg hy, hnone]
      exact List.nil_prefix

/-- In a list that goes up, those of a kind stand together if all between two of them are of that
kind. -/
theorem together_of_between {r : α → α → Prop} {mine : α → Bool} {l : List α} (hr : l.Pairwise r)
    (hm : ∀ {a b c}, r a b → r b c → mine a = true → mine c = true → mine b = true) :
    l.filter mine <:+: l := by
  induction l with
  | nil => exact List.infix_refl _
  | cons x l ih =>
    by_cases hx : mine x = true
    · rw [List.filter_cons_of_pos hx]
      exact ((List.prefix_cons_inj x).mpr (first_of_between hr hx hm)).isInfix
    · rw [List.filter_cons_of_neg hx]
      exact List.infix_cons (ih hr.of_cons)

/-- Between two lists with one beginning there are only lists with that beginning. -/
theorem begins_of_between [LinearOrder α] {k a b c : List α} (ha : k <+: a) (hc : k <+: c)
    (hab : a ≤ b) (hbc : b ≤ c) : k <+: b := by
  induction k generalizing a b c with
  | nil => exact List.nil_prefix
  | cons x k ih =>
    obtain ⟨a, rfl⟩ := ha
    obtain ⟨c, rfl⟩ := hc
    cases b with
    | nil => exact absurd (List.Lex.nil) (not_lt.mpr hab)
    | cons y b =>
      have hxy : ¬ y < x := fun h => not_lt.mpr hab (.rel h)
      have hyx : ¬ x < y := fun h => not_lt.mpr hbc (.rel h)
      obtain rfl := le_antisymm (not_lt.mp hyx) (not_lt.mp hxy)
      refine (List.prefix_cons_inj y).mpr (ih (List.prefix_append k a) (List.prefix_append k c) ?_ ?_)
      · exact not_lt.mp fun h => not_lt.mpr hab (.cons h)
      · exact not_lt.mp fun h => not_lt.mpr hbc (.cons h)

end Between

theorem Component.key_injective : Function.Injective Component.key := by
  have hbytes : Function.Injective (List.map UInt8.toNat) :=
    Function.Injective.list_map fun _ _ h => UInt8.toNat_inj.mp h
  intro c c' h
  cases c <;> cases c' <;> first
    | rfl
    | exact congrArg Component.name (hbytes (List.cons.inj h).2)
    | exact absurd h (by simp [Component.key])

namespace Path

variable {p q root : Path}

/-- Paths with one key take the same steps. -/
theorem same_of_key (h : p.key = q.key) : p.Same q :=
  Component.key_injective.list_map h

/-- Sorting puts paths in the order of their keys. -/
theorem pairwise_mergeSort_key (ps : List Path) :
    (ps.mergeSort fun a b => decide (¬ b.key < a.key)).Pairwise fun p q => p.key ≤ q.key := by
  refine (List.pairwise_mergeSort (fun a b c hab hbc => ?_) (fun a b => ?_) ps).imp ?_
  · simp only [decide_eq_true_eq, not_lt] at hab hbc ⊢
    exact le_trans hab hbc
  · simp only [Bool.or_eq_true, decide_eq_true_eq, not_lt]
    exact le_total _ _
  · intro p q h
    simpa using h

/-- Whether a path takes the first steps of another one. -/
def isAbove (p q : Path) : Bool := p.key.isPrefixOf q.key

theorem isAbove_iff : p.isAbove q = true ↔ p.key <+: q.key := List.isPrefixOf_iff_prefix

theorem key_three {a b c : Bytes} (hne : root.bytes ≠ []) (ha : IsNormal a) (hb : IsNormal b)
    (hc : IsNormal c) : (((root.join ⟨a⟩).join ⟨b⟩).join ⟨c⟩).key = root.key ++
      [(Component.name a).key, (Component.name b).key, (Component.name c).key] := by
  rw [key, Verification.components_three hne ha hb hc, List.map_append]
  rfl

end Path

namespace TrackFile

theorem bytes_twoDigits : ∀ n < 100,
    (Utf8.encode (twoDigits n)).map UInt8.toNat = [48 + n / 10, 48 + n % 10] := by
  decide

/-- Names of tracks are in the order of their numbers, as long as these have two digits. -/
theorem key_name_lt {m n : UInt32} {s t : String} (hn : n.toNat < 100) (h : m.toNat < n.toNat) :
    (Component.name (Utf8.encode (name m s))).key < (Component.name (Utf8.encode (name n t))).key := by
  have hbytes : ∀ (k : UInt32) (title : String), k.toNat < 100 → ∃ rest,
      (Component.name (Utf8.encode (name k title))).key =
        3 :: (48 + k.toNat / 10) :: (48 + k.toNat % 10) :: rest := by
    intro k title hk
    refine ⟨(Utf8.encode (" " ++ title ++ ".mp3")).map UInt8.toNat, ?_⟩
    rw [Component.key, name, Utf8.encode_append, Utf8.encode_append, Utf8.encode_append,
      List.append_assoc, List.append_assoc, List.map_append, bytes_twoDigits _ hk,
      Utf8.encode_append, Utf8.encode_append, List.append_assoc]
    rfl
  obtain ⟨rest, hm⟩ := hbytes m s (h.trans hn)
  obtain ⟨rest', hn'⟩ := hbytes n t hn
  rw [hm, hn']
  apply List.Lex.cons
  by_cases htens : m.toNat / 10 = n.toNat / 10
  · rw [htens]
    exact .cons (.rel (by omega))
  · exact .rel (by omega)

end TrackFile

namespace Verification

open TaggedLibrary.Path (IsNormal)

section Order

variable {root p q : Path} {album other : Album} {catalog : Catalog} {e : Expected}

/-- Paths in the library that take the same steps are one path. -/
theorem eq_of_inLibrary (hne : root.bytes ≠ []) (hp : InLibrary root p) (hq : InLibrary root q)
    (h : p.Same q) : p = q := by
  obtain ⟨a, b, c, ha, hb, hc, rfl⟩ := hp
  obtain ⟨a', b', c', ha', hb', hc', rfl⟩ := hq
  rw [Path.Same, components_three hne ha hb hc, components_three hne ha' hb' hc'] at h
  have hnames := List.append_cancel_left h
  simp only [List.cons.injEq, Component.name.injEq, and_true] at hnames
  obtain ⟨rfl, rfl, rfl⟩ := hnames
  rfl

/-- The names of a track by which its path is compared. -/
theorem key_of_expected (hne : root.bytes ≠ []) (ha : album.Named)
    (he : e ∈ expectedOfAlbum root album) : ∃ track ∈ album.numberedTracks,
      e = expectedTrack (TrackFile.albumDirectory root album.artist album.title) album track ∧
      e.path.key = root.key ++ [(Component.name (Utf8.encode album.artist)).key,
        (Component.name (Utf8.encode album.title)).key,
        (Component.name (Utf8.encode (TrackFile.name track.1 track.2))).key] := by
  rw [expectedOfAlbum_eq] at he
  obtain ⟨track, ht, rfl⟩ := List.mem_map.mp he
  refine ⟨track, ht, rfl, ?_⟩
  rw [path_expectedTrack_names]
  exact Path.key_three hne ha.artist ha.title
    (TrackFile.isNormal_name (ha.tracks _ (Album.mem_tracks ht)))

/-- The tracks of an album are in the order of their paths. -/
theorem expectedOfAlbum_ascend (hne : root.bytes ≠ []) (ha : album.Named)
    (hfew : album.tracks.length ≤ 99) :
    ((expectedOfAlbum root album).map (·.path)).Pairwise fun p q => p.key < q.key := by
  rw [expectedOfAlbum_eq, List.map_map, List.pairwise_map]
  have hlt : album.tracks.length < 2 ^ 32 := by omega
  apply (Album.numberedTracks_ascend hlt).imp_of_mem
  intro x y hx hy hxy
  have hnumber : y.1.toNat < 100 := by
    have hmem := List.mem_map_of_mem (f := fun track : UInt32 × String => track.1.toNat) hy
    rw [Album.numbers_numberedTracks hlt, List.mem_range'_1] at hmem
    omega
  have hname : ∀ {track}, track ∈ album.numberedTracks →
      IsNormal (Utf8.encode (TrackFile.name track.1 track.2)) := fun ht =>
    TrackFile.isNormal_name (ha.tracks _ (Album.mem_tracks ht))
  simp only [Function.comp_apply, path_expectedTrack_names]
  rw [Path.key_three hne ha.artist ha.title (hname hx),
    Path.key_three hne ha.artist ha.title (hname hy)]
  exact List.Lex.append_left _ (.cons (.cons (.rel (TrackFile.key_name_lt hnumber hxy)))) _

/-- What is in the directory of an album are the tracks of that album. -/
theorem in_album_iff (hne : root.bytes ≠ []) (ha : album.Named) (hb : other.Named)
    (he : e ∈ expectedOfAlbum root other) :
    (TrackFile.albumDirectory root album.artist album.title).key <+: e.path.key ↔
      (album.artist, album.title) = (other.artist, other.title) := by
  obtain ⟨track, _, _, hkey⟩ := key_of_expected hne hb he
  have hdirectory : (TrackFile.albumDirectory root album.artist album.title).key = root.key ++
      [(Component.name (Utf8.encode album.artist)).key,
        (Component.name (Utf8.encode album.title)).key] := by
    rw [Path.key, (components_album hne ha).2, List.map_append]
    rfl
  have hname : ∀ {s t : String}, (Component.name (Utf8.encode s)).key =
      (Component.name (Utf8.encode t)).key ↔ s = t := by
    intro s t
    refine ⟨fun h => Utf8.encode_injective ?_, fun h => by rw [h]⟩
    exact Component.name.inj (Component.key_injective h)
  rw [hkey, hdirectory, List.prefix_append_right_inj]
  simp only [List.cons_prefix_cons, List.nil_prefix, and_true, hname, Prod.mk.injEq]

/-- The tracks in the directory of an album are those that the catalog has there. -/
theorem filter_expected (hne : root.bytes ≠ []) (hn : ∀ a ∈ catalog, a.Named)
    (hd : catalog.Pairwise fun a b => (a.artist, a.title) ≠ (b.artist, b.title))
    (ha : album ∈ catalog) : ((expected root catalog).map (·.path)).filter
      (TrackFile.albumDirectory root album.artist album.title).isAbove =
      (expectedOfAlbum root album).map (·.path) := by
  obtain ⟨front, back, rfl⟩ := List.append_of_mem ha
  have hnone : ∀ others : Catalog, (∀ b ∈ others, b.Named ∧
      (album.artist, album.title) ≠ (b.artist, b.title)) →
      ((expected root others).map (·.path)).filter
        (TrackFile.albumDirectory root album.artist album.title).isAbove = [] := by
    intro others hothers
    rw [List.filter_eq_nil_iff]
    intro p hp habove
    obtain ⟨e, he, rfl⟩ := List.mem_map.mp hp
    obtain ⟨other, ho, he⟩ := List.mem_flatMap.mp he
    obtain ⟨hb, hne'⟩ := hothers other ho
    exact hne' ((in_album_iff hne (hn album ha) hb he).mp (Path.isAbove_iff.mp habove))
  have hown : ((expectedOfAlbum root album).map (·.path)).filter
      (TrackFile.albumDirectory root album.artist album.title).isAbove =
      (expectedOfAlbum root album).map (·.path) := by
    rw [List.filter_eq_self]
    intro p hp
    obtain ⟨e, he, rfl⟩ := List.mem_map.mp hp
    exact Path.isAbove_iff.mpr ((in_album_iff hne (hn album ha) (hn album ha) he).mpr rfl)
  obtain ⟨_, hback, hfront⟩ := List.pairwise_append.mp hd
  have hsplit : expected root (front ++ album :: back) =
      expected root front ++ (expectedOfAlbum root album ++ expected root back) := by
    rw [expected, List.flatMap_append, List.flatMap_cons]
    rfl
  rw [hsplit, List.map_append, List.map_append, List.filter_append, List.filter_append, hown,
    hnone front, hnone back, List.append_nil, List.nil_append]
  · intro b hb
    exact ⟨hn b (by simp [hb]), (List.pairwise_cons.mp hback).1 b hb⟩
  · intro b hb
    exact ⟨hn b (by simp [hb]), (hfront b hb album List.mem_cons_self).symm⟩

/-- In the order of their paths, the tracks of an album stand together, in the order of their
numbers. -/
theorem sorted_expected (hne : root.bytes ≠ []) (hn : ∀ a ∈ catalog, a.Named)
    (hd : catalog.Pairwise fun a b => (a.artist, a.title) ≠ (b.artist, b.title))
    (hfew : album.tracks.length ≤ 99) (ha : album ∈ catalog) {ps : List Path}
    (hps : ps.Perm ((expected root catalog).map (·.path))) :
    (expectedOfAlbum root album).map (·.path) <:+:
      ps.mergeSort fun a b => decide (¬ b.key < a.key) := by
  have hsorted := Path.pairwise_mergeSort_key ps
  let mine := (TrackFile.albumDirectory root album.artist album.title).isAbove
  have htogether : (ps.mergeSort fun a b => decide (¬ b.key < a.key)).filter mine <:+:
      ps.mergeSort fun a b => decide (¬ b.key < a.key) :=
    together_of_between hsorted fun hab hbc hx hz => Path.isAbove_iff.mpr
      (begins_of_between (Path.isAbove_iff.mp hx) (Path.isAbove_iff.mp hz) hab hbc)
  have hperm := ((List.mergeSort_perm ps fun a b => decide (¬ b.key < a.key)).trans hps).filter mine
  rw [filter_expected hne hn hd ha] at hperm
  have hinside : ∀ p ∈ (expectedOfAlbum root album).map (·.path), InLibrary root p := by
    intro p hp
    obtain ⟨e, he, rfl⟩ := List.mem_map.mp hp
    exact (inLibrary_of_mem hne (hn album ha) he).1
  have hsame : (ps.mergeSort fun a b => decide (¬ b.key < a.key)).filter mine =
      (expectedOfAlbum root album).map (·.path) := by
    refine List.Perm.eq_of_pairwise (fun p q hp hq hpq hqp => ?_) (hsorted.filter mine)
      ((expectedOfAlbum_ascend hne (hn album ha) hfew).imp le_of_lt) hperm
    exact eq_of_inLibrary hne (hinside p (hperm.mem_iff.mp hp)) (hinside q hq)
      (Path.same_of_key (le_antisymm hpq hqp))
  rwa [hsame] at htogether

end Order

end Verification

end TaggedLibrary
