import TaggedLibrary.Proofs.ScanOrder
/-!
What the names of the files of an album tell. A number and a title can be read off a name again, so
tracks that differ in one of them have different names; numbers of two digits put the names in their
order, whatever the titles are.
-/

namespace TaggedLibrary

namespace Album

/-- The names of the files of an album, in the order of its tracks. -/
def fileNames (a : Album) : List String :=
  a.numberedTracks.map fun track => TrackFile.name track.1 track.2

variable {a : Album} {i j : Nat}

theorem length_fileNames (a : Album) : a.fileNames.length = a.tracks.length := by
  rw [fileNames, List.length_map, length_numberedTracks]

theorem getElem?_fileNames (a : Album) (i : Nat) :
    a.fileNames[i]? = a.tracks[i]?.map (TrackFile.name (UInt32.ofNat i + 1)) := by
  rw [fileNames, numberedTracks, List.map_map, List.getElem?_map, List.getElem?_zipIdx,
    Option.map_map, Nat.zero_add]
  rfl

/-- Numbers of 32 bits come round again after `2 ^ 32` tracks. -/
theorem number_eq_iff (hij : i < j) :
    UInt32.ofNat i + 1 = UInt32.ofNat j + 1 ↔ 2 ^ 32 ∣ j - i := by
  rw [UInt32.add_left_inj, ← UInt32.toNat_inj, UInt32.toNat_ofNat', UInt32.toNat_ofNat']
  omega

/-- Two tracks have one name only if they have one title and the numbers have come round. -/
theorem fileNames_eq_iff (hij : i < j) (hj : j < a.tracks.length) :
    a.fileNames[i]? = a.fileNames[j]? ↔ 2 ^ 32 ∣ j - i ∧ a.tracks[i]? = a.tracks[j]? := by
  have hi : i < a.tracks.length := Nat.lt_trans hij hj
  rw [getElem?_fileNames, getElem?_fileNames, List.getElem?_eq_getElem hi,
    List.getElem?_eq_getElem hj, Option.map_some, Option.map_some, Option.some.injEq,
    Option.some.injEq, ← number_eq_iff hij]
  constructor
  · exact TrackFile.eq_of_name_eq
  · rintro ⟨hnumber, htitle⟩
    rw [hnumber, htitle]

theorem nodup_fileNames (h : a.tracks.length ≤ 2 ^ 32) : a.fileNames.Nodup := by
  rw [List.nodup_iff_getElem?_ne_getElem?]
  intro i j hij hj he
  rw [length_fileNames] at hj
  have hround := Nat.le_of_dvd (Nat.sub_pos_of_lt hij) ((fileNames_eq_iff hij hj).mp he).1
  omega

end Album

/-- Bytes are compared as the numbers that they are. -/
theorem Bytes.lt_of_map_toNat {b c : Bytes} (h : b.map UInt8.toNat < c.map UInt8.toNat) : b < c := by
  induction b generalizing c with
  | nil =>
    cases c with
    | nil => exact absurd h (lt_irrefl _)
    | cons y c => exact .nil
  | cons x b ih =>
    cases c with
    | nil => exact absurd h (List.not_lt_nil _)
    | cons y c =>
      rcases List.cons_lt_cons_iff.mp h with hlt | ⟨heq, hrest⟩
      · exact .rel (UInt8.lt_iff_toNat_lt.mpr hlt)
      · rw [UInt8.toNat_inj.mp heq]
        exact .cons (ih hrest)

namespace TrackFile

theorem encode_name_lt {m n : UInt32} {s t : String} (h : m < n) (hn : n ≤ 99) :
    Utf8.encode (name m s) < Utf8.encode (name n t) := by
  have hhundred : n.toNat < 100 := Nat.lt_succ_of_le (UInt32.le_iff_toNat_le.mp hn)
  have hkey := key_name_lt (s := s) (t := t) hhundred (UInt32.lt_iff_toNat_lt.mp h)
  rcases List.cons_lt_cons_iff.mp hkey with hkind | ⟨_, hbytes⟩
  · exact absurd hkind (lt_irrefl _)
  · exact Bytes.lt_of_map_toNat hbytes

def oneSongTwice : Album :=
  { artist := "A", title := "B", year := "1998", genre := "Pop", tracks := ["1 T.mp3", "1 T.mp3"] }

end TrackFile

end TaggedLibrary
