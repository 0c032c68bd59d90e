import TaggedLibrary.Proofs.Tagging
/-!
New tags for a file that was tagged before. The tag in front is cut off as a whole, so the new one
stands before the same audio, and a player shows the new tags and nothing of the old ones.
-/

namespace TaggedLibrary

namespace Id3v2

variable {t : TrackTags}

/-- A written tag is read back as one tag without a footer. -/
theorem isSingleTag_tagBytes (h : (frameBytes t).length + padding < sizeLimit) :
    IsSingleTag (tagBytes t) := by
  have hread := readHeader_tagBytes h []
  rw [List.append_nil, List.append_nil] at hread
  refine ⟨writtenHeader t, writtenContent t, hread, rfl, ?_, fun hfooter => by cases hfooter⟩
  rw [length_writtenContent]
  rfl

/-- The head of a written tag leads over the whole of it. -/
theorem drop_tagBytes (h : (frameBytes t).length + padding < sizeLimit) (rest : Bytes) :
    (tagBytes t ++ rest).drop
      (headerSize + sevenBits (((tagBytes t ++ rest).drop 6).take 4)) = rest := by
  have hsize : ((tagBytes t ++ rest).drop 6).take 4 =
      toSevenBits ((frameBytes t).length + padding) := by
    rw [tagBytes_append]
    rfl
  rw [hsize, sevenBits_toSevenBits h, ← length_tagBytes, List.drop_left]

end Id3v2

namespace FileKind

/-- A written tag begins like no other kind of file. -/
theorem ofMark?_tagBytes (t : TrackTags) (rest : Bytes) :
    ofMark? (Id3v2.tagBytes t ++ rest) = none := by
  rw [Id3v2.tagBytes_append]
  generalize Id3v2.toSevenBits _ ++ _ = behind
  have hother : ∀ s ∈ ["MAC", "FORM", "OggS", "fLaC", "RIFF", "wvpk", "MPCK", "MP+"],
      startsWith (0x49 :: 0x44 :: 0x33 :: 4 :: 0 :: 0 :: behind) s = false := by
    intro s hs
    simp only [List.mem_cons, List.not_mem_nil, or_false] at hs
    rcases hs with rfl | rfl | rfl | rfl | rfl | rfl | rfl | rfl <;> rfl
  have hname : startsWith ((0x49 :: 0x44 :: 0x33 :: 4 :: 0 :: 0 :: behind).drop 4) "ftyp" =
      false := rfl
  have hsync : Mpeg.isSync 0x49 0x44 = false := rfl
  rw [ofMark?, hname, hother _ (by simp), hother _ (by simp), hother _ (by simp),
    hother _ (by simp), hother _ (by simp), hother _ (by simp), hother _ (by simp),
    hother _ (by simp)]
  simp [hsync]

end FileKind

namespace AudioFile

variable {t t' : TrackTags} {audio : Bytes}

/-- A stream is told by its first header, and nothing else begins with one. -/
theorem IsBareAudio.ofStream?_eq (h : IsBareAudio audio) :
    FileKind.ofStream? audio = some .mpeg ∧
      ∀ s ∈ ["MAC", "fLa", "MPC", "MP+"], FileKind.startsWith audio s = false := by
  obtain ⟨first, second, rest, rfl, hs, hl⟩ := h.head
  have hsync : FileKind.ofSync second = .mpeg := by simp [FileKind.ofSync, hl]
  constructor
  · have htake : (first :: second :: rest).take junkLimit =
        first :: second :: rest.take (junkLimit - 2) := rfl
    rw [FileKind.ofStream?, htake, Mpeg.findSync, if_pos hs]
    simp only [hsync]
  · simp only [Mpeg.isSync, Bool.and_eq_true, beq_iff_eq] at hs
    obtain rfl := hs.1
    intro s hm
    simp only [List.mem_cons, List.not_mem_nil, or_false] at hm
    rcases hm with rfl | rfl | rfl | rfl <;> rfl

/-- Audio behind a written tag is taken for audio. -/
theorem kindFor_tagBytes (ha : IsBareAudio audio)
    (hs : (Id3v2.frameBytes t).length + Id3v2.padding < Id3v2.sizeLimit) (tag : TagKind) :
    kindFor tag (Id3v2.tagBytes t ++ audio) = .ok .mpeg := by
  obtain ⟨hstream, hother⟩ := ha.ofStream?_eq
  have hmarked : (Id3v2.tagBytes t ++ audio).take 3 = Id3v2.marker ∧
      Id3v2.headerSize ≤ (Id3v2.tagBytes t ++ audio).length := by
    constructor
    · rw [Id3v2.tagBytes_append]
      rfl
    · rw [List.length_append, Id3v2.length_tagBytes]
      omega
  have hkind : FileKind.ofContents? (Id3v2.tagBytes t ++ audio) = some .mpeg := by
    rw [FileKind.ofContents?, FileKind.ofMark?_tagBytes]
    simp only [if_pos hmarked, Id3v2.drop_tagBytes hs]
    rw [hother _ (by simp), hother _ (by simp), hother _ (by simp), hother _ (by simp)]
    exact hstream
  rw [kindFor, hkind]
  rfl

/-- A tag that is put into a tagged file takes the place of the one that is there. -/
theorem putId3v2_tagBytes (ha : IsBareAudio audio)
    (hs : (Id3v2.frameBytes t).length + Id3v2.padding < Id3v2.sizeLimit)
    (hs' : (Id3v2.frameBytes t').length + Id3v2.padding < Id3v2.sizeLimit) :
    putId3v2 t' (Id3v2.tagBytes t ++ audio) = .ok (Id3v2.tagBytes t' ++ audio) := by
  rw [putId3v2, kindFor_tagBytes ha hs, Id3v2.encode, if_pos hs',
    Id3v2.dropTag_append (Id3v2.isSingleTag_tagBytes hs)]
  rfl

theorem read_tagBytes (ha : IsBareAudio audio) (ht : t.Plain)
    (hs : (Id3v2.frameBytes t).length + Id3v2.padding < Id3v2.sizeLimit) :
    AudioFile.read (Id3v2.tagBytes t ++ audio) = .ok { id3v2 := some (Id3v2.plainFrames t) } := by
  obtain ⟨c, hc, _, hf⟩ := readContents_tagBytes ha hs (Id3v2.writtenFrames_plain ht hs)
  rw [AudioFile.read, hc, Except.map, hf]

end AudioFile

namespace TagWriter

variable {t t' : TrackTags} {audio : Bytes}

theorem replaceTags_tagBytes (ha : AudioFile.IsBareAudio audio) (ht : t.Plain)
    (hs : (Id3v2.frameBytes t).length + Id3v2.padding < Id3v2.sizeLimit)
    (hs' : (Id3v2.frameBytes t').length + Id3v2.padding < Id3v2.sizeLimit) :
    replaceTags t' (Id3v2.tagBytes t ++ audio) = .ok (Id3v2.tagBytes t' ++ audio) := by
  rw [replaceTags, AudioFile.read_tagBytes ha ht hs]
  simp only [bind, Except.bind, Option.isSome_none, cutIf, Bool.false_eq_true, if_false,
    AudioFile.putId3v2_tagBytes ha hs hs']

/-- Tags that are written to a tagged file succeed, and replace what was shown of it. -/
theorem run_id3v2_tagged {s : Session} {p : Path} {i mode : Nat} {modified : Instant}
    (hp : ScannedTrack.isAudio p = true) (hr : s.files.resolve p = .ok i)
    (hi : s.files.node? i = some (.file (Id3v2.tagBytes t ++ audio) mode modified))
    (ha : AudioFile.IsBareAudio audio) (ht : t.Plain)
    (hs : (Id3v2.frameBytes t).length + Id3v2.padding < Id3v2.sizeLimit)
    (hs' : (Id3v2.frameBytes t').length + Id3v2.padding < Id3v2.sizeLimit) :
    (id3v2 p t').run s = (.ok (), { s with
      files := FileTree.putBytes i (Id3v2.tagBytes t' ++ audio) s.files }) := by
  rcases run_id3v2 hp ⟨hr, modified, hi⟩ t' with ⟨e, s', _, he⟩ | ⟨out, hrun, hout⟩
  · rw [replaceTags_tagBytes ha ht hs hs'] at he
    cases he
  · rw [replaceTags_tagBytes ha ht hs hs'] at hout
    obtain rfl := Except.ok.inj hout
    exact hrun

end TagWriter

end TaggedLibrary
