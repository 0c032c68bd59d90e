import TaggedLibrary.Proofs.WrittenTag
import TaggedLibrary.ScannedTrack
import TaggedLibrary.Tag.Saving
/-!
Audio without tags, and what reading and saving make of it behind a tag. Where the audio stands in
a file moves the first frame by as much, and the end of the file is read as before.
-/

namespace TaggedLibrary

namespace Mpeg

theorem findSync_shift (k offset : Nat) (b : Bytes) :
    findSync (offset + k) b = (findSync offset b).map fun (place, found) => (place + k, found) := by
  induction b generalizing offset with
  | nil => rfl
  | cons x rest ih =>
    cases rest with
    | nil => rfl
    | cons y rest =>
      rw [findSync, findSync]
      by_cases hs : isSync x y = true
      · rw [if_pos hs, if_pos hs]
        rfl
      · rw [if_neg hs, if_neg hs, Nat.add_right_comm]
        exact ih (offset + 1)

/-- Counting from elsewhere changes the place of the first frame and nothing else. -/
theorem findFrameWithin_shift (k fuel offset : Nat) (b : Bytes) :
    findFrameWithin fuel (offset + k) b =
      (findFrameWithin fuel offset b).map fun found =>
        found.map fun (header, place) => (header, place + k) := by
  induction fuel generalizing offset b with
  | zero => rfl
  | succ fuel ih =>
    rw [findFrameWithin, findFrameWithin, findSync_shift]
    rcases findSync offset b with _ | ⟨place, found⟩
    · rfl
    · simp only [Option.map_some]
      by_cases hl : lacks 4 found = true
      · rw [if_pos hl, if_pos hl]
        rfl
      · rw [if_neg hl, if_neg hl]
        cases Candidate.test found with
        | frame header => rfl
        | cutShort => rfl
        | none further =>
          have he : place + k + further + 4 = place + further + 4 + k := by omega
          simp only [he]
          exact ih _ _

theorem findFrame_shift (k : Nat) (b : Bytes) :
    findFrame k b = (findFrame 0 b).map fun found =>
      found.map fun (header, place) => (header, place + k) := by
  have h := findFrameWithin_shift k (b.length + 1) 0 b
  rw [Nat.zero_add] at h
  exact h

end Mpeg

namespace AudioFile

/-- Bytes that begin with the header of a frame of Layer III. -/
def StartsFrame (b : Bytes) : Prop :=
  ∃ first second rest, b = first :: second :: rest ∧ Mpeg.isSync first second = true ∧
    second.toNat / 2 % 4 = 1

/-- Audio without tags: it begins with the header of a frame of Layer III, the reader finds no tag
in it and no fault, and there is room for the tags that may stand at its end. -/
structure IsBareAudio (b : Bytes) : Prop where
  head : ∃ first second rest, b = first :: second :: rest ∧ Mpeg.isSync first second = true ∧
    second.toNat / 2 % 4 = 1
  long : Id3v1.size + Ape.frameSize ≤ b.length
  readable : ∃ c, readContents b = .ok c ∧ hasProperties b c = true ∧ c.tags = {}

/-- A reading of the front, which lies before the end. -/
theorem readContents_eq_ok {file : Bytes} {c : Contents} :
    readContents file = .ok c ↔ ∃ front back, readFront file = .ok front ∧
      readBack file = .ok back ∧
      c = { tags := { front.tags with id3v1 := back.id3v1, ape := back.ape.or front.tags.ape }
            frame := front.frame } := by
  have hbind : readContents file = (readFront file).bind fun front => (readBack file).bind
      fun back => .ok
        { tags := { front.tags with id3v1 := back.id3v1, ape := back.ape.or front.tags.ape }
          frame := front.frame } := rfl
  rw [hbind]
  cases hf : readFront file with
  | error e => simp [Except.bind]
  | ok front =>
    cases hb : readBack file with
    | error e => simp [Except.bind]
    | ok back => simp [Except.bind, eq_comm]

theorem read_eq_ok {file : Bytes} {tags : AudioTags} :
    AudioFile.read file = .ok tags ↔ ∃ front back, readFront file = .ok front ∧
      readBack file = .ok back ∧
      tags = { front.tags with id3v1 := back.id3v1, ape := back.ape.or front.tags.ape } := by
  rw [AudioFile.read]
  constructor
  · intro h
    rcases hc : readContents file with e | c
    · rw [hc] at h
      cases h
    · rw [hc] at h
      cases h
      rw [readContents_eq_ok] at hc
      obtain ⟨front, back, hfront, hback, rfl⟩ := hc
      exact ⟨front, back, hfront, hback, rfl⟩
  · rintro ⟨front, back, hfront, hback, rfl⟩
    rw [Iff.mpr readContents_eq_ok ⟨front, back, hfront, hback, rfl⟩]
    rfl

theorem readBack_eq_ok_none {file : Bytes} {back : Back} (h : readBack file = .ok back)
    (hn : back.ape = none) : readTailApe file = .ok none := by
  unfold readBack at h
  rcases hr : readTailApe file with e | _ | ⟨tag, stop⟩
  · rw [hr] at h
    cases h
  · rfl
  · rw [hr] at h
    simp only [bind, Except.bind] at h
    split at h
    · cases h
    · cases h
      cases hn

theorem readBack_of_bare {file : Bytes} (h1 : Id3v1.find? file = none)
    (ha : readTailApe file = .ok none) : readBack file = .ok ⟨none, none⟩ := by
  rw [readBack, h1, ha]
  rfl

theorem readBack_id3v1 {file : Bytes} {back : Back} (h : readBack file = .ok back) :
    back.id3v1 = (Id3v1.find? file).map Id3v1.fields := by
  unfold readBack at h
  rcases hr : readTailApe file with e | _ | ⟨tag, stop⟩
  · rw [hr] at h
    cases h
  · rw [hr] at h
    cases h
    rfl
  · rw [hr] at h
    simp only [bind, Except.bind] at h
    split at h
    · cases h
    · cases h
      rfl

/-- Where the reader finds no tag, none is met at the end. -/
theorem tail_of_read {file : Bytes} (h : AudioFile.read file = .ok {}) :
    Id3v1.find? file = none ∧ readTailApe file = .ok none := by
  rw [read_eq_ok] at h
  obtain ⟨front, back, _, hback, htags⟩ := h
  simp only [AudioTags.mk.injEq] at htags
  obtain ⟨_, h1, ha⟩ := htags
  have hape : back.ape = none := by
    cases he : back.ape with
    | none => rfl
    | some items => simp [he] at ha
  rw [readBack_id3v1 hback] at h1
  exact ⟨Option.map_eq_none_iff.mp h1.symm, readBack_eq_ok_none hback hape⟩

/-- The last bytes of a file are those of its last part. -/
theorem drop_append_left (front b : Bytes) {n : Nat} (h : n ≤ b.length) :
    (front ++ b).drop ((front ++ b).length - n) = b.drop (b.length - n) := by
  have he : (front ++ b).length - n = front.length + (b.length - n) := by
    rw [List.length_append]
    omega
  rw [he, List.drop_append]
  simp

theorem find?_append_left (front : Bytes) {b : Bytes} (h : Id3v1.size ≤ b.length) :
    Id3v1.find? (front ++ b) = Id3v1.find? b := by
  have hf : ¬ (front ++ b).length < Id3v1.size := by
    rw [List.length_append]
    omega
  rw [Id3v1.find?, Id3v1.find?, if_neg hf, if_neg (Nat.not_lt.mpr h), drop_append_left front b h]

/-- No APE tag ends at `stop` if other bytes stand where its footer would begin. -/
theorem readBefore_eq_none {file : Bytes} {stop : Nat} : Ape.readBefore file stop = .ok none ↔
    Ape.frameSize ≤ stop ∧ Ape.marker.length ≤ (file.drop (stop - Ape.frameSize)).length ∧
      (file.drop (stop - Ape.frameSize)).take Ape.marker.length ≠ Ape.marker := by
  unfold Ape.readBefore
  by_cases hstop : stop < Ape.frameSize
  · rw [if_pos hstop]
    refine iff_of_false (fun h => ?_) fun h => Nat.not_lt.mpr h.1 hstop
    cases h
  rw [if_neg hstop]
  generalize file.drop (stop - Ape.frameSize) = foot
  by_cases hl : foot.length < Ape.marker.length
  · have hsplit : (Reader.take Ape.marker.length).split foot = .error .endOfFile := by
      have hlacks : lacks Ape.marker.length foot = true := by
        rw [lacks_eq, decide_eq_true_eq]
        exact hl
      have hrun : (Reader.take Ape.marker.length).run foot = (.error .endOfFile, []) :=
        if_pos hlacks
      rw [Reader.split, hrun]
    rw [hsplit]
    refine iff_of_false (fun h => ?_) fun h => Nat.not_lt.mpr h.2.1 hl
    cases h
  have hle := Nat.not_lt.mp hl
  rw [Reader.split_take hle]
  simp only [bind, Except.bind]
  by_cases hm : foot.take Ape.marker.length = Ape.marker
  · rw [if_neg (not_not.mpr hm)]
    refine iff_of_false (fun h => ?_) fun h => h.2.2 hm
    obtain ⟨header, _, h⟩ := TagError.bind_ok h
    split at h
    · cases h
    · obtain ⟨_, _, h⟩ := TagError.bind_ok h
      obtain ⟨_, _, h⟩ := TagError.bind_ok h
      cases h
  · rw [if_pos hm]
    exact iff_of_true rfl ⟨Nat.not_lt.mp hstop, hle, hm⟩

/-- Where no APE tag ends a piece of audio, none ends in any file where the audio does. -/
theorem readBefore_append_none {b : Bytes} (h : Ape.readBefore b b.length = .ok none)
    (front behind : Bytes) :
    Ape.readBefore (front ++ b ++ behind) (front ++ b).length = .ok none := by
  rw [readBefore_eq_none] at h
  obtain ⟨hl, hroom, hm⟩ := h
  have hdrop : (front ++ b ++ behind).drop ((front ++ b).length - Ape.frameSize) =
      b.drop (b.length - Ape.frameSize) ++ behind := by
    rw [List.drop_append_of_le_length (Nat.sub_le _ _), drop_append_left front b hl]
  rw [readBefore_eq_none, hdrop, List.take_append_of_le_length hroom, List.length_append,
    List.length_append]
  exact ⟨Nat.le_add_left_of_le hl, Nat.le_add_right_of_le hroom, hm⟩

/-- The end of audio that is long enough for tags is looked at where it ends. -/
theorem readTailApe_eq {b : Bytes} (h1 : Id3v1.find? b = none)
    (h : Id3v1.size + Ape.frameSize ≤ b.length) :
    readTailApe b = Ape.readBefore b b.length := by
  have hroom : lyricsRoom ≤ b.length := Nat.le_trans (by decide) h
  have hstart : tailStart b = b.length := by simp [tailStart, h1]
  rw [readTailApe, hstart, if_neg (Nat.not_lt.mpr hroom)]

theorem readTailApe_append_left (front : Bytes) {b : Bytes}
    (h1 : Id3v1.find? b = none) (h : Id3v1.size + Ape.frameSize ≤ b.length)
    (ha : readTailApe b = .ok none) : readTailApe (front ++ b) = .ok none := by
  have h1' : Id3v1.find? (front ++ b) = none := by
    rw [find?_append_left front (Nat.le_trans (Nat.le_add_right _ _) h), h1]
  have hlen : Id3v1.size + Ape.frameSize ≤ (front ++ b).length := by
    rw [List.length_append]
    exact Nat.le_add_left_of_le h
  rw [readTailApe_eq h1 h] at ha
  have hnone := readBefore_append_none ha front []
  rw [List.append_nil] at hnone
  rw [readTailApe_eq h1' hlen, hnone]

/-- Once a tag has been read, none is looked for before the first frame. -/
theorem readAudio_tagged (file : Bytes) {tags : AudioTags} (h : tags.id3v2.isSome = true)
    (b : Bytes) : readAudio file tags b =
      (Mpeg.findFrame (file.length - b.length) b).map fun found => ⟨tags, found⟩ := by
  unfold readAudio
  rcases Mpeg.findFrame (file.length - b.length) b with e | _ | ⟨header, place⟩
  · rfl
  · rfl
  · simp only [bind, Except.bind, h, if_true]
    rfl

/-- What is found before the first frame is no APE tag. -/
theorem readAudio_ape {file b : Bytes} {tags : AudioTags} {front : Front}
    (h : readAudio file tags b = .ok front) : front.tags.ape = tags.ape := by
  unfold readAudio at h
  rcases hs : Mpeg.findFrame (file.length - b.length) b with e | _ | ⟨header, place⟩
  · rw [hs] at h
    cases h
  · rw [hs] at h
    cases h
    rfl
  · rw [hs] at h
    simp only [bind, Except.bind] at h
    by_cases ht : tags.id3v2.isSome = true
    · rw [if_pos ht] at h
      cases h
      rfl
    · rw [if_neg ht] at h
      rcases hr : readBuried file place with e | _ | frames
      · rw [hr] at h
        cases h
      · rw [hr] at h
        cases h
        rfl
      · rw [hr] at h
        cases h
        rw [addFrames]
        split <;> rfl

theorem readAudio_frame {file b : Bytes} {tags : AudioTags} {front : Front}
    (h : readAudio file tags b = .ok front) :
    Mpeg.findFrame (file.length - b.length) b = .ok front.frame := by
  unfold readAudio at h
  rcases hs : Mpeg.findFrame (file.length - b.length) b with e | _ | ⟨header, place⟩
  · rw [hs] at h
    cases h
  · rw [hs] at h
    cases h
    rfl
  · rw [hs] at h
    simp only [bind, Except.bind] at h
    by_cases ht : tags.id3v2.isSome = true
    · rw [if_pos ht] at h
      cases h
      rfl
    · rw [if_neg ht] at h
      rcases hr : readBuried file place with e | _ | frames
      · rw [hr] at h
        cases h
      · rw [hr] at h
        cases h
        rfl
      · rw [hr] at h
        cases h
        rfl

namespace StartsFrame

variable {b : Bytes}

theorem append (h : StartsFrame b) (more : Bytes) : StartsFrame (b ++ more) := by
  obtain ⟨first, second, rest, rfl, hs, hl⟩ := h
  exact ⟨first, second, rest ++ more, rfl, hs, hl⟩

/-- The first byte of a header is neither a zero nor the beginning of a tag. -/
theorem ne_marker (h : StartsFrame b) :
    b.take 3 ≠ Id3v2.marker ∧ b.take 4 ≠ Ape.marker.take 4 ∧ b.dropWhile (· = 0) = b := by
  obtain ⟨first, second, rest, rfl, hs, _⟩ := h
  simp only [Mpeg.isSync, Bool.and_eq_true, beq_iff_eq] at hs
  obtain rfl := hs.1
  refine ⟨?_, ?_, rfl⟩
  · intro he
    cases rest <;> cases he
  · intro he
    rcases rest with _ | ⟨_, _ | _⟩ <;> cases he

/-- Tags that were read before audio are followed by the search for the first frame. -/
theorem readTags_eq (h : StartsFrame b) (hl : 4 ≤ b.length) (file : Bytes) (fuel : Nat)
    (tags : AudioTags) : readTags file (fuel + 1) tags b = readAudio file tags b := by
  have hlacks : ¬ lacks 4 b = true := by
    rw [lacks_eq, decide_eq_true_eq]
    omega
  rw [readTags, if_neg hlacks, if_neg h.ne_marker.1, if_neg h.ne_marker.2.1]

theorem readFront_eq (h : StartsFrame b) (hl : 4 ≤ b.length) :
    readFront b = readAudio b {} b := by
  have hb : b ≠ [] := by
    rintro rfl
    exact absurd hl (by decide)
  rw [readFront, h.ne_marker.2.2]
  split
  · exact absurd rfl hb
  · exact h.readTags_eq hl b _ {}

/-- Audio is told by its first header. -/
theorem ofMark?_eq (h : StartsFrame b) : FileKind.ofMark? b = some .mpeg := by
  obtain ⟨first, second, rest, rfl, hs, hl⟩ := h
  have hsync : FileKind.ofSync second = .mpeg := by simp [FileKind.ofSync, hl]
  have hmac : FileKind.startsWith (first :: second :: rest) "MAC" = false := by
    simp only [Mpeg.isSync, Bool.and_eq_true, beq_iff_eq] at hs
    obtain rfl := hs.1
    rfl
  simp [FileKind.ofMark?, hmac, hs, hsync]

theorem kindFor_eq (h : StartsFrame b) (tag : TagKind) : kindFor tag b = .ok .mpeg := by
  rw [kindFor, FileKind.ofContents?, h.ofMark?_eq]
  rfl

/-- Nothing is cut off where no tag is. -/
theorem dropTag_eq (h : StartsFrame b) (hl : Id3v2.headerSize ≤ b.length) :
    Id3v2.dropTag b = .ok b := by
  have hmarker : (b.take Id3v2.headerSize).take 3 ≠ Id3v2.marker := by
    rw [List.take_take]
    exact h.ne_marker.1
  have htake : (Reader.take Id3v2.headerSize).run b =
      (.ok (b.take Id3v2.headerSize), b.drop Id3v2.headerSize) := by
    have := Reader.run_take (List.length_take_of_le hl) (b.drop Id3v2.headerSize)
    rwa [List.take_append_drop] at this
  have hread : Id3v2.readHeader.run b = (.error .fakeTag, b.drop Id3v2.headerSize) := by
    rw [Id3v2.readHeader, Reader.run_bind, htake]
    simp only [if_pos hmarker, Reader.run_fail]
  have hstop : b.length - (b.drop Id3v2.headerSize).length = Id3v2.headerSize := by
    rw [List.length_drop]
    omega
  rw [Id3v2.dropTag, hread]
  simp only [hstop, Nat.lt_irrefl, if_false, Nat.sub_self, List.drop_zero]

theorem eq_of_dropTag (h : StartsFrame b) {rest : Bytes} (hd : Id3v2.dropTag b = .ok rest) :
    rest = b := by
  by_cases hl : Id3v2.headerSize ≤ b.length
  · rw [h.dropTag_eq hl] at hd
    exact (Except.ok.inj hd).symm
  · exfalso
    have hlacks : lacks Id3v2.headerSize b = true := by
      rw [lacks_eq, decide_eq_true_eq]
      exact Nat.not_le.mp hl
    have htake : (Reader.take Id3v2.headerSize).run b = (.error .endOfFile, []) := if_pos hlacks
    have hread : Id3v2.readHeader.run b = (.error .endOfFile, []) := by
      rw [Id3v2.readHeader, Reader.run_bind, htake]
    rw [Id3v2.dropTag, hread] at hd
    simp only [List.length_nil, Nat.sub_zero, if_pos (Nat.not_le.mp hl)] at hd
    cases hd

end StartsFrame

namespace IsBareAudio

variable {b : Bytes}

theorem starts (h : IsBareAudio b) : StartsFrame b := h.head

theorem read_eq (h : IsBareAudio b) : AudioFile.read b = .ok {} := by
  obtain ⟨c, hc, _, ht⟩ := h.readable
  rw [AudioFile.read, hc, Except.map, ht]

/-- What the reader found in the audio: no tag at either end, and a first frame with room for a
summary. -/
theorem found (h : IsBareAudio b) : Id3v1.find? b = none ∧ readTailApe b = .ok none ∧
    ∃ header place, Mpeg.findFrame 0 b = .ok (some (header, place)) ∧
      lacks summarySize (b.drop (place + header.summaryStart)) = false := by
  obtain ⟨h1, ha⟩ := tail_of_read h.read_eq
  obtain ⟨c, hc, hp, _⟩ := h.readable
  rw [readContents_eq_ok] at hc
  obtain ⟨front, back, hf, _, rfl⟩ := hc
  rw [h.starts.readFront_eq (Nat.le_trans (by decide) h.long)] at hf
  have hframe := readAudio_frame hf
  rw [Nat.sub_self] at hframe
  refine ⟨h1, ha, ?_⟩
  simp only [hasProperties] at hp
  rcases he : front.frame with _ | ⟨header, place⟩
  · simp [he] at hp
  · rw [he] at hframe
    simp only [he, Bool.not_eq_true'] at hp
    exact ⟨header, place, hframe, hp⟩

/-- No tags are found behind whatever stands before the audio. -/
theorem readBack_append (h : IsBareAudio b) (front : Bytes) :
    readBack (front ++ b) = .ok ⟨none, none⟩ := by
  obtain ⟨h1, ha, _⟩ := h.found
  refine readBack_of_bare ?_ (readTailApe_append_left front h1 h.long ha)
  rw [find?_append_left front (Nat.le_trans (by decide) h.long), h1]

/-- Behind tags the audio shows them, and its first frame. -/
theorem readContents_append (h : IsBareAudio b) {front : Bytes} {tags : AudioTags}
    (ht : tags.id3v2.isSome = true)
    (hf : readFront (front ++ b) = readAudio (front ++ b) tags b) :
    ∃ c, readContents (front ++ b) = .ok c ∧ hasProperties (front ++ b) c = true ∧
      c.tags = { tags with id3v1 := none } := by
  obtain ⟨_, _, header, place, hframe, hroom⟩ := h.found
  have hshift := Mpeg.findFrame_shift front.length b
  rw [hframe] at hshift
  have hoffset : (front ++ b).length - b.length = front.length := by simp
  rw [readAudio_tagged _ ht, hoffset, hshift] at hf
  refine ⟨_, Iff.mpr readContents_eq_ok ⟨_, _, hf, h.readBack_append front, rfl⟩, ?_, rfl⟩
  have hdrop : (front ++ b).drop (place + front.length + header.summaryStart) =
      b.drop (place + header.summaryStart) := by
    have he : place + front.length + header.summaryStart =
        front.length + (place + header.summaryStart) := by omega
    rw [he, List.drop_append]
    simp
  simp [hasProperties, hdrop, hroom]

end IsBareAudio

/-- A silent stream of eight short frames. -/
def silence : Bytes := (List.replicate 8 ([0xFF, 0xF3, 0x14, 0xC4] ++ List.replicate 20 0)).flatten

set_option maxRecDepth 20000 in
theorem readContents_silence : readContents silence = .ok ⟨{}, some (⟨24, 13⟩, 0)⟩ := rfl

theorem isBareAudio_silence : IsBareAudio silence where
  head := ⟨0xFF, 0xF3, _, rfl, rfl, rfl⟩
  long := by
    set_option maxRecDepth 20000 in
    decide
  readable := ⟨_, readContents_silence, by decide, rfl⟩

/-- Behind a written tag the reading goes on with the frames of the tag. -/
theorem readFront_tagBytes {t : TrackTags}
    (hs : (Id3v2.frameBytes t).length + Id3v2.padding < Id3v2.sizeLimit) (rest : Bytes) :
    readFront (Id3v2.tagBytes t ++ rest) = (Id3v2.writtenFrames t).bind fun frames =>
      readTags (Id3v2.tagBytes t ++ rest) (Id3v2.tagBytes t ++ rest).length
        { id3v2 := some frames } rest := by
  have hlacks : ¬ lacks 4 (Id3v2.tagBytes t ++ rest) = true := by
    rw [lacks_eq, decide_eq_true_eq, List.length_append, Id3v2.length_tagBytes, Id3v2.headerSize]
    omega
  have hmark : (Id3v2.tagBytes t ++ rest).take 3 = Id3v2.marker := by
    rw [Id3v2.tagBytes_append]
    rfl
  have hzero : (Id3v2.tagBytes t ++ rest).dropWhile (· = 0) = Id3v2.tagBytes t ++ rest := by
    rw [Id3v2.tagBytes_append]
    rfl
  have hne : Id3v2.tagBytes t ++ rest ≠ [] := by
    rw [Id3v2.tagBytes_append]
    exact List.cons_ne_nil _ _
  rw [readFront, hzero]
  split
  · rename_i he
    exact absurd he hne
  · rw [readTags, if_neg hlacks, if_pos hmark, Id3v2.readTag_tagBytes hs]
    rcases Id3v2.writtenFrames t with e | frames <;> rfl

/-- Audio behind a written tag shows the frames of the tag and nothing else. -/
theorem readContents_tagBytes {t : TrackTags} {b : Bytes} (hb : IsBareAudio b)
    {frames : List Id3v2.Frame}
    (hs : (Id3v2.frameBytes t).length + Id3v2.padding < Id3v2.sizeLimit)
    (hw : Id3v2.writtenFrames t = .ok frames) :
    ∃ c, readContents (Id3v2.tagBytes t ++ b) = .ok c ∧
      hasProperties (Id3v2.tagBytes t ++ b) c = true ∧ c.tags = { id3v2 := some frames } := by
  have hsome : ({ id3v2 := some frames } : AudioTags).id3v2.isSome = true := rfl
  apply hb.readContents_append hsome
  rw [readFront_tagBytes hs, hw]
  obtain ⟨n, hn⟩ : ∃ n, (Id3v2.tagBytes t ++ b).length = n + 1 :=
    ⟨(Id3v2.tagBytes t ++ b).length - 1, by
      rw [List.length_append, Id3v2.length_tagBytes, Id3v2.headerSize]
      omega⟩
  rw [hn, Except.bind, hb.starts.readTags_eq (Nat.le_trans (by decide) hb.long)]

theorem fieldsOf_tagBytes {t : TrackTags} {b : Bytes} (hb : IsBareAudio b) (ht : t.Plain)
    (hs : (Id3v2.frameBytes t).length + Id3v2.padding < Id3v2.sizeLimit) :
    ScannedTrack.fieldsOf (Id3v2.tagBytes t ++ b) = t.shown := by
  obtain ⟨c, hc, hp, hf⟩ := readContents_tagBytes hb hs (Id3v2.writtenFrames_plain ht hs)
  rw [ScannedTrack.fieldsOf, playerFields, hc]
  simp only [hp, if_true, hf, AudioTags.fields]
  exact Id3v2.fields_plain ht

end AudioFile

end TaggedLibrary
