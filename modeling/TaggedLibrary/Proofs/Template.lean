import TaggedLibrary.Proofs.BareAudio
/-!
A template: audio that may have one tag in front of it. That tag is read and cut off as a whole, so
that whatever is put into a template stands before the same audio.
-/

namespace TaggedLibrary

namespace Id3v2

theorem six_le_of_readExtended {b rest : Bytes} {n : Nat}
    (h : readExtended.run b = (.ok n, rest)) : 6 ≤ n := by
  obtain ⟨size, mid, _, h⟩ := Reader.run_bind_ok h
  by_cases hs : sevenBits size < 6
  · rw [if_pos hs] at h
    cases h
  · rw [if_neg hs] at h
    obtain ⟨_, _, _, h⟩ := Reader.run_bind_ok h
    obtain ⟨_, _, _, h⟩ := Reader.run_bind_ok h
    obtain ⟨_, _, _, h⟩ := Reader.run_bind_ok h
    cases h
    omega

/-- A head without an extended header is ten bytes, whatever follows them. -/
theorem readHeader_plain {b content : Bytes} {header : Header}
    (h : readHeader.run b = (.ok header, content)) (he : header.extended = 0) :
    ∃ head, head.length = headerSize ∧ b = head ++ content ∧ head.take 3 = marker ∧
      header.size = sevenBits (head.drop 6) ∧
      ∀ rest, readHeader.run (head ++ rest) = (.ok header, rest) := by
  by_cases hl : lacks headerSize b = true
  · have htake : (Reader.take headerSize).run b = (.error .endOfFile, []) := if_pos hl
    rw [readHeader, Reader.run_bind, htake] at h
    cases h
  rw [lacks_eq, decide_eq_true_eq, Nat.not_lt] at hl
  obtain ⟨head, rest, rfl, hhead⟩ : ∃ head rest, b = head ++ rest ∧ head.length = headerSize :=
    ⟨_, _, (List.take_append_drop headerSize b).symm, List.length_take_of_le hl⟩
  rw [readHeader, Reader.run_bind, Reader.run_take hhead] at h
  simp only at h
  refine ⟨head, hhead, ?_⟩
  by_cases hm : head.take 3 ≠ marker
  · rw [if_pos hm] at h
    cases h
  rw [if_neg hm] at h
  rcases hv : Version.ofByte? (head.getD 3 0) with _ | version
  · rw [hv] at h
    cases h
  rw [hv] at h
  simp only at h
  by_cases hc : version = .v2 ∧ hasBit (head.getD 5 0) 0x40 = true
  · rw [if_pos hc] at h
    cases h
  rw [if_neg hc] at h
  by_cases hx : version ≠ .v2 ∧ hasBit (head.getD 5 0) 0x40 = true
  · exfalso
    rw [if_pos hx] at h
    obtain ⟨n, mid, hr, h⟩ := Reader.run_bind_ok h
    have hn := six_le_of_readExtended hr
    by_cases hle : sevenBits (head.drop 6) ≤ n
    · rw [if_pos hle] at h
      cases h
    · rw [if_neg hle] at h
      cases h
      simp only at he
      omega
  · rw [if_neg hx] at h
    cases h
    refine ⟨rfl, not_not.mp hm, rfl, ?_⟩
    intro rest'
    rw [readHeader, Reader.run_bind, Reader.run_take hhead]
    simp only
    rw [if_neg hm, hv]
    simp only
    rw [if_neg hc, if_neg hx]
    rfl

/-- A tag and nothing behind it: a head without an extended header, and as many bytes as the head
says. A footer begins with the marker turned around. -/
def IsSingleTag (b : Bytes) : Prop :=
  ∃ header content, readHeader.run b = (.ok header, content) ∧ header.extended = 0 ∧
    content.length = header.size + (if header.footer then headerSize else 0) ∧
    (header.footer = true → (content.drop header.size).take 3 = marker.reverse)

theorem dropTag_append {front : Bytes} (h : IsSingleTag front) (b : Bytes) :
    dropTag (front ++ b) = .ok b := by
  obtain ⟨header, content, hr, he, hl, _⟩ := h
  obtain ⟨head, _, rfl, _, _, hrun⟩ := readHeader_plain hr he
  rw [dropTag, List.append_assoc, hrun (content ++ b)]
  simp only [← hl, List.drop_left]

/-- Reading a tag uses up what its head counts. -/
theorem readTag_eq_ok {b content rest : Bytes} {header found : Header} {frames : List Frame}
    (hr : readHeader.run b = (.ok header, content)) (h : readTag b = .ok (found, frames, rest)) :
    found = header ∧ rest = content.drop (header.size - header.extended) := by
  have hsplit : readHeader.split b = .ok (header, content) := by
    rw [Reader.split, hr]
  rw [readTag_of_split hsplit] at h
  simp only [Except.map, Header.cut] at h
  generalize (if header.unsynchronised = true then
    resynchronise (content.take (header.size - header.extended))
    else content.take (header.size - header.extended)) = read at h
  rcases hf : readFrames header.version read.length [] read with e | fs
  · rw [hf] at h
    cases h
  · rw [hf] at h
    cases h
    exact ⟨rfl, rfl⟩

end Id3v2

namespace FileKind

theorem ofStream?_eq_some {b : Bytes} {kind : FileKind} (h : ofStream? b = some kind) :
    kind = .mpeg ∨ kind = .aac := by
  unfold ofStream? at h
  split at h
  · obtain rfl := Option.some.inj h
    unfold ofSync
    split
    · exact Or.inr rfl
    · exact Or.inl rfl
  · cases h

/-- The marker of an ID3v2 tag is that of no other kind, but the name of an MP4 file stands behind
its first bytes. -/
theorem ofMark?_marker (rest : Bytes) :
    ofMark? (Id3v2.marker ++ rest) = none ∨ ofMark? (Id3v2.marker ++ rest) = some .mp4 := by
  change ofMark? (0x49 :: 0x44 :: 0x33 :: rest) = none ∨
    ofMark? (0x49 :: 0x44 :: 0x33 :: rest) = some .mp4
  have hother : ∀ s ∈ ["MAC", "FORM", "OggS", "fLaC", "RIFF", "wvpk", "MPCK", "MP+"],
      startsWith (0x49 :: 0x44 :: 0x33 :: rest) s = false := by
    intro s hs
    simp only [List.mem_cons, List.not_mem_nil, or_false] at hs
    rcases hs with rfl | rfl | rfl | rfl | rfl | rfl | rfl | rfl <;> rfl
  have hsync : Mpeg.isSync 0x49 0x44 = false := rfl
  rw [ofMark?, hother _ (by simp), hother _ (by simp), hother _ (by simp), hother _ (by simp),
    hother _ (by simp), hother _ (by simp), hother _ (by simp), hother _ (by simp)]
  simp [hsync]

end FileKind

namespace AudioFile

theorem kindFor_eq_ok {tag : TagKind} {file : Bytes} {kind : FileKind}
    (h : kindFor tag file = .ok kind) :
    FileKind.ofContents? file = some kind ∧ kind.canHold tag = true := by
  unfold kindFor at h
  rcases hk : FileKind.ofContents? file with _ | found
  · rw [hk] at h
    cases h
  · rw [hk] at h
    simp only at h
    by_cases hc : found.canHold tag = true
    · rw [if_pos hc] at h
      cases h
      exact ⟨rfl, hc⟩
    · rw [if_neg hc] at h
      cases h

/-- What follows the first bytes of a tag that its head counts: a footer, or the audio. -/
theorem behind_tag {content audio : Bytes} {size : Nat} {footer : Bool}
    (hl : content.length = size + (if footer then Id3v2.headerSize else 0))
    (hf : footer = true → (content.drop size).take 3 = Id3v2.marker.reverse)
    (ha : StartsFrame audio) :
    ∃ x rest, (content ++ audio).drop size = x :: rest ∧ (x = 0xFF ∨ x = 0x33) := by
  have hle : size ≤ content.length := by omega
  rw [List.drop_append_of_le_length hle]
  cases footer with
  | false =>
    obtain ⟨first, second, rest, rfl, hs, _⟩ := ha
    simp only [Mpeg.isSync, Bool.and_eq_true, beq_iff_eq] at hs
    have hnil : content.drop size = [] := by
      simp only [Bool.false_eq_true, if_false] at hl
      exact List.drop_eq_nil_of_le (by omega)
    exact ⟨first, _, by rw [hnil, List.nil_append], Or.inl hs.1⟩
  | true =>
    have h3 := hf rfl
    rcases hd : content.drop size with _ | ⟨x, rest⟩
    · rw [hd] at h3
      cases h3
    · rw [hd] at h3
      exact ⟨x, rest ++ audio, rfl, Or.inr (List.cons.inj h3).1⟩

/-- Behind a tag the search for the kind goes on at its footer or at the audio, and neither begins
like another kind of file. -/
theorem kindFor_append {front audio : Bytes} (hf : Id3v2.IsSingleTag front)
    (ha : StartsFrame audio) {kind : FileKind} (h : kindFor .id3v2 (front ++ audio) = .ok kind) :
    kind = .mpeg ∨ kind = .aac := by
  obtain ⟨header, content, hr, he, hl, hfoot⟩ := hf
  obtain ⟨head, hten, rfl, hmark, hsize, _⟩ := Id3v2.readHeader_plain hr he
  obtain ⟨hk, hhold⟩ := kindFor_eq_ok h
  obtain ⟨x, rest, hrest, hx⟩ := behind_tag hl hfoot ha
  obtain ⟨tail, rfl⟩ : ∃ tail, head = Id3v2.marker ++ tail :=
    ⟨head.drop 3, by rw [← hmark, List.take_append_drop]⟩
  have hbehind : ((Id3v2.marker ++ tail ++ content ++ audio).drop
      (Id3v2.headerSize + Id3v2.sevenBits
        (((Id3v2.marker ++ tail ++ content ++ audio).drop 6).take 4))) = x :: rest := by
    have hseven : ((Id3v2.marker ++ tail ++ content ++ audio).drop 6).take 4 =
        (Id3v2.marker ++ tail).drop 6 := by
      rw [List.append_assoc, List.drop_append_of_le_length (by rw [hten]; decide)]
      have hfour : ((Id3v2.marker ++ tail).drop 6).length = 4 := by
        rw [List.length_drop, hten]
        rfl
      rw [← hfour, List.take_left]
    rw [hseven, ← hsize, ← List.drop_drop, List.append_assoc, ← hten, List.drop_left, hrest]
  have hmarked : (Id3v2.marker ++ tail ++ content ++ audio).take 3 = Id3v2.marker ∧
      Id3v2.headerSize ≤ (Id3v2.marker ++ tail ++ content ++ audio).length := by
    refine ⟨rfl, ?_⟩
    rw [List.append_assoc, List.length_append, hten]
    omega
  unfold FileKind.ofContents? at hk
  rcases FileKind.ofMark?_marker (tail ++ content ++ audio) with hm | hm
  all_goals
    rw [← List.append_assoc, ← List.append_assoc] at hm
    rw [hm] at hk
  · simp only [if_pos hmarked, hbehind] at hk
    have hother : ∀ s ∈ ["MAC", "fLa", "MPC", "MP+"],
        FileKind.startsWith (x :: rest) s = false := by
      intro s hs
      simp only [List.mem_cons, List.not_mem_nil, or_false] at hs
      rcases hx with rfl | rfl <;> rcases hs with rfl | rfl | rfl | rfl <;> rfl
    rw [hother _ (by simp), hother _ (by simp), hother _ (by simp), hother _ (by simp)] at hk
    exact FileKind.ofStream?_eq_some hk
  · obtain rfl := Option.some.inj hk
    cases hhold

/-- No APE tag is met in front of audio that stands behind one tag. -/
theorem ape_of_readFront_append {front audio : Bytes} (hf : Id3v2.IsSingleTag front)
    (ha : StartsFrame audio) (hlong : 4 ≤ audio.length) {found : Front}
    (h : readFront (front ++ audio) = .ok found) : found.tags.ape = none := by
  obtain ⟨header, content, hr, he, hl, _⟩ := hf
  obtain ⟨head, hten, rfl, hmark, hsize, hrun⟩ := Id3v2.readHeader_plain hr he
  have hlen : (head ++ content ++ audio).length = content.length + audio.length + 9 + 1 := by
    rw [List.length_append, List.length_append, hten, Id3v2.headerSize]
    omega
  obtain ⟨tail, rfl⟩ : ∃ tail, head = Id3v2.marker ++ tail :=
    ⟨head.drop 3, by rw [← hmark, List.take_append_drop]⟩
  have h' : readTags (Id3v2.marker ++ tail ++ content ++ audio)
      ((Id3v2.marker ++ tail ++ content ++ audio).length + 1) {}
      (Id3v2.marker ++ tail ++ content ++ audio) = .ok found := h
  have hlacks : ¬ lacks 4 (Id3v2.marker ++ tail ++ content ++ audio) = true := by
    rw [lacks_eq, decide_eq_true_eq, hlen]
    omega
  have hmarked : (Id3v2.marker ++ tail ++ content ++ audio).take 3 = Id3v2.marker := rfl
  rw [readTags, if_neg hlacks, if_pos hmarked] at h'
  rcases ht : Id3v2.readTag (Id3v2.marker ++ tail ++ content ++ audio) with
    e | ⟨found', frames, rest⟩
  · rw [ht] at h'
    cases h'
  · have hrest := hrun (content ++ audio)
    rw [← List.append_assoc] at hrest
    obtain ⟨rfl, rfl⟩ := Id3v2.readTag_eq_ok hrest ht
    rw [ht, hlen] at h'
    simp only [bind, Except.bind, Option.isNone_none, Bool.true_and, he, Nat.sub_zero] at h'
    have hbehind : (if found'.footer = true then
        ((content ++ audio).drop found'.size).drop Id3v2.headerSize
        else (content ++ audio).drop found'.size) = audio := by
      by_cases hb : found'.footer = true
      · rw [if_pos hb, List.drop_drop]
        rw [if_pos hb] at hl
        rw [← hl, List.drop_left]
      · rw [if_neg hb]
        rw [if_neg hb, Nat.add_zero] at hl
        rw [← hl, List.drop_left]
    rw [hbehind, ha.readTags_eq hlong] at h'
    exact readAudio_ape h'

/-- A template has no tags but the one in front. -/
theorem read_append {front audio : Bytes} (hf : Id3v2.IsSingleTag front)
    (ha : IsBareAudio audio) {tags : AudioTags} (h : AudioFile.read (front ++ audio) = .ok tags) :
    tags.id3v1 = none ∧ tags.ape = none := by
  obtain ⟨found, back, hfront, hback, rfl⟩ := read_eq_ok.mp h
  rw [ha.readBack_append] at hback
  cases hback
  refine ⟨rfl, ?_⟩
  rw [Option.none_or]
  exact ape_of_readFront_append hf ha.starts (Nat.le_trans (by decide) ha.long) hfront

theorem encode_eq_ok {t : TrackTags} {out : Bytes} (h : Id3v2.encode t = .ok out) :
    out = Id3v2.tagBytes t ∧ (Id3v2.frameBytes t).length + Id3v2.padding < Id3v2.sizeLimit := by
  unfold Id3v2.encode at h
  by_cases hs : (Id3v2.frameBytes t).length + Id3v2.padding < Id3v2.sizeLimit
  · rw [if_pos hs] at h
    cases h
    exact ⟨rfl, hs⟩
  · rw [if_neg hs] at h
    cases h

/-- A stream gets a tag in front of what is left of it without the old one. -/
theorem putId3v2_stream {t : TrackTags} {file out : Bytes} {kind : FileKind}
    (hk : kindFor .id3v2 file = .ok kind) (hs : kind = .mpeg ∨ kind = .aac)
    (h : putId3v2 t file = .ok out) :
    ∃ rest, Id3v2.dropTag file = .ok rest ∧ out = Id3v2.tagBytes t ++ rest ∧
      (Id3v2.frameBytes t).length + Id3v2.padding < Id3v2.sizeLimit := by
  have hput : putId3v2 t file = (Id3v2.encode t).bind fun tag =>
      (Id3v2.dropTag file).bind fun rest => .ok (tag ++ rest) := by
    rw [putId3v2, hk]
    simp only [bind, Except.bind]
    rcases hs with rfl | rfl <;> rcases Id3v2.encode t with e | tag <;> rfl
  rw [hput] at h
  rcases he : Id3v2.encode t with e | tag
  · rw [he] at h
    cases h
  · obtain ⟨rfl, hlimit⟩ := encode_eq_ok he
    rw [he] at h
    rcases hd : Id3v2.dropTag file with e | rest
    · rw [hd] at h
      cases h
    · rw [hd] at h
      cases h
      exact ⟨rest, rfl, rfl, hlimit⟩

theorem StartsFrame.putId3v2_eq {t : TrackTags} {b : Bytes} (hb : StartsFrame b)
    (hl : Id3v2.headerSize ≤ b.length)
    (hs : (Id3v2.frameBytes t).length + Id3v2.padding < Id3v2.sizeLimit) :
    putId3v2 t b = .ok (Id3v2.tagBytes t ++ b) := by
  rw [putId3v2, hb.kindFor_eq, Id3v2.encode, if_pos hs, hb.dropTag_eq hl]
  rfl

theorem IsBareAudio.putId3v2_eq {t : TrackTags} {b : Bytes} (hb : IsBareAudio b)
    (hs : (Id3v2.frameBytes t).length + Id3v2.padding < Id3v2.sizeLimit) :
    putId3v2 t b = .ok (Id3v2.tagBytes t ++ b) :=
  hb.starts.putId3v2_eq (Nat.le_trans (by decide) hb.long) hs

section Behind

variable {front b : Bytes}

/-- Audio is what is left of a file that it ends, perhaps behind one tag. -/
theorem dropTag_behind (hf : front = [] ∨ Id3v2.IsSingleTag front) (hb : StartsFrame b)
    {rest : Bytes} (h : Id3v2.dropTag (front ++ b) = .ok rest) : rest = b := by
  rcases hf with rfl | hf
  · exact hb.eq_of_dropTag h
  · rw [Id3v2.dropTag_append hf] at h
    exact (Except.ok.inj h).symm

/-- A tag that is put into such a file takes the place of the one that is there. -/
theorem putId3v2_behind (hf : front = [] ∨ Id3v2.IsSingleTag front) (hb : StartsFrame b)
    {t : TrackTags} {out : Bytes} (h : putId3v2 t (front ++ b) = .ok out) :
    out = Id3v2.tagBytes t ++ b ∧
      (Id3v2.frameBytes t).length + Id3v2.padding < Id3v2.sizeLimit := by
  rcases hk : kindFor .id3v2 (front ++ b) with e | kind
  · rw [putId3v2, hk] at h
    cases h
  have hstream : kind = .mpeg ∨ kind = .aac := by
    rcases hf with rfl | hf
    · rw [List.nil_append, hb.kindFor_eq] at hk
      exact Or.inl (Except.ok.inj hk).symm
    · exact kindFor_append hf hb hk
  obtain ⟨rest, hd, rfl, hs⟩ := putId3v2_stream hk hstream h
  rw [dropTag_behind hf hb hd]
  exact ⟨rfl, hs⟩

end Behind

/-- A file that a library can be made of: audio, perhaps behind one tag. -/
def IsTemplate (file audio : Bytes) : Prop :=
  IsBareAudio audio ∧ (file = audio ∨ ∃ front, Id3v2.IsSingleTag front ∧ file = front ++ audio)

namespace IsTemplate

variable {file audio : Bytes}

/-- At its end a template has no tags to be removed. -/
theorem read_eq_ok (h : IsTemplate file audio) {tags : AudioTags}
    (hr : AudioFile.read file = .ok tags) : tags.id3v1 = none ∧ tags.ape = none := by
  obtain ⟨ha, rfl | ⟨front, hf, rfl⟩⟩ := h
  · rw [ha.read_eq] at hr
    cases hr
    exact ⟨rfl, rfl⟩
  · exact read_append hf ha hr

/-- A tag that is put into a template takes the place of the one that is there. -/
theorem putId3v2_eq_ok (h : IsTemplate file audio) {t : TrackTags} {out : Bytes}
    (hp : putId3v2 t file = .ok out) : out = Id3v2.tagBytes t ++ audio ∧
      (Id3v2.frameBytes t).length + Id3v2.padding < Id3v2.sizeLimit := by
  obtain ⟨ha, rfl | ⟨front, hf, rfl⟩⟩ := h
  · exact @putId3v2_behind [] file (Or.inl rfl) ha.starts t out hp
  · exact putId3v2_behind (Or.inr hf) ha.starts hp

end IsTemplate

end AudioFile

/-- A tree with a template at `t.mp3` and nothing else. -/
def oneTemplate : FileTree :=
  { nodes := #[.directory 0 [(Utf8.encode "t.mp3", 1)], .file AudioFile.silence 0o644 ⟨0, 0⟩]
    root := 0, current := 0 }

end TaggedLibrary
