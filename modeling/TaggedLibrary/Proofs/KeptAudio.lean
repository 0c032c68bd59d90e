import TaggedLibrary.Proofs.Leftovers
import TaggedLibrary.Proofs.Retagging
/-!
Audio between old tags, and what is left of it when new ones are written. Tags behind the audio are
cut off by their own sizes, and one in front by its head, so the audio comes through whole. But an
APE tag is looked for in front as well, eight bytes behind the place where the audio begins, and
audio that says there what such a tag begins with loses a piece.
-/

namespace TaggedLibrary

namespace Ape

/-- An item as it is written. -/
structure WrittenItem where
  flags : Nat
  key : Bytes
  value : Bytes

def WrittenItem.bytes (i : WrittenItem) : Bytes :=
  fourBytes i.value.length ++ fourBytes i.flags ++ i.key ++ 0 :: i.value

/-- A zero ends a key, and items whose lowest flag is set must not be changed. -/
structure WrittenItem.Writable (i : WrittenItem) : Prop where
  key : 0 ∉ i.key
  flags : i.flags % 2 = 0

/-- A header or a footer of the second version, with its own last twelve bytes. -/
def edge (length items : Nat) (last : Bytes) : Bytes :=
  marker ++ (fourBytes 2000 ++ (fourBytes length ++ (fourBytes items ++ last)))

/-- A tag of the second version: items that may be changed, between a header and a footer. -/
def IsWholeTag (b : Bytes) : Prop :=
  ∃ (items : List WrittenItem) (first last : Bytes), (∀ i ∈ items, i.Writable) ∧
    first.length = 12 ∧ last.length = 12 ∧
    (items.flatMap (·.bytes)).length + frameSize < 2 ^ 32 ∧
    b = edge ((items.flatMap (·.bytes)).length + frameSize) items.length first ++
      (items.flatMap (·.bytes) ++
        edge ((items.flatMap (·.bytes)).length + frameSize) items.length last)

/-- The greatest length that a tag is taken to have. -/
def longest : Nat := 2 ^ 32 - 1

theorem length_edge {length items : Nat} {last : Bytes} (h : last.length = 12) :
    (edge length items last).length = frameSize := by
  simp only [edge, List.length_append, h]
  rfl

theorem run_number (n : Nat) (rest : Bytes) :
    number.run (fourBytes n ++ rest) = (.ok (littleEndian (fourBytes n)), rest) := by
  have htake := Reader.run_take_append (fourBytes n) rest
  rw [number, Reader.run_bind, show (4 : Nat) = (fourBytes n).length from rfl, htake]
  rfl

/-- Behind the marker a header says how long its tag is. -/
theorem readHeader_edge {length : Nat} (hleast : frameSize ≤ length) (hlimit : length < 2 ^ 32)
    (items : Nat) (rest : Bytes) : ∃ header,
      readHeader.run (fourBytes 2000 ++ (fourBytes length ++ (fourBytes items ++ rest))) =
        (.ok header, rest) ∧
      header.length = length ∧ header.total = min (length + frameSize) longest := by
  refine ⟨⟨length, min (length + frameSize) longest, littleEndian (fourBytes items)⟩, ?_, rfl, rfl⟩
  have hversion : littleEndian (fourBytes 2000) = 2000 := littleEndian_fourBytes (by decide)
  rw [readHeader, Reader.run_bind, run_number, hversion]
  simp only
  rw [Reader.run_bind, run_number, littleEndian_fourBytes hlimit]
  simp only
  rw [if_neg (Nat.not_lt.mpr hleast), Reader.run_bind, run_number]
  simp only [if_true, Reader.run_pure, longest]

/-- A tag that is found is at least as long as its footer. -/
theorem frameSize_le_total {b rest : Bytes} {header : Header}
    (h : readHeader.run b = (.ok header, rest)) : frameSize ≤ header.total := by
  obtain ⟨version, mid, _, h⟩ := Reader.run_bind_ok h
  obtain ⟨length, mid, _, h⟩ := Reader.run_bind_ok h
  by_cases hl : length < frameSize
  · rw [if_pos hl] at h
    cases h
  · rw [if_neg hl] at h
    obtain ⟨items, mid, _, h⟩ := Reader.run_bind_ok h
    cases h
    have hframe : frameSize = 32 := rfl
    simp only
    split <;> omega

theorem frameSize_le_of_readAfter {n : Nat} {b : Bytes} {tag : Tag}
    (h : (readAfter n).value b = .ok tag) : frameSize ≤ tag.header.total := by
  rcases hr : (readAfter n).run b with ⟨result, rest⟩
  rw [Reader.value, hr] at h
  obtain rfl : result = .ok tag := h
  obtain ⟨header, mid, hh, hr⟩ := Reader.run_bind_ok hr
  obtain ⟨_, _, _, hr⟩ := Reader.run_bind_ok hr
  obtain ⟨_, _, _, hr⟩ := Reader.run_bind_ok hr
  obtain ⟨_, _, _, hr⟩ := Reader.run_bind_ok hr
  obtain ⟨_, _, _, hr⟩ := Reader.run_bind_ok hr
  cases hr
  exact frameSize_le_total hh

/-- A whole tag ends with a footer that says how long it is. -/
theorem IsWholeTag.footer {b : Bytes} (h : IsWholeTag b) : ∃ before length items last,
    b = before ++ edge length items last ∧ last.length = 12 ∧ frameSize ≤ length ∧
      length < 2 ^ 32 ∧ b.length = length + frameSize := by
  obtain ⟨items, first, last, _, hfirst, hlast, hlimit, rfl⟩ := h
  refine ⟨_, _, _, last, (List.append_assoc ..).symm, hlast, Nat.le_add_left .., hlimit, ?_⟩
  rw [List.length_append, List.length_append, length_edge hfirst, length_edge hlast]
  omega

theorem IsWholeTag.ne_nil {b : Bytes} (h : IsWholeTag b) : b ≠ [] := by
  rintro rfl
  obtain ⟨_, _, _, _, _, _, _, _, hlen⟩ := h.footer
  cases hlen

/-- Whatever stands around a whole tag, what is read where it ends is as long as the tag. -/
theorem IsWholeTag.readBefore_eq {b front behind : Bytes} {found : Option (Tag × Nat)}
    (hb : IsWholeTag b) (h : readBefore (front ++ b ++ behind) (front ++ b).length = .ok found) :
    ∃ tag stop, found = some (tag, stop) ∧ tag.header.total = min b.length longest := by
  obtain ⟨before, length, items, last, hfoot, hlast, hleast, hlimit, hlen⟩ := hb.footer
  have hdrop : (front ++ b ++ behind).drop ((front ++ b).length - frameSize) =
      marker ++
        (fourBytes 2000 ++ (fourBytes length ++ (fourBytes items ++ (last ++ behind)))) := by
    have hstart : (front ++ b).length - frameSize = (front ++ before).length := by
      rw [hfoot, List.length_append, List.length_append, List.length_append, length_edge hlast]
      omega
    have hsplit : front ++ b ++ behind =
        (front ++ before) ++ (edge length items last ++ behind) := by
      simp only [hfoot, List.append_assoc]
    rw [hstart, hsplit, List.drop_left]
    simp only [edge, List.append_assoc]
  obtain ⟨header, hheader, hl, ht⟩ := readHeader_edge hleast hlimit items (last ++ behind)
  have hroom : ¬ (front ++ b).length < frameSize := by
    rw [List.length_append, hlen]
    omega
  rw [readBefore, if_neg hroom, hdrop, Reader.split, Reader.run_take_append] at h
  simp only [bind, Except.bind, ne_eq, not_true_eq_false, if_false, Reader.value, hheader] at h
  rw [if_neg (by rw [hl, List.length_append, hlen]; omega)] at h
  obtain ⟨_, _, h⟩ := TagError.bind_ok h
  obtain ⟨⟨items, rest⟩, _, h⟩ := TagError.bind_ok h
  cases h
  exact ⟨_, _, rfl, by rw [ht, hlen]⟩

end Ape

namespace Id3v1

/-- The bytes of a tag, whatever its fields hold. -/
structure IsTag (b : Bytes) : Prop where
  length : b.length = size
  marked : b.take 3 = marker

theorem IsTag.ne_nil {b : Bytes} (h : IsTag b) : b ≠ [] := by
  rintro rfl
  cases h.length

theorem IsTag.find?_append {b : Bytes} (h : IsTag b) (front : Bytes) :
    find? (front ++ b) = some b := by
  have hlen : ¬ (front ++ b).length < size := by
    rw [List.length_append, h.length]
    omega
  rw [find?, if_neg hlen, AudioFile.drop_append_left front b (Nat.le_of_eq h.length.symm),
    h.length, Nat.sub_self, List.drop_zero]
  simp only [if_pos h.marked]

end Id3v1

namespace AudioFile

/-- Audio without tags that stands in a file between old ones: perhaps a tag in front of it, and
behind it an APE tag, an ID3v1 tag or both. What comes before the ID3v1 tag does not look as if it
ended with one. -/
structure Enclosed (front audio ape behind : Bytes) : Prop where
  starts : StartsFrame audio
  long : Id3v1.size + Ape.frameSize ≤ audio.length
  untagged : AudioFile.read audio = .ok {}
  single : front = [] ∨ Id3v2.IsSingleTag front
  whole : ape = [] ∨ Ape.IsWholeTag ape
  apart : Id3v1.find? (audio ++ ape) = none
  last : behind = [] ∨ Id3v1.IsTag behind

/-- The audio says eight bytes in what an APE tag begins with, and a tag of that kind is to be cut
off. -/
def Mistaken (audio ape : Bytes) : Prop :=
  ape ≠ [] ∧ (audio.drop 8).take Ape.marker.length = Ape.marker

/-- Bytes without those that begin eight bytes in. -/
def eaten (n : Nat) (b : Bytes) : Bytes := b.take 8 ++ b.drop (8 + n)

theorem StartsFrame.eaten {b : Bytes} (h : StartsFrame b) (n : Nat) : StartsFrame (eaten n b) := by
  obtain ⟨first, second, rest, rfl, hs, hl⟩ := h
  exact ⟨first, second, rest.take 6 ++ (first :: second :: rest).drop (8 + n), rfl, hs, hl⟩

theorem eaten_zero (b : Bytes) : eaten 0 b = b := List.take_append_drop 8 b

namespace Enclosed

variable {front audio ape behind : Bytes}

theorem cut (h : Enclosed front audio ape behind) : Enclosed front audio ape [] :=
  { h with last := Or.inl rfl }

theorem find?_body (h : Enclosed front audio ape behind) :
    Id3v1.find? (front ++ (audio ++ ape)) = none := by
  rw [find?_append_left front, h.apart]
  rw [List.length_append]
  exact Nat.le_trans (Nat.le_trans (Nat.le_add_right ..) h.long) (Nat.le_add_right ..)

/-- The last tag is found if it is there. -/
theorem find?_eq (h : Enclosed front audio ape behind) :
    Id3v1.find? (front ++ (audio ++ ape) ++ behind) =
      if behind = [] then none else some behind := by
  rcases h.last with rfl | hb
  · rw [List.append_nil, h.find?_body, if_pos rfl]
  · rw [hb.find?_append, if_neg hb.ne_nil]

theorem tailStart_eq (h : Enclosed front audio ape behind) :
    tailStart (front ++ (audio ++ ape) ++ behind) = (front ++ (audio ++ ape)).length := by
  rw [tailStart, h.find?_eq]
  rcases h.last with rfl | hb
  · simp
  · rw [if_neg hb.ne_nil, Option.isSome_some, if_pos rfl, List.length_append, hb.length,
      Nat.add_sub_cancel]

/-- What is found behind the audio is the tag that stands there. -/
theorem readTailApe_eq_ok (h : Enclosed front audio ape behind)
    {found : Option (Ape.Tag × Nat)}
    (hr : readTailApe (front ++ (audio ++ ape) ++ behind) = .ok found) :
    (ape = [] ∧ found = none) ∨ (ape ≠ [] ∧ ∃ tag stop, found = some (tag, stop) ∧
      tag.header.total = min ape.length Ape.longest) := by
  have hroom : ¬ (front ++ (audio ++ ape)).length < lyricsRoom := by
    have hlong := h.long
    have hsize : Id3v1.size + Ape.frameSize = 160 := rfl
    have hlyrics : lyricsRoom = 15 := rfl
    rw [List.length_append, List.length_append]
    omega
  rw [readTailApe, h.tailStart_eq, if_neg hroom] at hr
  rcases h.whole with rfl | hape
  · obtain ⟨h1, ha⟩ := tail_of_read h.untagged
    rw [readTailApe_eq h1 h.long] at ha
    rw [List.append_nil, readBefore_append_none ha] at hr
    exact Or.inl ⟨rfl, (Except.ok.inj hr).symm⟩
  · rw [← List.append_assoc] at hr
    exact Or.inr ⟨hape.ne_nil, hape.readBefore_eq hr⟩

/-- The reader finds the tags that are there. -/
theorem read_eq_ok (h : Enclosed front audio ape behind) {found : AudioTags}
    (hr : AudioFile.read (front ++ (audio ++ ape) ++ behind) = .ok found) :
    (found.id3v1.isSome = true ↔ behind ≠ []) ∧ (found.ape.isSome = true ↔ ape ≠ []) := by
  obtain ⟨first, back, hfirst, hback, rfl⟩ := AudioFile.read_eq_ok.mp hr
  have hape : first.tags.ape = none := by
    have hstarts := (h.starts.append ape).append behind
    have hlong : 4 ≤ (audio ++ ape ++ behind).length := by
      rw [List.append_assoc, List.length_append]
      exact Nat.le_add_right_of_le (Nat.le_trans (by decide) h.long)
    rw [List.append_assoc] at hfirst
    rcases h.single with rfl | hfront
    · rw [List.nil_append, hstarts.readFront_eq hlong] at hfirst
      exact readAudio_ape hfirst
    · exact ape_of_readFront_append hfront hstarts hlong hfirst
  constructor
  · rw [readBack_id3v1 hback, h.find?_eq]
    by_cases hb : behind = [] <;> simp [hb]
  · simp only [hape, Option.or_none]
    rcases hb : back.ape with _ | items
    · rcases h.readTailApe_eq_ok (readBack_eq_ok_none hback hb) with ⟨hnil, _⟩ | ⟨_, _, _, hs, _⟩
      · simp [hnil]
      · cases hs
    · rcases ht : readTailApe (front ++ (audio ++ ape) ++ behind) with e | found
      · rw [readBack, ht] at hback
        cases hback
      · rcases h.readTailApe_eq_ok ht with ⟨_, rfl⟩ | ⟨hne, _⟩
        · rw [readBack, ht] at hback
          cases hback
          cases hb
        · simp [hne]

theorem removeId3v1_eq_ok (h : Enclosed front audio ape behind) (hne : behind ≠ []) {out : Bytes}
    (hr : removeId3v1 (front ++ (audio ++ ape) ++ behind) = .ok out) :
    out = front ++ (audio ++ ape) := by
  have hb : Id3v1.IsTag behind := h.last.resolve_left hne
  have hstart : (front ++ (audio ++ ape) ++ behind).length - Id3v1.size =
      (front ++ (audio ++ ape)).length := by
    rw [List.length_append, hb.length]
    omega
  obtain ⟨kind, _, hr⟩ := TagError.bind_ok hr
  rw [h.find?_eq, if_neg hne, hstart] at hr
  cases hr
  exact List.take_left

/-- A tag in front is found where the audio is mistaken for one, and nowhere else. -/
theorem readFrontApe_eq_ok (h : Enclosed front audio ape behind) {found : Option (Nat × Ape.Tag)}
    (hr : readFrontApe (front ++ (audio ++ ape)) = .ok found) :
    (found = none ∧ (audio.drop 8).take Ape.marker.length ≠ Ape.marker) ∨
      ((audio.drop 8).take Ape.marker.length = Ape.marker ∧
        ∃ tag, found = some (front.length + 8, tag) ∧ Ape.frameSize ≤ tag.header.total) := by
  have hlong : 160 ≤ audio.length := h.long
  obtain ⟨rest, hd, hr⟩ := TagError.bind_ok hr
  obtain rfl := dropTag_behind h.single (h.starts.append ape) hd
  have height : 8 ≤ (audio ++ ape).length := by
    rw [List.length_append]
    omega
  have hmark : ((audio ++ ape).drop 8).take Ape.marker.length =
      (audio.drop 8).take Ape.marker.length := by
    rw [List.drop_append_of_le_length (by omega), List.take_append_of_le_length]
    rw [List.length_drop]
    exact Nat.le_sub_of_add_le (Nat.le_trans (by decide) hlong)
  have hroom : Ape.marker.length ≤ ((audio ++ ape).drop 8).length := by
    rw [List.length_drop, List.length_append]
    exact Nat.le_sub_of_add_le (Nat.le_add_right_of_le (Nat.le_trans (by decide) hlong))
  have hplace : (front ++ (audio ++ ape)).length - ((audio ++ ape).drop 8).length =
      front.length + 8 := by
    rw [List.length_drop, List.length_append]
    omega
  simp only [bind, Except.bind, Reader.split_take height, Reader.split_take hroom, hmark,
    hplace] at hr
  by_cases hm : (audio.drop 8).take Ape.marker.length = Ape.marker
  · rw [if_neg (not_not.mpr hm)] at hr
    obtain ⟨tag, ha, hr⟩ := TagError.bind_ok hr
    cases hr
    exact Or.inr ⟨hm, tag, rfl, Ape.frameSize_le_of_readAfter ha⟩
  · rw [if_pos hm] at hr
    cases hr
    exact Or.inl ⟨rfl, hm⟩

/-- The tag behind the audio is cut off to the length it can have at most, and then what the audio
is mistaken for. -/
theorem removeApe_eq_ok (h : Enclosed front audio ape behind) (hne : ape ≠ []) {out : Bytes}
    (hr : removeApe (front ++ (audio ++ ape)) = .ok out) :
    ∃ k, out = front ++ eaten k (audio ++ ape.take (ape.length - Ape.longest)) ∧
      (k ≠ 0 ↔ Mistaken audio ape) ∧ (k ≠ 0 → Ape.frameSize ≤ k) := by
  have hstart := h.cut.tailStart_eq
  have htail := fun found => @readTailApe_eq_ok _ _ _ _ h.cut found
  rw [List.append_nil] at hstart htail
  obtain ⟨kind, _, hr⟩ := TagError.bind_ok hr
  obtain ⟨first, hfront, hr⟩ := TagError.bind_ok hr
  obtain ⟨found, hback, hr⟩ := TagError.bind_ok hr
  obtain ⟨tag, stop, rfl, htotal⟩ :=
    ((htail _ hback).resolve_left fun hnil => hne hnil.1).2
  have hroom : ¬ (front ++ (audio ++ ape)).length < tag.header.total := by
    rw [htotal, List.length_append, List.length_append]
    omega
  -- the end is cut off before the tag in front is, at a place that this cut does not move
  have hcut : (front ++ (audio ++ ape)).take
        ((front ++ (audio ++ ape)).length - tag.header.total) ++
      (front ++ (audio ++ ape)).drop (front ++ (audio ++ ape)).length =
      front ++ (audio ++ ape.take (ape.length - Ape.longest)) := by
    have hplace : (front ++ (audio ++ ape)).length - tag.header.total =
        front.length + (audio.length + (ape.length - Ape.longest)) := by
      rw [htotal, List.length_append, List.length_append]
      omega
    rw [List.drop_length, List.append_nil, hplace, List.take_length_add_append,
      List.take_length_add_append]
  simp only [hstart, Option.map_some, if_neg hroom, hcut] at hr
  rcases h.readFrontApe_eq_ok hfront with ⟨rfl, hm⟩ | ⟨hm, tag', rfl, hleast⟩
  · cases hr
    refine ⟨0, by rw [eaten_zero], ?_, fun hzero => absurd rfl hzero⟩
    exact iff_of_false (fun hzero => hzero rfl) fun hmis => hm hmis.2
  · cases hr
    have hpos : tag'.header.total ≠ 0 := by
      have hframe : Ape.frameSize = 32 := rfl
      omega
    refine ⟨tag'.header.total, ?_, iff_of_true hpos ⟨hne, hm⟩, fun _ => hleast⟩
    simp only [List.take_length_add_append, Nat.add_assoc, List.drop_length_add_append,
      List.append_assoc, eaten]

end Enclosed

end AudioFile

namespace TagWriter

open AudioFile (Enclosed Mistaken eaten)

section Enclosed

variable {front audio ape behind : Bytes} {t : TrackTags}

/-- What is left of the file when the tags at its end are cut off. -/
theorem cutTail_enclosed (h : Enclosed front audio ape behind) {out : Bytes}
    (hc : cutTail (front ++ (audio ++ ape) ++ behind) = .ok out) :
    ∃ k, out = front ++ eaten k (audio ++ ape.take (ape.length - Ape.longest)) ∧
      (k ≠ 0 ↔ Mistaken audio ape) ∧ (k ≠ 0 → Ape.frameSize ≤ k) := by
  obtain ⟨found, hread, hc⟩ := TagError.bind_ok hc
  obtain ⟨h1, ha⟩ := h.read_eq_ok hread
  obtain ⟨mid, hmid, hc⟩ := TagError.bind_ok hc
  have hbody : mid = front ++ (audio ++ ape) := by
    by_cases hb : behind = []
    · have hnone : found.id3v1.isSome = false :=
        Bool.eq_false_iff.mpr fun hsome => h1.mp hsome hb
      rw [hnone] at hmid
      cases hmid
      rw [hb, List.append_nil]
    · rw [h1.mpr hb] at hmid
      exact h.removeId3v1_eq_ok hb hmid
  subst hbody
  by_cases hape : ape = []
  · have hnone : found.ape.isSome = false := Bool.eq_false_iff.mpr fun hsome => ha.mp hsome hape
    rw [hnone] at hc
    cases hc
    subst hape
    refine ⟨0, ?_, ?_, fun hzero => absurd rfl hzero⟩
    · rw [AudioFile.eaten_zero]
      rfl
    · exact iff_of_false (fun hzero => hzero rfl) fun hmis => hmis.1 rfl
  · rw [ha.mpr hape] at hc
    exact h.removeApe_eq_ok hape hc

/-- The new tag stands in front of what is left of the audio. -/
theorem replaceTags_enclosed (h : Enclosed front audio ape behind) {out : Bytes}
    (hr : replaceTags t (front ++ (audio ++ ape) ++ behind) = .ok out) :
    (Id3v2.frameBytes t).length + Id3v2.padding < Id3v2.sizeLimit ∧ ∃ k,
      out = Id3v2.tagBytes t ++ eaten k (audio ++ ape.take (ape.length - Ape.longest)) ∧
      (k ≠ 0 ↔ Mistaken audio ape) ∧ (k ≠ 0 → Ape.frameSize ≤ k) := by
  rw [replaceTags_eq] at hr
  obtain ⟨cut, hc, hr⟩ := TagError.bind_ok hr
  obtain ⟨k, rfl, hk, hleast⟩ := cutTail_enclosed h hc
  obtain ⟨rfl, hs⟩ := AudioFile.putId3v2_behind h.single ((h.starts.append _).eaten k) hr
  exact ⟨hs, k, rfl, hk, hleast⟩

/-- Audio that says nothing about tags gets the new one in front and stays as it is. -/
theorem replaceTags_audio (h : Enclosed front audio ape behind)
    (hs : (Id3v2.frameBytes t).length + Id3v2.padding < Id3v2.sizeLimit) :
    replaceTags t audio = .ok (Id3v2.tagBytes t ++ audio) := by
  rw [replaceTags, h.untagged]
  exact h.starts.putId3v2_eq (Nat.le_trans (by decide) h.long) hs

end Enclosed

/-- Writing these tags to an audio file of the given bytes succeeds in every session, and changes
its bytes to others and nothing else. -/
def Rewrites (t : TrackTags) (bytes out : Bytes) : Prop :=
  ∀ s p i mode, ScannedTrack.isAudio p = true → Open p i mode bytes s.files →
    (id3v2 p t).run s = (.ok (), { s with files := FileTree.putBytes i out s.files })

theorem rewrites_of_replaceTags {t : TrackTags} {bytes out : Bytes}
    (h : replaceTags t bytes = .ok out) : Rewrites t bytes out := by
  intro s p i mode hp ho
  rcases run_id3v2 hp ho t with ⟨_, _, _, he⟩ | ⟨out', hrun, hout⟩
  · rw [h] at he
    cases he
  · rw [h] at hout
    obtain rfl := Except.ok.inj hout
    exact hrun

/-- Whether old tags can be stripped without loss is told by the audio and by the APE tag. Where
tags are written with success to a file of audio between old tags, the new tag comes before the
audio, as it does in a file of the audio alone, unless there is an APE tag and the audio looks like
one eight bytes in. Then a piece of the audio is gone, no shorter than the footer of a tag. Of an
APE tag that is longer than any is taken to be, the first bytes are left behind the audio. -/
theorem run_id3v2_enclosed {front audio ape behind : Bytes} {t : TrackTags} {s s' : Session}
    {p : Path} {i mode : Nat} (h : Enclosed front audio ape behind)
    (hp : ScannedTrack.isAudio p = true)
    (ho : Open p i mode (front ++ (audio ++ ape) ++ behind) s.files)
    (hrun : (id3v2 p t).run s = (.ok (), s')) :
    Id3v2.IsSingleTag (Id3v2.tagBytes t) ∧ Rewrites t audio (Id3v2.tagBytes t ++ audio) ∧
      ∃ out k, s' = { s with files := FileTree.putBytes i out s.files } ∧
        (ape.length ≤ Ape.longest → (out = Id3v2.tagBytes t ++ audio ↔ ¬ Mistaken audio ape)) ∧
        out = Id3v2.tagBytes t ++ eaten k (audio ++ ape.take (ape.length - Ape.longest)) ∧
        (k ≠ 0 ↔ Mistaken audio ape) ∧ (k ≠ 0 → Ape.frameSize ≤ k) := by
  rcases run_id3v2 hp ho t with ⟨_, _, hfail, _⟩ | ⟨out, hok, hmade⟩
  · rw [hrun] at hfail
    cases hfail
  obtain ⟨hs, k, hout, hk, hleast⟩ := replaceTags_enclosed h hmade
  rw [hrun] at hok
  refine ⟨Id3v2.isSingleTag_tagBytes hs, rewrites_of_replaceTags (replaceTags_audio h hs), out, k,
    (Prod.mk.inj hok).2, fun hshort => ?_, hout, hk, hleast⟩
  rw [Nat.sub_eq_zero_of_le hshort, List.take_zero, List.append_nil] at hout
  rw [← hk, not_not, hout, List.append_cancel_left_eq]
  constructor
  · -- audio that has lost a piece is shorter, so it is not the same
    intro he
    by_contra hzero
    have hframe : Ape.frameSize = 32 := rfl
    have hsize : Id3v1.size = 128 := rfl
    have hlong := h.long
    have hlen := congrArg List.length he
    have := hleast hzero
    simp only [eaten, List.length_append, List.length_take, List.length_drop] at hlen
    omega
  · rintro rfl
    exact AudioFile.eaten_zero audio

/-- A tag without items. -/
def emptyApe : Bytes :=
  Ape.edge Ape.frameSize 0 (List.replicate 12 0) ++ Ape.edge Ape.frameSize 0 (List.replicate 12 0)

theorem isWholeTag_emptyApe : Ape.IsWholeTag emptyApe := by
  refine ⟨[], List.replicate 12 0, List.replicate 12 0, ?_, rfl, rfl, by decide, rfl⟩
  intro i hi
  cases hi

/-- An ID3v1 tag that says nothing. -/
def emptyId3v1 : Bytes := Id3v1.marker ++ List.replicate 125 0

theorem enclosed_silence :
    Enclosed (tagOf "TIT2" "Old") AudioFile.silence emptyApe emptyId3v1 where
  starts := AudioFile.isBareAudio_silence.starts
  long := AudioFile.isBareAudio_silence.long
  untagged := AudioFile.isBareAudio_silence.read_eq
  single := Or.inr ⟨_, _, rfl, rfl, rfl, fun hfooter => by cases hfooter⟩
  whole := Or.inr isWholeTag_emptyApe
  apart := by
    set_option maxRecDepth 20000 in
    decide
  last := Or.inr ⟨rfl, rfl⟩

/-- Silence between a tag in front and two behind it is kept. -/
theorem run_id3v2_enclosed_silence : ∃ s',
    (id3v2 (Path.ofString "t.mp3") Id3v2.lowTags).run ⟨FileTree.putBytes 1
      (tagOf "TIT2" "Old" ++ (AudioFile.silence ++ emptyApe) ++ emptyId3v1) oneTemplate, [], []⟩ =
        (.ok (), s') ∧
      s'.files = FileTree.putBytes 1 (Id3v2.tagBytes Id3v2.lowTags ++ AudioFile.silence)
        oneTemplate := by
  have haudio : ScannedTrack.isAudio (Path.ofString "t.mp3") = true := by decide
  have htemplate : oneTemplate.node? 1 = some (.file AudioFile.silence 0o644 ⟨0, 0⟩) := by rfl
  have hpath : oneTemplate.resolve (Path.ofString "t.mp3") = .ok 1 := by rfl
  have hopen := (Open.mk hpath ⟨_, htemplate⟩).putBytes
    (tagOf "TIT2" "Old" ++ (AudioFile.silence ++ emptyApe) ++ emptyId3v1)
  have hmade : (replaceTags Id3v2.lowTags
      (tagOf "TIT2" "Old" ++ (AudioFile.silence ++ emptyApe) ++ emptyId3v1)).isOk = true := by
    set_option maxRecDepth 20000 in
    decide
  rcases run_id3v2 (s := ⟨FileTree.putBytes 1 _ oneTemplate, [], []⟩) haudio hopen Id3v2.lowTags
    with ⟨e, _, _, he⟩ | ⟨_, hrun, _⟩
  · rw [he] at hmade
    cases hmade
  obtain ⟨_, _, out, k, hs', hkept, _⟩ :=
    run_id3v2_enclosed enclosed_silence haudio hopen hrun
  have hne : ¬ Mistaken AudioFile.silence emptyApe := by
    rintro ⟨_, hmark⟩
    exact absurd hmark (by decide)
  rw [(hkept (by decide)).mpr hne] at hs'
  refine ⟨_, hrun, ?_⟩
  rw [hs']
  exact putBytes_putBytes htemplate _ _

/-- Four short frames, and in the first one what an APE tag of 64 bytes begins with. -/
def lookalike : Bytes :=
  [0xFF, 0xF3, 0x24, 0xC4, 0, 0, 0, 0] ++ Ape.edge Ape.frameSize 0 (List.replicate 12 0) ++
    List.replicate 8 0 ++
    (List.replicate 3 ([0xFF, 0xF3, 0x24, 0xC4] ++ List.replicate 44 0)).flatten

theorem enclosed_lookalike : Enclosed [] lookalike emptyApe [] where
  starts := ⟨0xFF, 0xF3, _, rfl, rfl, rfl⟩
  long := by
    set_option maxRecDepth 20000 in
    decide
  untagged := by
    set_option maxRecDepth 20000 in
    decide
  single := Or.inl rfl
  whole := Or.inr isWholeTag_emptyApe
  apart := by
    set_option maxRecDepth 20000 in
    decide
  last := Or.inl rfl

/-- Audio behind which an APE tag is cut off is not kept: 64 bytes of it go with the tag. -/
theorem lookalike_eaten : Enclosed [] lookalike emptyApe [] ∧
    Rewrites Id3v2.lowTags lookalike (Id3v2.tagBytes Id3v2.lowTags ++ lookalike) ∧
    Rewrites Id3v2.lowTags ([] ++ (lookalike ++ emptyApe) ++ [])
      (Id3v2.tagBytes Id3v2.lowTags ++ eaten 64 lookalike) ∧
    Id3v2.tagBytes Id3v2.lowTags ++ eaten 64 lookalike ≠
      Id3v2.tagBytes Id3v2.lowTags ++ lookalike := by
  set_option maxRecDepth 20000 in
  refine ⟨enclosed_lookalike, rewrites_of_replaceTags (by decide),
    rewrites_of_replaceTags (by decide), by decide⟩

end TagWriter

end TaggedLibrary
