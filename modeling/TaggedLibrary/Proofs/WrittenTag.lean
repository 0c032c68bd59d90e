import Mathlib.Data.List.Forall2
import TaggedLibrary.Proofs.Numerals
import TaggedLibrary.Proofs.TextBytes
import TaggedLibrary.Tag.AudioFile
import TaggedLibrary.Tag.Id3v2.Writer
/-!
What a reader makes of a tag that was written for a track. The head of the tag gives back the size
that was put into it, each frame gives back its text, and the padding ends the frames.
-/

namespace TaggedLibrary

namespace TrackTags

/-- Tags whose texts hold no NUL, which would end a text. -/
structure NulFree (t : TrackTags) : Prop where
  title : '\x00' ∉ t.title.toList
  artist : '\x00' ∉ t.artist.toList
  albumArtist : '\x00' ∉ t.albumArtist.toList
  album : '\x00' ∉ t.album.toList
  genre : '\x00' ∉ t.genre.toList

/-- Tags that come back as they were written: the year has four digits, and the genre is not taken
for a reference to a numbered one. -/
structure Plain (t : TrackTags) : Prop extends NulFree t where
  year : t.year.toList.length = 4
  yearDigits : ∀ c ∈ t.year.toList, Numeral.isDigit c = true
  genreHead : ∀ c ∈ t.genre.toList.head?, c ≠ '(' ∧ c ≠ '+' ∧ Numeral.isDigit c = false
  genreName : t.genre ≠ "RX" ∧ t.genre ≠ "CR"

/-- What a player shows of a track: the numbers and the year as they are, the other texts trimmed
and left out if they are blank. -/
def shown (t : TrackTags) : TagFields :=
  { title := TagFields.nonBlank (some t.title)
    artist := TagFields.nonBlank (some t.artist)
    albumArtist := TagFields.nonBlank (some t.albumArtist)
    album := TagFields.nonBlank (some t.album)
    track := some t.track, trackTotal := some t.trackTotal
    disc := some t.disc, discTotal := some t.discTotal
    year := some t.year
    genre := TagFields.nonBlank (some t.genre) }

end TrackTags

namespace Id3v2

/-- What the head of a written tag says. -/
def writtenHeader (t : TrackTags) : Header :=
  { version := .v4, unsynchronised := false, footer := false
    size := (frameBytes t).length + padding, extended := 0 }

/-- What stands behind the head of a written tag. -/
def writtenContent (t : TrackTags) : Bytes := frameBytes t ++ List.replicate padding 0

/-- The frames that a reader finds in a written tag. -/
def writtenFrames (t : TrackTags) : Except TagError (List Frame) :=
  readFrames .v4 (writtenContent t).length [] (writtenContent t)

theorem length_writtenContent (t : TrackTags) :
    (writtenContent t).length = (frameBytes t).length + padding := by
  simp [writtenContent]

theorem tagBytes_append (t : TrackTags) (rest : Bytes) :
    tagBytes t ++ rest = 0x49 :: 0x44 :: 0x33 :: 4 :: 0 :: 0 ::
      (toSevenBits ((frameBytes t).length + padding) ++ (writtenContent t ++ rest)) := by
  simp [tagBytes, marker, writtenContent]

theorem length_tagBytes (t : TrackTags) :
    (tagBytes t).length = headerSize + ((frameBytes t).length + padding) := by
  simp [tagBytes, marker, toSevenBits, headerSize]
  omega

theorem run_take_header (x0 x1 x2 x3 x4 x5 x6 x7 x8 x9 : UInt8) (rest : Bytes) :
    (Reader.take headerSize).run
        (x0 :: x1 :: x2 :: x3 :: x4 :: x5 :: x6 :: x7 :: x8 :: x9 :: rest) =
      (.ok [x0, x1, x2, x3, x4, x5, x6, x7, x8, x9], rest) :=
  Reader.run_take_append [x0, x1, x2, x3, x4, x5, x6, x7, x8, x9] rest

theorem toSevenBits_eq (n : Nat) : ∃ x0 x1 x2 x3, toSevenBits n = [x0, x1, x2, x3] :=
  ⟨_, _, _, _, rfl⟩

theorem readHeader_tagBytes {t : TrackTags} (h : (frameBytes t).length + padding < sizeLimit)
    (rest : Bytes) :
    readHeader.run (tagBytes t ++ rest) = (.ok (writtenHeader t), writtenContent t ++ rest) := by
  have hs := sevenBits_toSevenBits h
  rw [tagBytes_append]
  generalize hn : (frameBytes t).length + padding = n at hs
  obtain ⟨x0, x1, x2, x3, hx⟩ := toSevenBits_eq n
  rw [hx] at hs ⊢
  simp only [List.cons_append, List.nil_append]
  rw [readHeader, Reader.run_bind, run_take_header]
  simp [marker, Version.ofByte?, hasBit, hs, writtenHeader, hn]

/-- Behind its head a tag is read as far as the head says. -/
theorem readTag_of_split {b rest : Bytes} {header : Header}
    (h : readHeader.split b = .ok (header, rest)) :
    readTag b =
      let content := if header.unsynchronised then resynchronise (header.cut rest).1
        else (header.cut rest).1
      (readFrames header.version content.length [] content).map fun frames =>
        (header, if header.version = .v3 then joinDate frames else frames,
          (header.cut rest).2) := by
  rw [readTag, h]
  simp only [bind, Except.bind, pure, Except.pure, Except.map]

/-- A written tag is read up to its very end, whatever follows it. -/
theorem readTag_tagBytes {t : TrackTags} (h : (frameBytes t).length + padding < sizeLimit)
    (rest : Bytes) :
    readTag (tagBytes t ++ rest) =
      (writtenFrames t).map fun frames => (writtenHeader t, frames, rest) := by
  have hsplit : readHeader.split (tagBytes t ++ rest) =
      .ok (writtenHeader t, writtenContent t ++ rest) := by
    simp only [Reader.split, readHeader_tagBytes h]
  have hcut : (writtenHeader t).cut (writtenContent t ++ rest) = (writtenContent t, rest) := by
    have hl := length_writtenContent t
    simp [Header.cut, writtenHeader, ← hl]
  rw [readTag_of_split hsplit, hcut]
  rfl

/-- Names that stand at the head of a frame as four bytes and are read back from them. -/
structure IsFrameName (id : String) : Prop where
  read : ∃ a b c d, Utf8.encode id = [a, b, c, d] ∧ a ≠ 0 ∧ d ≠ 0 ∧ idText? [a, b, c, d] = some id

theorem readFrameHeader_textFrame {id value : String} (hid : IsFrameName id)
    (hs : (Utf8.encode value).length + 1 < sizeLimit) (rest : Bytes) :
    readFrameHeader .v4 (textFrameBytes id value ++ rest) =
      some (⟨some id, (Utf8.encode value).length + 1, .none⟩, 3 :: Utf8.encode value ++ rest) := by
  obtain ⟨a, b, c, d, he, ha, hd, hi⟩ := hid.read
  have hseven := sevenBits_toSevenBits hs
  obtain ⟨x0, x1, x2, x3, hx⟩ := toSevenBits_eq ((Utf8.encode value).length + 1)
  rw [hx] at hseven
  simp only [textFrameBytes, he, hx, List.cons_append, List.nil_append]
  simp [readFrameHeader, ha, hd, hi, hseven, FrameFlags.ofBytes, hasBit, FrameFlags.none]

/-- A frame is read as its content is; what the content leaves comes before what follows. -/
theorem readFrames_textFrame {id value : String} (hid : IsFrameName id)
    (hs : (Utf8.encode value).length + 1 < sizeLimit) (fuel : Nat) (frames : List Frame)
    (rest : Bytes) {found : Option Frame}
    (hf : (contentReader .v4 id).run (3 :: Utf8.encode value) = (.ok found, [])) :
    readFrames .v4 (fuel + 1) frames (textFrameBytes id value ++ rest) =
      readFrames .v4 fuel (found.elim frames (insertValue frames)) rest := by
  have hbody : (readBody .v4 id .none ((Utf8.encode value).length + 1)).run
      (3 :: Utf8.encode value ++ rest) = (.ok found, rest) := by
    have htake : (3 :: Utf8.encode value ++ rest).take ((Utf8.encode value).length + 1) =
        3 :: Utf8.encode value := by simp
    have hdrop : (3 :: Utf8.encode value ++ rest).drop ((Utf8.encode value).length + 1) =
        rest := by simp
    cases found <;>
      simp [readBody, readExtra, FrameFlags.none, Reader.run_bind, Reader.run_map,
        Reader.run_within, hf, Except.map]
  rw [readFrames, readFrameHeader_textFrame hid hs]
  simp only [Nat.succ_ne_zero, if_false, hbody]
  cases found <;> rfl

theorem readFrames_padding (fuel : Nat) (frames : List Frame) :
    readFrames .v4 (fuel + 1) frames (List.replicate padding 0) = .ok frames := by
  have hp : List.replicate padding (0 : UInt8) =
      0 :: 0 :: 0 :: 0 :: 0 :: 0 :: 0 :: 0 :: 0 :: 0 :: List.replicate 1014 0 := rfl
  rw [readFrames, hp]
  simp [readFrameHeader]

theorem ofChars_of_not_mem {s : String} (h : '\x00' ∉ s.toList) :
    TextEncoding.ofChars s.toList = s := by
  have hd : TextEncoding.dropZeros s.toList = s.toList := by
    rcases List.eq_nil_or_concat s.toList with he | ⟨cs, c, he⟩
    · rw [he]
      rfl
    · have hc : c ≠ '\x00' := by
        rintro rfl
        exact h (by simp [he])
      simp [TextEncoding.dropZeros, he, hc]
  rw [TextEncoding.ofChars, hd, String.ofList_toList]

theorem decode_utf8_encode {s : String} (h : '\x00' ∉ s.toList) :
    (TextEncoding.utf8.decode none (Utf8.encode s)).map (·.text) = .ok s := by
  unfold TextEncoding.decode
  split
  · rename_i he
    rw [Utf8.encode_eq_nil he]
    rfl
  · simp [TextEncoding.utf8Text, Utf8.decode?_encode, ofChars_of_not_mem h, Except.map]

theorem run_text {id value : String} (hv : '\x00' ∉ value.toList) :
    (Content.text .v4 id).run (3 :: Utf8.encode value) = (.ok (some (.text id value)), []) := by
  simp [Content.text, Content.encoded, Content.startingWithByte, Content.encoding,
    Content.anyEncoding, TextEncoding.ofByte?, Reader.run_bind, Reader.run_map,
    decode_utf8_encode hv]
  rfl

end Id3v2

namespace Timestamp

/-- The byte of a digit, or of any other character of ASCII. -/
def byteOf (c : Char) : UInt8 := UInt8.ofNat c.toNat

theorem toNat_bounds {c : Char} (h : Numeral.isDigit c = true) : 48 ≤ c.toNat ∧ c.toNat ≤ 57 := by
  simp only [Numeral.isDigit, Bool.and_eq_true, decide_eq_true_eq, Char.le_def] at h
  exact ⟨UInt32.le_iff_toNat_le.mp h.1, UInt32.le_iff_toNat_le.mp h.2⟩

theorem toNat_byteOf {c : Char} (h : Numeral.isDigit c = true) : (byteOf c).toNat = c.toNat := by
  have := toNat_bounds h
  rw [byteOf, UInt8.toNat_ofNat']
  omega

theorem isDigit_byteOf {c : Char} (h : Numeral.isDigit c = true) : isDigit (byteOf c) = true := by
  have hb := toNat_bounds h
  have hn := toNat_byteOf h
  simp only [isDigit, Bool.and_eq_true, decide_eq_true_eq, UInt8.le_iff_toNat_le, hn]
  exact hb

theorem byteOf_ne {c : Char} (h : Numeral.isDigit c = true) {b : UInt8}
    (hb : b.toNat < 48 ∨ 57 < b.toNat) : byteOf c ≠ b := by
  intro he
  have hl := toNat_bounds h
  have hn := toNat_byteOf h
  rw [he] at hn
  omega

theorem places_digits (setOff : Bool) {cs : List Char} (h : ∀ c ∈ cs, Numeral.isDigit c = true)
    (value : Option Nat) (count : Nat) (hne : cs ≠ []) :
    places setOff value count (cs.map byteOf) =
      .ok (some (Numeral.appendDigits (value.getD 0) cs), count + cs.length) := by
  induction cs generalizing value count with
  | nil => exact absurd rfl hne
  | cons c cs ih =>
    have hc : Numeral.isDigit c = true := h c (by simp)
    have hsp : byteOf c ≠ 0x20 := byteOf_ne hc (by decide)
    have hv : (byteOf c).toNat - 0x30 = Numeral.digitValue c := by
      rw [toNat_byteOf hc]
      rfl
    rw [List.map_cons, places, if_neg hsp, if_pos (isDigit_byteOf hc), hv]
    rcases cs with _ | ⟨d, cs⟩
    · rfl
    · rw [ih (fun x hx => h x (by simp [hx])) _ _ (by simp)]
      simp only [Option.getD_some, List.length_cons, Numeral.appendDigits, List.foldl_cons]
      congr 2
      omega

/-- Four digits are a year and nothing else. -/
theorem parse_digits {cs : List Char} (hl : cs.length = 4)
    (h : ∀ c ∈ cs, Numeral.isDigit c = true) :
    parse (cs.map byteOf) = .ok (some { year := Numeral.appendDigits 0 cs }) := by
  have hp := places_digits false h none 0 (by rintro rfl; exact absurd hl (by decide))
  obtain ⟨a, b, c, d, rfl⟩ : ∃ a b c d, cs = [a, b, c, d] := by
    rcases cs with _ | ⟨a, _ | ⟨b, _ | ⟨c, _ | ⟨d, _ | ⟨e, rest⟩⟩⟩⟩⟩
    all_goals simp at hl
    exact ⟨a, b, c, d, rfl⟩
  generalize hv : Numeral.appendDigits 0 [a, b, c, d] = year at hp ⊢
  simp only [List.map_cons, List.map_nil, Option.getD_none, hv] at hp ⊢
  have hpart : part 4 none [byteOf a, byteOf b, byteOf c, byteOf d] = .ok (some (year, [])) := by
    simp [part, lacks, hp, bind, Except.bind, pure, Except.pure]
  have hnone : ∀ separator, part 2 separator [] = .ok none := by
    intro separator
    cases separator <;> rfl
  simp [parse, longest, hpart, parts, hnone, bind, Except.bind, pure, Except.pure]

theorem isValid_year {n : Nat} (h : n < 10 ^ 4) : isValid { year := n } = true := by
  simp [isValid, fits]
  omega

theorem text_year (n : Nat) : text { year := n } = padded 4 n := by
  simp [text]

end Timestamp

namespace Id3v2

/-- What the frames of a track come back as, where the year is read as a date or as nothing. -/
def foundFrames (t : TrackTags) (date : Option Timestamp) : List (Option Frame) :=
  [some (.text "TIT2" t.title), some (.text "TPE1" t.artist), some (.text "TPE2" t.albumArtist),
   some (.text "TALB" t.album), date.map (.time "TDRC"), some (.text "TCON" t.genre),
   some (.text "TRCK" t.trackField), some (.text "TPOS" t.discField)]

/-- The frames of a track with such a date. -/
def datedFrames (t : TrackTags) (date : Option Timestamp) : List Frame :=
  (foundFrames t date).filterMap id

/-- The frames of tags that come back as they were written. -/
def plainFrames (t : TrackTags) : List Frame :=
  datedFrames t (some { year := Numeral.appendDigits 0 t.year.toList })

/-- A text of ASCII is read as the date in it. -/
theorem run_time {s : String} (hnul : '\x00' ∉ s.toList) (hascii : ∀ c ∈ s.toList, c.toNat < 128)
    {found : Option Timestamp} (hparse : Timestamp.parse (Utf8.encode s) = .ok found) :
    (Content.time "TDRC").run (3 :: Utf8.encode s) = (.ok (found.map (.time "TDRC")), []) := by
  have hall : ¬ ∃ c, c ∈ s.toList ∧ 128 ≤ c.toNat := by
    rintro ⟨c, hc, hn⟩
    have := hascii c hc
    omega
  simp [Content.time, Content.startingWithByte, Content.anyEncoding, TextEncoding.ofByte?,
    Reader.run_bind, decode_utf8_encode hnul, hparse]
  rw [if_neg hall, Reader.run_map]
  rfl

theorem run_year {year : String} (hl : year.toList.length = 4)
    (h : ∀ c ∈ year.toList, Numeral.isDigit c = true) :
    (Content.time "TDRC").run (3 :: Utf8.encode year) =
      (.ok (some (.time "TDRC" { year := Numeral.appendDigits 0 year.toList })), []) := by
  have hnul : '\x00' ∉ year.toList := by
    intro hm
    exact absurd (h _ hm) (by decide)
  have hascii : ∀ c ∈ year.toList, c.toNat < 128 := by
    intro c hc
    have := Timestamp.toNat_bounds (h c hc)
    omega
  have hbytes : Utf8.encode (String.ofList year.toList) = year.toList.map Timestamp.byteOf :=
    Utf8.encode_ofList hascii
  have hparse := Timestamp.parse_digits hl h
  rw [← hbytes, String.ofList_toList] at hparse
  exact run_time hnul hascii hparse

theorem nul_not_mem_slashed (m n : UInt32) : '\x00' ∉ (TrackTags.slashed m n).toList := by
  intro h
  simp only [TrackTags.slashed, Numeral.text, String.toList_append, String.toList_ofList,
    List.mem_append] at h
  rcases h with (h | h) | h
  · exact absurd (Numeral.isDigit_of_mem_digits h) (by decide)
  · exact absurd h (by decide)
  · exact absurd (Numeral.isDigit_of_mem_digits h) (by decide)

/-- A frame that is like no other goes behind them. -/
theorem insertValue_new {frames : List Frame} {f : Frame} (hf : f ≠ .other)
    (h : ∀ g ∈ frames, g.sameAs f = false) : insertValue frames f = frames ++ [f] := by
  have ha : frames.any (·.sameAs f) = false := List.any_eq_false.mpr fun g hg => by simp [h g hg]
  have hk : frames.filter (fun g => !g.sameAs f) = frames :=
    List.filter_eq_self.mpr fun g hg => by simp [h g hg]
  rw [insertValue, ha, Bool.and_false, if_neg (by decide)]
  cases f with
  | other => exact absurd rfl hf
  | text id value => simp only [insert, hk]
  | time id value => simp only [insert, hk]

theorem length_le_frameBytes {t : TrackTags} {id value : String}
    (h : (id, value) ∈ trackFrames t) :
    (Utf8.encode value).length + 1 ≤ (frameBytes t).length := by
  have hm := List.sublist_flatten_of_mem (List.mem_map_of_mem (f := fun frame : String × String =>
    textFrameBytes frame.1 frame.2) h)
  have hl := hm.length_le
  simp only [textFrameBytes, List.length_append, List.length_cons] at hl
  rw [← List.flatMap_def] at hl
  change _ ≤ (frameBytes t).length at hl
  omega

/-- A name and a text that come back as a frame, or as nothing. -/
structure ReadsAs (written : String × String) (found : Option Frame) : Prop where
  name : IsFrameName written.1
  small : (Utf8.encode written.2).length + 1 < sizeLimit
  run : (contentReader .v4 written.1).run (3 :: Utf8.encode written.2) = (.ok found, [])
  kept : found ≠ some .other

/-- Frames of which no two are alike come back in their order. -/
theorem readFrames_all {written : List (String × String)} {found : List (Option Frame)}
    (h : List.Forall₂ ReadsAs written found) (fuel : Nat) (frames : List Frame) (rest : Bytes)
    (hd : (frames ++ found.filterMap id).Pairwise fun g f => g.sameAs f = false) :
    readFrames .v4 (fuel + written.length) frames
        (written.flatMap (fun (id, value) => textFrameBytes id value) ++ rest) =
      readFrames .v4 fuel (frames ++ found.filterMap id) rest := by
  induction h generalizing frames with
  | nil => simp
  | @cons w f ws fs hw _ ih =>
    have hone := readFrames_textFrame hw.name hw.small (fuel + ws.length) frames
      (ws.flatMap (fun (id, value) => textFrameBytes id value) ++ rest) hw.run
    rw [List.flatMap_cons, List.append_assoc, List.length_cons, ← Nat.add_assoc]
    cases f with
    | none => exact hone.trans (ih frames hd)
    | some f =>
      have hnew : ∀ g ∈ frames, g.sameAs f = false := fun g hg =>
        (List.pairwise_append.mp hd).2.2 g hg f (by simp)
      have hkept : f ≠ .other := fun he => hw.kept (congrArg some he)
      rw [Option.elim_some, insertValue_new hkept hnew] at hone
      have hd' : ((frames ++ [f]) ++ fs.filterMap id).Pairwise fun g f => g.sameAs f = false := by
        simpa using hd
      have hih := ih (frames ++ [f]) hd'
      rw [List.append_assoc, List.singleton_append] at hih
      exact hone.trans hih

theorem isFrameName_of_mem {id : String}
    (h : id ∈ ["TIT2", "TPE1", "TPE2", "TALB", "TDRC", "TCON", "TRCK", "TPOS"]) :
    IsFrameName id := by
  simp only [List.mem_cons, List.not_mem_nil, or_false] at h
  rcases h with rfl | rfl | rfl | rfl | rfl | rfl | rfl | rfl <;>
    exact ⟨_, _, _, _, by rfl, by decide, by decide, by rfl⟩

theorem trackFrames_readsAs {t : TrackTags} (hn : t.NulFree) {date : Option Timestamp}
    (hdate : (Content.time "TDRC").run (3 :: Utf8.encode t.year) =
      (.ok (date.map (.time "TDRC")), []))
    (hs : (frameBytes t).length + padding < sizeLimit) :
    List.Forall₂ ReadsAs (trackFrames t) (foundFrames t date) := by
  have small : ∀ id value, (id, value) ∈ trackFrames t →
      (Utf8.encode value).length + 1 < sizeLimit := by
    intro id value hm
    have := length_le_frameBytes hm
    omega
  have text : ∀ id value, (id, value) ∈ trackFrames t → '\x00' ∉ value.toList →
      id ∈ ["TIT2", "TPE1", "TPE2", "TALB", "TCON", "TRCK", "TPOS"] →
      ReadsAs (id, value) (some (.text id value)) := by
    intro id value hm hv hid
    have hsub : ["TIT2", "TPE1", "TPE2", "TALB", "TCON", "TRCK", "TPOS"] ⊆
        ["TIT2", "TPE1", "TPE2", "TALB", "TDRC", "TCON", "TRCK", "TPOS"] := by decide
    refine ⟨isFrameName_of_mem (hsub hid), small id value hm, ?_, by simp⟩
    have hr : contentReader .v4 id = Content.text .v4 id := by
      simp only [List.mem_cons, List.not_mem_nil, or_false] at hid
      rcases hid with rfl | rfl | rfl | rfl | rfl | rfl | rfl <;> rfl
    rw [hr]
    exact run_text hv
  refine .cons ?_ (.cons ?_ (.cons ?_ (.cons ?_ (.cons ?_ (.cons ?_ (.cons ?_ (.cons ?_ .nil)))))))
  · exact text _ _ (by simp [trackFrames]) hn.title (by simp)
  · exact text _ _ (by simp [trackFrames]) hn.artist (by simp)
  · exact text _ _ (by simp [trackFrames]) hn.albumArtist (by simp)
  · exact text _ _ (by simp [trackFrames]) hn.album (by simp)
  · refine ⟨isFrameName_of_mem (by simp), small "TDRC" _ (by simp [trackFrames]), hdate, ?_⟩
    cases date <;> simp
  · exact text _ _ (by simp [trackFrames]) hn.genre (by simp)
  · exact text _ _ (by simp [trackFrames]) (nul_not_mem_slashed _ _) (by simp)
  · exact text _ _ (by simp [trackFrames]) (nul_not_mem_slashed _ _) (by simp)

theorem writtenFrames_dated {t : TrackTags} (hn : t.NulFree) {date : Option Timestamp}
    (hdate : (Content.time "TDRC").run (3 :: Utf8.encode t.year) =
      (.ok (date.map (.time "TDRC")), []))
    (hs : (frameBytes t).length + padding < sizeLimit) :
    writtenFrames t = .ok (datedFrames t date) := by
  have hd : (([] : List Frame) ++ datedFrames t date).Pairwise fun g f => g.sameAs f = false := by
    cases date <;> simp [datedFrames, foundFrames, Frame.sameAs]
  have hfuel : (writtenContent t).length = (frameBytes t).length + 1015 + 1 + 8 := by
    rw [length_writtenContent]
    rfl
  rw [writtenFrames, hfuel]
  exact (readFrames_all (trackFrames_readsAs hn hdate hs) _ [] _ hd).trans
    (readFrames_padding _ _)

theorem writtenFrames_plain {t : TrackTags} (hp : t.Plain)
    (hs : (frameBytes t).length + padding < sizeLimit) : writtenFrames t = .ok (plainFrames t) :=
  writtenFrames_dated hp.toNulFree (run_year hp.year hp.yearDigits) hs

end Id3v2

namespace Blank

theorem isBlank_of_isDigit {c : Char} (h : Numeral.isDigit c = true) : isBlank c = false := by
  have := Timestamp.toNat_bounds h
  simp only [isBlank, Bool.or_eq_false_iff, Bool.and_eq_false_iff, decide_eq_false_iff_not,
    beq_eq_false_iff_ne]
  omega

theorem trimChars_eq_self {cs : List Char} (h : ∀ c ∈ cs, isBlank c = false) :
    trimChars cs = cs := by
  have hs : ∀ ds : List Char, (∀ c ∈ ds, isBlank c = false) → trimStart ds = ds := by
    intro ds hd
    cases ds with
    | nil => rfl
    | cons c ds => simp [trimStart, hd c (by simp)]
  rw [trimChars, hs cs h, hs cs.reverse (by simpa using h), List.reverse_reverse]

end Blank

namespace Id3v2

/-- A number and a total are told apart by the slash between them, which is no digit. -/
theorem pair_slashed (m n : UInt32) : pair (TrackTags.slashed m n) = (some m, some n) := by
  have hl : (TrackTags.slashed m n).toList =
      Numeral.digits m.toNat ++ '/' :: Numeral.digits n.toNat := by
    simp [TrackTags.slashed, Numeral.text]
  have hmark : ∀ c ∈ Numeral.digits m.toNat, (!decide (c = '/' ∨ c = '\x00')) = true := by
    intro c hc
    have hd := Numeral.isDigit_of_mem_digits hc
    have h1 : c ≠ '/' := by
      rintro rfl
      exact absurd hd (by decide)
    have h2 : c ≠ '\x00' := by
      rintro rfl
      exact absurd hd (by decide)
    simp [h1, h2]
  have htrim : ∀ k : UInt32, Blank.trimChars (Numeral.digits k.toNat) = Numeral.digits k.toNat :=
    fun k => Blank.trimChars_eq_self fun c hc =>
      Blank.isBlank_of_isDigit (Numeral.isDigit_of_mem_digits hc)
  have htake : (TrackTags.slashed m n).toList.takeWhile
      (fun c => !decide (c = '/' ∨ c = '\x00')) = Numeral.digits m.toNat := by
    rw [hl, List.takeWhile_append_of_pos hmark]
    simp
  have hdrop : (TrackTags.slashed m n).toList.dropWhile
      (fun c => !decide (c = '/' ∨ c = '\x00')) = '/' :: Numeral.digits n.toNat := by
    rw [hl, List.dropWhile_append_of_pos hmark]
    simp
  unfold pair
  dsimp only
  rw [htake, hdrop]
  dsimp only
  rw [htrim, htrim, Numeral.uint32?_digits, Numeral.uint32?_digits]
  rfl

theorem firstValue_of_not_mem {s : String} (h : '\x00' ∉ s.toList) : firstValue s = s := by
  have hw : (s.toList ++ []).takeWhile (· ≠ '\x00') = s.toList ++ [].takeWhile (· ≠ '\x00') :=
    List.takeWhile_append_of_pos fun c hc => by
      simp only [ne_eq, decide_eq_true_eq]
      rintro rfl
      exact h hc
  simp only [List.append_nil, List.takeWhile_nil] at hw
  rw [firstValue, hw, String.ofList_toList]

end Id3v2

namespace Genre

/-- A text that does not begin like a number stands for no number. -/
theorem number?_eq_none {s : String}
    (h : ∀ c ∈ s.toList.head?, c ≠ '+' ∧ Numeral.isDigit c = false) :
    number? s = none := by
  rcases hs : s.toList with _ | ⟨c, cs⟩
  · simp [number?, hs, Numeral.nat?]
  · obtain ⟨hplus, hdigit⟩ := h c (by simp [hs])
    simp only [number?, hs]
    split
    · rename_i he
      exact absurd (List.cons.inj he).1 hplus
    · simp [Numeral.nat?, hdigit]

theorem first?_plain {t : TrackTags} (h : t.Plain) :
    first? t.genre = if t.genre = "" then none else some t.genre := by
  have href : ofReference t.genre = t.genre := by
    have hn := number?_eq_none fun c hc => (h.genreHead c hc).2
    simp [ofReference, hn, h.genreName.1, h.genreName.2]
  rcases hs : t.genre.toList with _ | ⟨c, cs⟩
  · have he : t.genre = "" := String.toList_eq_nil_iff.mp hs
    rw [if_pos he, first?, hs]
    rfl
  · have hne : t.genre ≠ "" := by
      intro he
      rw [he] at hs
      exact absurd hs (by simp)
    have hnul : (c :: cs).contains '\x00' = false := by
      have := h.genre
      rw [hs] at this
      simpa using this
    rw [if_neg hne]
    simp only [first?, hs, List.isEmpty_cons, hnul, Bool.false_eq_true, if_false]
    split
    · rename_i he
      exact absurd (List.cons.inj he).1 (h.genreHead c (by simp [hs])).1
    · rw [href]

end Genre

namespace Id3v2

theorem fields_plain {t : TrackTags} (h : t.Plain) : (fields (plainFrames t)).tidy = t.shown := by
  have hyear : ((dates (plainFrames t)).find? (·.isValid)).map (·.text) = some t.year := by
    have hv : Timestamp.isValid { year := Numeral.appendDigits 0 t.year.toList } = true := by
      apply Timestamp.isValid_year
      have := Numeral.appendDigits_lt h.yearDigits
      rwa [h.year] at this
    have hne : t.year.toList ≠ [] := by
      intro he
      exact absurd h.year (by simp [he])
    have hpad := Numeral.padded_appendDigits hne h.yearDigits
    rw [h.year] at hpad
    simp [dates, plainFrames, datedFrames, foundFrames, hv, Timestamp.text_year, Timestamp.padded,
      hpad]
  have hshown : TagFields.nonBlank (some t.year) = some t.year := by
    have htrim : Blank.trimChars t.year.toList = t.year.toList :=
      Blank.trimChars_eq_self fun c hc => Blank.isBlank_of_isDigit (h.yearDigits c hc)
    have hne : t.year ≠ "" := by
      intro he
      exact absurd h.year (by simp [he])
    simp [TagFields.nonBlank, Blank.trim, htrim, hne]
  have hgenre : TagFields.nonBlank (Genre.first? t.genre) = TagFields.nonBlank (some t.genre) := by
    rw [Genre.first?_plain h]
    split
    · rename_i he
      rw [he]
      rfl
    · rfl
  simp only [fields, hyear]
  simp [plainFrames, datedFrames, foundFrames, text?, TagFields.tidy, TrackTags.shown,
    firstValue_of_not_mem h.title, firstValue_of_not_mem h.artist,
    firstValue_of_not_mem h.albumArtist, firstValue_of_not_mem h.album, TrackTags.trackField,
    TrackTags.discField, pair_slashed, hgenre, hshown]

end Id3v2

end TaggedLibrary
