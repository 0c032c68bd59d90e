import TaggedLibrary.Proofs.SilentFrames
import TaggedLibrary.Proofs.Tagging
/-!
What shows through of the tags that a file had before tags were written to it. One tag of each kind
is cut off; a reader goes on behind the new tag through all tags that are left, and frames of those
replace the new ones.
-/

namespace TaggedLibrary

namespace Ape

/-- Reads a tag behind the marker of its header, however long it says it is. -/
def readUnchecked : Reader Tag := do
  let header ← readHeader
  Reader.skip 12
  let items ← readItems header.items header.total []
  Reader.skip frameSize
  return { header, items }

theorem readAfter_eq_ok {n : Nat} {b : Bytes} {x : Tag × Bytes}
    (h : (readAfter n).split b = .ok x) : readUnchecked.split b = .ok x := by
  rw [Reader.split, readAfter, Reader.run_bind] at h
  rw [Reader.split, readUnchecked, Reader.run_bind]
  rcases hh : readHeader.run b with ⟨e | header, rest⟩
  · rw [hh] at h
    cases h
  · rw [hh] at h
    simp only [Reader.run_bind, Reader.run_ofExcept] at h ⊢
    rcases hc : header.check n with e | u
    · rw [hc] at h
      cases h
    · rw [hc] at h
      exact h

/-- What is read of a tag does not depend on the size of the file, which only rules tags out. -/
theorem readAfter_size {n m : Nat} {b : Bytes} {x y : Tag × Bytes}
    (h : (readAfter n).split b = .ok x) (h' : (readAfter m).split b = .ok y) : x = y := by
  have hx := readAfter_eq_ok h
  rw [readAfter_eq_ok h'] at hx
  exact (Except.ok.inj hx).symm

end Ape

namespace AudioFile

open Id3v2 (Frame)

/-- The frames of the tags that a reader meets one after another in front of the audio. -/
inductive Leftover : Bytes → List Frame → Prop
  | audio {b : Bytes} (hmark : b.take 3 ≠ Id3v2.marker) (hape : b.take 4 ≠ Ape.marker.take 4) :
      Leftover b []
  | tag {b rest : Bytes} {header : Id3v2.Header} {frames more : List Frame}
      (hmark : b.take 3 = Id3v2.marker) (hread : Id3v2.readTag b = .ok (header, frames, rest))
      (hmore : Leftover rest more) : Leftover b (frames ++ more)
  | ape {b rest : Bytes} {size : Nat} {tag : Ape.Tag} {more : List Frame}
      (hape : b.take 8 = Ape.marker)
      (hread : (Ape.readAfter size).split (b.drop 8) = .ok (tag, rest))
      (hmore : Leftover rest more) : Leftover b more

namespace Leftover

variable {b : Bytes} {more more' : List Frame}

theorem ape_ne_marker (h : b.take 8 = Ape.marker) :
    b.take 3 ≠ Id3v2.marker ∧ b.take 4 = Ape.marker.take 4 := by
  have h3 : b.take 3 = Ape.marker.take 3 := by rw [← h, List.take_take]; rfl
  have h4 : b.take 4 = Ape.marker.take 4 := by rw [← h, List.take_take]; rfl
  refine ⟨?_, h4⟩
  rw [h3]
  decide

/-- The bytes tell what is left in them. -/
theorem unique (h : Leftover b more) (h' : Leftover b more') : more = more' := by
  induction h generalizing more' with
  | audio hmark hape =>
    cases h' with
    | audio => rfl
    | tag hmark' => exact absurd hmark' hmark
    | ape hape' => exact absurd (ape_ne_marker hape').2 hape
  | tag hmark hread _ ih =>
    cases h' with
    | audio hmark' => exact absurd hmark hmark'
    | ape hape' => exact absurd hmark (ape_ne_marker hape').1
    | tag hmark' hread' hmore' =>
      rw [hread] at hread'
      cases hread'
      rw [ih hmore']
  | ape hape hread _ ih =>
    cases h' with
    | audio hmark' hape' => exact absurd (ape_ne_marker hape).2 hape'
    | tag hmark' => exact absurd hmark' (ape_ne_marker hape).1
    | ape hape' hread' hmore' =>
      cases Ape.readAfter_size hread hread'
      exact ih hmore'

end Leftover

/-- Behind a first tag the reader puts the frames of all further ones into it. -/
theorem exists_leftover {file b : Bytes} {fuel : Nat} {tags : AudioTags} {frames : List Frame}
    {front : Front} (htags : tags.id3v2 = some frames) (h : readTags file fuel tags b = .ok front)
    (hf : front.frame ≠ none) :
    ∃ more, Leftover b more ∧ front.tags.id3v2 = some (more.foldl Id3v2.insert frames) := by
  induction fuel generalizing b tags frames with
  | zero =>
    cases h
    exact absurd rfl hf
  | succ fuel ih =>
    unfold readTags at h
    split at h
    · cases h
      exact absurd rfl hf
    split at h
    · rename_i hmark
      rcases hr : Id3v2.readTag b with e | ⟨header, fs, rest⟩
      · rw [hr] at h
        cases h
      · rw [hr] at h
        have hnone : tags.id3v2.isNone = false := by rw [htags]; rfl
        simp only [bind, Except.bind, hnone, Bool.false_and, Bool.false_eq_true, if_false] at h
        have hadd : (addFrames tags fs).id3v2 = some (fs.foldl Id3v2.insert frames) := by
          rw [addFrames, htags]
        obtain ⟨more, hmore, hout⟩ := ih hadd h
        exact ⟨fs ++ more, .tag hmark hr hmore, by rw [hout, List.foldl_append]⟩
    split at h
    · split at h
      · cases h
      split at h
      · cases h
      · rename_i hape
        rcases hr : (Ape.readAfter file.length).split (b.drop 8) with e | ⟨tag, rest⟩
        · rw [hr] at h
          cases h
        · rw [hr] at h
          have hadd : ({ tags with ape := some tag.items } : AudioTags).id3v2 = some frames :=
            htags
          obtain ⟨more, hmore, hout⟩ := ih hadd h
          exact ⟨more, .ape (not_not.mp hape) hr hmore, hout⟩
    · rename_i hmark hape
      have hsome : tags.id3v2.isSome = true := by rw [htags]; rfl
      rw [readAudio_tagged file hsome] at h
      rcases hfound : Mpeg.findFrame (file.length - b.length) b with e | found
      · rw [hfound] at h
        cases h
      · rw [hfound] at h
        cases h
        exact ⟨[], .audio hmark hape, htags⟩

/-- What a player shows of a written tag in front of other bytes: the frames that are left in those
are put into it. -/
theorem playerFields_tagBytes {t : TrackTags} {rest : Bytes} {fields : TagFields}
    (hs : (Id3v2.frameBytes t).length + Id3v2.padding < Id3v2.sizeLimit)
    (h : playerFields (Id3v2.tagBytes t ++ rest) = some fields) :
    ∃ frames more, Id3v2.writtenFrames t = .ok frames ∧ Leftover rest more ∧
      fields = Id3v2.fields (more.foldl Id3v2.insert frames) := by
  unfold playerFields at h
  split at h
  · rename_i c hc
    split at h
    · rename_i hp
      cases h
      obtain ⟨front, back, hfront, _, rfl⟩ := readContents_eq_ok.mp hc
      have hframe : front.frame ≠ none := by
        intro he
        unfold hasProperties at hp
        simp only [he] at hp
        cases hp
      rw [readFront_tagBytes hs] at hfront
      rcases hw : Id3v2.writtenFrames t with e | frames
      · rw [hw] at hfront
        cases hfront
      · rw [hw] at hfront
        obtain ⟨more, hmore, hout⟩ := exists_leftover rfl hfront hframe
        refine ⟨frames, more, rfl, hmore, ?_⟩
        simp only [AudioTags.fields, hout]
    · cases h
  · cases h

end AudioFile

namespace TagWriter

open AudioFile (Leftover)

/-- The bytes of a file without the tags that a reader finds at its end. -/
def cutTail (bytes : Bytes) : Except TagError Bytes := do
  let found ← AudioFile.read bytes
  let bytes ← cutIf found.id3v1.isSome AudioFile.removeId3v1 bytes
  cutIf found.ape.isSome AudioFile.removeApe bytes

theorem replaceTags_eq (t : TrackTags) (bytes : Bytes) :
    replaceTags t bytes = cutTail bytes >>= AudioFile.putId3v2 t := by
  simp only [replaceTags, cutTail, bind_assoc]

/-- The bytes are those of a stream, and these are left of them when the tags are cut off that
new ones take the place of. -/
def CutTo (bytes rest : Bytes) : Prop :=
  ∃ file kind, cutTail bytes = .ok file ∧ AudioFile.kindFor .id3v2 file = .ok kind ∧
    (kind = .mpeg ∨ kind = .aac) ∧ Id3v2.dropTag file = .ok rest

theorem CutTo.replaceTags_ok {bytes rest out : Bytes} {t : TrackTags} (h : CutTo bytes rest)
    (hr : replaceTags t bytes = .ok out) : out = Id3v2.tagBytes t ++ rest ∧
      (Id3v2.frameBytes t).length + Id3v2.padding < Id3v2.sizeLimit := by
  obtain ⟨file, kind, hcut, hkind, hstream, hdrop⟩ := h
  rw [replaceTags_eq, hcut] at hr
  obtain ⟨rest', hdrop', rfl, hs⟩ := AudioFile.putId3v2_stream hkind hstream hr
  rw [hdrop] at hdrop'
  cases hdrop'
  exact ⟨rfl, hs⟩

/-- Nothing that is left says anything about a track. -/
def NothingLeft (rest : Bytes) : Prop :=
  ∀ more, Leftover rest more → ∀ f ∈ more, f.isSilent = true

/-- Tags are written with success to an audio file of these bytes, and a player can read what comes
of it. -/
structure Retagged (s : Session) (p : Path) (i : Nat) (bytes : Bytes) (t : TrackTags)
    (s' : Session) : Prop where
  audio : ScannedTrack.isAudio p = true
  opened : ∃ mode, Open p i mode bytes s.files
  run : (id3v2 p t).run s = (.ok (), s')
  playable : ∃ out mode modified, s'.files.node? i = some (.file out mode modified) ∧
    AudioFile.playerFields out ≠ none

/-- A scan shows these fields of an audio file of these bytes after tags have been written to it. -/
def Shown (bytes : Bytes) (t : TrackTags) (fields : TagFields) : Prop :=
  ∃ s p i s' dir, Retagged s p i bytes t s' ∧
    ∃ e ∈ ScannedTrack.scan s'.files dir, s'.files.resolve e.path = .ok i ∧ e.fields = fields

theorem Shown.replaceTags_ok {bytes : Bytes} {t : TrackTags} {fields : TagFields}
    (h : Shown bytes t fields) : ∃ out said, replaceTags t bytes = .ok out ∧
      AudioFile.playerFields out = some said ∧ fields = said.tidy := by
  obtain ⟨s, p, i, s', dir, hw, e, he, hres, rfl⟩ := h
  obtain ⟨mode, hopen⟩ := hw.opened
  obtain ⟨modified, hi⟩ := hopen.node
  rcases run_id3v2 hw.audio hopen t with ⟨_, _, hrun, _⟩ | ⟨out, hrun, hmade⟩
  · rw [hw.run] at hrun
    cases hrun
  rw [hw.run] at hrun
  obtain rfl : s' = { s with files := FileTree.putBytes i out s.files } := (Prod.mk.inj hrun).2
  have hnode := FileTree.node?_putBytes hi out
  obtain ⟨out', _, _, hnode', hplay⟩ := hw.playable
  rw [hnode] at hnode'
  cases hnode'
  obtain ⟨said, hsaid⟩ := Option.ne_none_iff_exists'.mp hplay
  refine ⟨out, said, hmade, hsaid, ?_⟩
  rw [ScannedTrack.eq_ofPath_of_mem_scan he, ScannedTrack.ofPath_of_file hres hnode,
    ScannedTrack.fieldsOf, hsaid]

/-- Whatever bytes a file has, what is shown of it after the writing is told by them alone. -/
theorem shown_iff {bytes : Bytes} {t : TrackTags} {fields : TagFields} :
    Shown bytes t fields ↔ ∃ out said, replaceTags t bytes = .ok out ∧
      AudioFile.playerFields out = some said ∧ fields = said.tidy := by
  refine ⟨Shown.replaceTags_ok, ?_⟩
  rintro ⟨out, said, hmade, hsaid, rfl⟩
  have htemplate : oneTemplate.node? 1 = some (.file AudioFile.silence 0o644 ⟨0, 0⟩) := by rfl
  have hpath : oneTemplate.resolve (Path.ofString "t.mp3") = .ok 1 := by rfl
  have haudio : ScannedTrack.isAudio (Path.ofString "t.mp3") = true := by decide
  have hr := (FileTree.putBytes_rewritten 1 bytes oneTemplate).extends.resolve hpath
  have hi := FileTree.node?_putBytes htemplate bytes
  have hopen : Open (Path.ofString "t.mp3") 1 0o644 bytes
    (⟨FileTree.putBytes 1 bytes oneTemplate, [], []⟩ : Session).files := ⟨hr, _, hi⟩
  rcases run_id3v2 haudio hopen t with ⟨e, s', _, he⟩ | ⟨out', hrun, hout⟩
  · rw [hmade] at he
    cases he
  rw [hmade] at hout
  obtain rfl := Except.ok.inj hout
  have hi' := FileTree.node?_putBytes hi out
  have hput := FileTree.putBytes_rewritten 1 out (FileTree.putBytes 1 bytes oneTemplate)
  have hr' := hput.extends.resolve hr
  have hscan := ScannedTrack.scan_of_file hr' hi' haudio
  refine ⟨_, _, 1, _, Path.ofString "t.mp3", ⟨haudio, ⟨_, hopen⟩, hrun, _, _, _, hi', ?_⟩, _,
    hscan ▸ List.mem_singleton_self _, hr', ?_⟩
  · rw [hsaid]
    exact Option.some_ne_none _
  · rw [ScannedTrack.fieldsOf, hsaid]

/-- A scan shows the new frames, with those that are left of old tags put into them. -/
theorem Shown.eq_of_cut {bytes rest : Bytes} {t : TrackTags} {fields : TagFields}
    (h : Shown bytes t fields) (hc : CutTo bytes rest) :
    ∃ frames more, Id3v2.writtenFrames t = .ok frames ∧ Leftover rest more ∧
      fields = (Id3v2.fields (more.foldl Id3v2.insert frames)).tidy := by
  obtain ⟨out, said, hmade, hsaid, rfl⟩ := h.replaceTags_ok
  obtain ⟨rfl, hs⟩ := hc.replaceTags_ok hmade
  obtain ⟨frames, more, hw, hmore, rfl⟩ := AudioFile.playerFields_tagBytes hs hsaid
  exact ⟨frames, more, hw, hmore, rfl⟩

theorem Shown.eq_of_nothingLeft {bytes rest : Bytes} {t : TrackTags} {fields : TagFields}
    (h : Shown bytes t fields) (hc : CutTo bytes rest) (hn : NothingLeft rest) :
    ∃ frames, Id3v2.writtenFrames t = .ok frames ∧ fields = (Id3v2.fields frames).tidy := by
  obtain ⟨frames, more, hw, hmore, rfl⟩ := h.eq_of_cut hc
  exact ⟨frames, hw, by rw [Id3v2.fields_foldl_silent (hn more hmore)]⟩

/-- Audio without tags is put behind the new tag as it is, and has nothing left in it. -/
theorem cutTo_of_bare {b : Bytes} (h : AudioFile.IsBareAudio b) : CutTo b b := by
  refine ⟨b, .mpeg, ?_, h.starts.kindFor_eq _, Or.inl rfl,
    h.starts.dropTag_eq (Nat.le_trans (by decide) h.long)⟩
  rw [cutTail, h.read_eq]
  rfl

theorem nothingLeft_of_bare {b : Bytes} (h : AudioFile.IsBareAudio b) : NothingLeft b := by
  intro more hmore
  obtain ⟨hmark, hape, _⟩ := h.starts.ne_marker
  rw [hmore.unique (.audio hmark hape)]
  intro f hf
  cases hf

/-- A tag with one frame. -/
def tagOf (id value : String) : Bytes :=
  let frame := Id3v2.textFrameBytes id value
  Id3v2.marker ++ [4, 0, 0] ++ Id3v2.toSevenBits frame.length ++ frame

/-- Audio behind two tags, the second with a title. -/
def stacked : Bytes := tagOf "TALB" "One" ++ (tagOf "TIT2" "Old" ++ AudioFile.silence)

set_option maxRecDepth 20000 in
theorem cutTo_stacked : CutTo stacked (tagOf "TIT2" "Old" ++ AudioFile.silence) :=
  ⟨stacked, .mpeg, rfl, rfl, Or.inl rfl, rfl⟩

theorem shown_of_eq {bytes : Bytes} {t : TrackTags} {said : TagFields}
    (h : (replaceTags t bytes).toOption.bind AudioFile.playerFields = some said) :
    Shown bytes t said.tidy := by
  rcases hr : replaceTags t bytes with e | out
  · rw [hr] at h
    cases h
  · rw [hr] at h
    exact shown_iff.mpr ⟨out, said, hr, h, rfl⟩

end TagWriter

end TaggedLibrary
