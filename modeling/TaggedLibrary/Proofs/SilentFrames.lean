import TaggedLibrary.Proofs.Dates
/-!
Frames of a further tag replace those of the first. Some of them do not change what the tag says,
whatever it says; the others show through in the tags of some track.
-/

namespace TaggedLibrary.Id3v2

/-- Names of texts that say something about a track. -/
def shownTexts : List String := ["TIT2", "TPE1", "TPE2", "TALB", "TCON", "TRCK", "TPOS"]

/-- A frame with a date that is one. -/
def Frame.isDate : Frame → Bool
  | .time _ value => value.isValid
  | _ => false

/-- A frame that says nothing about a track, nor hides what another one says: a date takes the place
of the same one under any name, so only one that is no date is silent. -/
def Frame.isSilent : Frame → Bool
  | .text id _ => !shownTexts.contains id
  | .time _ value => !value.isValid
  | .other => true

/-- The year of a track is the first date that is one. -/
def firstDate (frames : List Frame) : Option Timestamp := (dates frames).find? (·.isValid)

/-- What frames say depends on seven texts and one date. -/
theorem fields_congr {frames frames' : List Frame}
    (ht : ∀ id ∈ shownTexts, text? frames' id = text? frames id)
    (hd : firstDate frames' = firstDate frames) : fields frames' = fields frames := by
  have hd' : (dates frames').find? (·.isValid) = (dates frames).find? (·.isValid) := hd
  simp only [shownTexts, List.mem_cons, List.not_mem_nil, or_false, forall_eq_or_imp,
    forall_eq] at ht
  obtain ⟨h1, h2, h3, h4, h5, h6, h7⟩ := ht
  simp only [fields, h1, h2, h3, h4, h5, h6, h7, hd']

section Insert

variable (frames : List Frame)

theorem text?_append (more : List Frame) (id : String) :
    text? (frames ++ more) id = (text? frames id).or (text? more id) := List.findSome?_append

/-- Leaving out frames of other names. -/
theorem text?_filter {keep : Frame → Bool} {id : String}
    (h : ∀ value, keep (.text id value) = true) :
    text? (frames.filter keep) id = text? frames id := by
  induction frames with
  | nil => rfl
  | cons f frames ih =>
    have hcons : ∀ fs : List Frame, text? (f :: fs) id = (text? [f] id).or (text? fs id) :=
      fun fs => text?_append [f] fs id
    by_cases hk : keep f = true
    · rw [List.filter_cons_of_pos hk, hcons, ih, ← hcons]
    · rw [List.filter_cons_of_neg hk, ih, hcons]
      cases f with
      | text i value =>
        have hi : i ≠ id := by
          rintro rfl
          exact hk (h value)
        simp [text?, hi]
      | time i value => rfl
      | other => rfl

theorem insert_text (id value : String) : insert frames (.text id value) =
    frames.filter (fun g => !g.sameAs (.text id value)) ++ [.text id value] := rfl

theorem insert_time (id : String) (value : Timestamp) : insert frames (.time id value) =
    frames.filter (fun g => !g.sameAs (.time id value)) ++ [.time id value] := rfl

theorem text?_insert (f : Frame) (id : String) :
    text? (insert frames f) id = (text? [f] id).or (text? frames id) := by
  cases f with
  | other => rfl
  | time i value =>
    rw [insert_time, text?_append, text?_filter frames fun _ => rfl]
    simp [text?]
  | text i value =>
    by_cases hi : i = id
    · subst hi
      have hnone : text? (frames.filter fun g => !g.sameAs (.text i value)) i = none := by
        refine List.findSome?_eq_none_iff.mpr fun g hg => ?_
        have hdiff := (List.mem_filter.mp hg).2
        cases g with
        | text j v =>
          have hj : j ≠ i := by
            rintro rfl
            simp [Frame.sameAs] at hdiff
          simp [hj]
        | time j v => rfl
        | other => rfl
      rw [insert_text, text?_append, hnone]
      simp [text?]
    · have hkeep : ∀ v, (!Frame.sameAs (.text id v) (.text i value)) = true := by
        intro v
        simp [Frame.sameAs, Ne.symm hi]
      rw [insert_text, text?_append, text?_filter frames hkeep]
      simp [text?, hi]

theorem dates_append (more : List Frame) : dates (frames ++ more) = dates frames ++ dates more :=
  List.filterMap_append

theorem dates_insert_text (id value : String) :
    dates (insert frames (.text id value)) = dates frames := by
  have hkeep : dates (frames.filter fun g => !g.sameAs (.text id value)) = dates frames := by
    induction frames with
    | nil => rfl
    | cons f frames ih =>
      rw [show f :: frames = [f] ++ frames from rfl, List.filter_append, dates_append, dates_append,
        ih]
      congr 1
      cases f with
      | text i v =>
        by_cases hi : i = id <;> simp [Frame.sameAs, dates, hi]
      | time i v => rfl
      | other => rfl
  rw [insert_text, dates_append, hkeep]
  exact List.append_nil _

theorem dates_insert_time (id : String) (value : Timestamp) :
    dates (insert frames (.time id value)) =
      (dates frames).filter (· ≠ value) ++ dates [.time id value] := by
  rw [insert_time, dates_append]
  congr 1
  induction frames with
  | nil => rfl
  | cons f frames ih =>
    rw [show f :: frames = [f] ++ frames from rfl, List.filter_append, dates_append, dates_append,
      List.filter_append, ih]
    congr 1
    cases f with
    | text i v => rfl
    | other => rfl
    | time i v =>
      by_cases hv : v = value
      · subst hv
        by_cases hi : i = "TDRC"
        · subst hi
          simp [Frame.sameAs, dates]
        · simp [Frame.sameAs, dates, hi]
      · by_cases hi : i = "TDRC"
        · subst hi
          simp [Frame.sameAs, dates, hv]
        · simp [Frame.sameAs, dates, hv, hi]

/-- Only dates are put in the place of dates. -/
theorem firstDate_insert {f : Frame} (h : f.isDate = false) :
    firstDate (insert frames f) = firstDate frames := by
  cases f with
  | other => rfl
  | text i value => rw [firstDate, dates_insert_text, firstDate]
  | time i value =>
    have hvalue : value.isValid = false := h
    have hlast : (dates [.time i value]).find? (·.isValid) = none := by
      refine List.find?_eq_none.mpr fun v hv => ?_
      by_cases hi : i = "TDRC" <;> simp [dates, hi] at hv
      simp [hv, hvalue]
    rw [firstDate, dates_insert_time, List.find?_append, hlast, Option.or_none,
      List.find?_filter, firstDate]
    congr 1
    funext v
    by_cases hv : v = value
    · simp [hv, hvalue]
    · simp [hv]

/-- A date that is put in counts after all others if it is the track's, and else for nothing. -/
theorem firstDate_insert_time {value : Timestamp} (h : value.isValid = true) (id : String) :
    if id = "TDRC" then firstDate (insert frames (.time id value)) ≠ none
    else firstDate (insert frames (.time id value)) ≠ some value := by
  rw [firstDate, dates_insert_time, List.find?_append]
  split
  · rename_i hi
    simp [dates, hi, h]
  · rename_i hi
    have hlast : dates [.time id value] = [] := by simp [dates, hi]
    rw [hlast, List.find?_nil, Option.or_none]
    intro hfind
    have hmem := List.mem_of_find?_eq_some hfind
    simp at hmem

/-- A silent frame changes nothing of what is said. -/
theorem insert_silent {f : Frame} (h : f.isSilent = true) :
    (∀ id ∈ shownTexts, text? (insert frames f) id = text? frames id) ∧
      firstDate (insert frames f) = firstDate frames := by
  cases f with
  | other => exact ⟨fun _ _ => rfl, rfl⟩
  | text i value =>
    refine ⟨fun id hid => ?_, firstDate_insert frames rfl⟩
    have hi : i ≠ id := by
      rintro rfl
      simp [Frame.isSilent, hid] at h
    rw [text?_insert]
    simp [text?, hi]
  | time i value =>
    refine ⟨fun id hid => ?_,
      firstDate_insert frames (by simpa [Frame.isSilent, Frame.isDate] using h)⟩
    rw [text?_insert]
    rfl

end Insert

theorem foldl_silent {more : List Frame} (h : ∀ f ∈ more, f.isSilent = true) (frames : List Frame) :
    (∀ id ∈ shownTexts, text? (more.foldl insert frames) id = text? frames id) ∧
      firstDate (more.foldl insert frames) = firstDate frames := by
  induction more generalizing frames with
  | nil => exact ⟨fun _ _ => rfl, rfl⟩
  | cons f more ih =>
    obtain ⟨htext, hdate⟩ := ih (fun g hg => h g (List.mem_cons_of_mem _ hg)) (insert frames f)
    obtain ⟨htext', hdate'⟩ := insert_silent frames (h f List.mem_cons_self)
    exact ⟨fun id hid => (htext id hid).trans (htext' id hid), hdate.trans hdate'⟩

/-- Silent frames of a further tag leave what the first one says. -/
theorem fields_foldl_silent {more : List Frame} (h : ∀ f ∈ more, f.isSilent = true)
    (frames : List Frame) : fields (more.foldl insert frames) = fields frames := by
  obtain ⟨htext, hdate⟩ := foldl_silent h frames
  exact fields_congr htext hdate

/-- A text of a further tag is there whatever the first one says. -/
theorem text?_foldl (more frames : List Frame) (id : String) :
    text? (more.foldl insert frames) id = (text? more.reverse id).or (text? frames id) := by
  induction more generalizing frames with
  | nil => rfl
  | cons f more ih =>
    rw [List.foldl_cons, ih, text?_insert, List.reverse_cons, text?_append, Option.or_assoc]

theorem firstDate_foldl {more : List Frame} (h : ∀ f ∈ more, f.isDate = false)
    (frames : List Frame) : firstDate (more.foldl insert frames) = firstDate frames := by
  induction more generalizing frames with
  | nil => rfl
  | cons f more ih =>
    rw [List.foldl_cons, ih fun g hg => h g (List.mem_cons_of_mem _ hg),
      firstDate_insert frames (h f List.mem_cons_self)]

/-- The part of what is said that a text of a name makes up. -/
def textPart (id : String) (f : TagFields) : Option String × Option UInt32 × Option UInt32 :=
  match id with
  | "TIT2" => (f.title, none, none)
  | "TPE1" => (f.artist, none, none)
  | "TPE2" => (f.albumArtist, none, none)
  | "TALB" => (f.album, none, none)
  | "TCON" => (f.genre, none, none)
  | "TRCK" => (none, f.track, f.trackTotal)
  | "TPOS" => (none, f.disc, f.discTotal)
  | _ => (none, none, none)

theorem textPart_congr {id : String} (hid : id ∈ shownTexts) {frames frames' : List Frame}
    (h : text? frames' id = text? frames id) :
    textPart id (fields frames').tidy = textPart id (fields frames).tidy := by
  simp only [shownTexts, List.mem_cons, List.not_mem_nil, or_false] at hid
  rcases hid with rfl | rfl | rfl | rfl | rfl | rfl | rfl <;>
    simp only [textPart, TagFields.tidy, fields, h]

/-- Two sets of tags that have nothing in common. -/
def lowTags : TrackTags :=
  { title := "a", artist := "a", albumArtist := "a", album := "a", track := 1, trackTotal := 1
    disc := 1, discTotal := 1, year := "2001", genre := "a" }

def highTags : TrackTags :=
  { title := "b", artist := "b", albumArtist := "b", album := "b", track := 2, trackTotal := 2
    disc := 2, discTotal := 2, year := "2002", genre := "b" }

theorem plain_lowTags : lowTags.Plain := by
  refine ⟨⟨?_, ?_, ?_, ?_, ?_⟩, ?_, ?_, ?_, ?_⟩ <;> simp [lowTags, Numeral.isDigit]

theorem plain_highTags : highTags.Plain := by
  refine ⟨⟨?_, ?_, ?_, ?_, ?_⟩, ?_, ?_, ?_, ?_⟩ <;> simp [highTags, Numeral.isDigit]

/-- No text of one of them is that of the other. -/
theorem textPart_lowTags_ne (id : String) (hid : id ∈ shownTexts) :
    textPart id lowTags.shown ≠ textPart id highTags.shown := by
  simp only [shownTexts, List.mem_cons, List.not_mem_nil, or_false] at hid
  rcases hid with rfl | rfl | rfl | rfl | rfl | rfl | rfl <;> decide

/-- A text of a further tag shows through in one of two sets of tags at least. -/
theorem exists_text_shown {more : List Frame} {id value : String} (hm : Frame.text id value ∈ more)
    (hid : id ∈ shownTexts) : ∃ t ∈ [lowTags, highTags],
      (fields (more.foldl insert (plainFrames t))).tidy ≠ (fields (plainFrames t)).tidy := by
  have hsome : ∃ last, text? more.reverse id = some last := by
    refine Option.isSome_iff_exists.mp (List.findSome?_isSome_iff.mpr ?_)
    exact ⟨_, List.mem_reverse.mpr hm, by simp⟩
  obtain ⟨last, hlast⟩ := hsome
  have hsame : text? (more.foldl insert (plainFrames lowTags)) id =
      text? (more.foldl insert (plainFrames highTags)) id := by
    rw [text?_foldl, text?_foldl, hlast, Option.some_or, Option.some_or]
  by_cases hlow : (fields (more.foldl insert (plainFrames lowTags))).tidy =
      (fields (plainFrames lowTags)).tidy
  · refine ⟨highTags, by simp, fun hhigh => textPart_lowTags_ne id hid ?_⟩
    rw [← fields_plain plain_lowTags, ← fields_plain plain_highTags, ← hlow, ← hhigh]
    exact textPart_congr hid hsame
  · exact ⟨lowTags, by simp, hlow⟩

/-- Tags that say nothing but a year. -/
def yearTags (year : String) : TrackTags :=
  { title := "", artist := "", albumArtist := "", album := "", track := 0, trackTotal := 0
    disc := 0, discTotal := 0, year, genre := "" }

/-- The frames of a track that says nothing, before its year and behind it. -/
def framesBefore : Bytes :=
  ((trackFrames (yearTags "")).take 4).flatMap fun (id, value) => textFrameBytes id value

def framesBehind : Bytes :=
  ((trackFrames (yearTags "")).drop 5).flatMap fun (id, value) => textFrameBytes id value

theorem frameBytes_yearTags_lt {year : String} (h : (Utf8.encode year).length ≤ Timestamp.longest) :
    (frameBytes (yearTags year)).length + padding < sizeLimit := by
  have hsplit : frameBytes (yearTags year) =
      framesBefore ++ (textFrameBytes "TDRC" year ++ framesBehind) := rfl
  have hbefore : framesBefore.length = 44 := by decide
  have hbehind : framesBehind.length = 39 := by decide
  have hyear : (textFrameBytes "TDRC" year).length = 11 + (Utf8.encode year).length := by
    rw [textFrameBytes, List.length_append, List.length_append, List.length_append]
    rfl
  rw [hsplit, List.length_append, List.length_append, hbefore, hbehind, hyear, padding, sizeLimit]
  unfold Timestamp.longest at h
  omega

theorem nulFree_yearTags (year : String) : (yearTags year).NulFree := by
  refine ⟨?_, ?_, ?_, ?_, ?_⟩ <;> exact List.not_mem_nil

/-- A year that is the text of a date is read as the date. -/
theorem writtenFrames_text {v : Timestamp} (h : v.isValid = true) :
    writtenFrames (yearTags v.text) = .ok (datedFrames (yearTags v.text) (some v)) := by
  have hchar : ∀ c ∈ v.text.toList, 45 ≤ c.toNat ∧ c.toNat < 85 := fun c hc =>
    Timestamp.toNat_isDateChar (Timestamp.isDateChar_of_mem_text hc)
  have hnul : '\x00' ∉ v.text.toList := by
    intro hm
    exact absurd (hchar _ hm).1 (by decide)
  have hascii : ∀ c ∈ v.text.toList, c.toNat < 128 := by
    intro c hc
    have := hchar c hc
    omega
  exact writtenFrames_dated (nulFree_yearTags _)
    (run_time hnul hascii (Timestamp.parse_text h))
    (frameBytes_yearTags_lt (Timestamp.length_text_le h))

theorem frameBytes_noYear_lt : (frameBytes (yearTags "")).length + padding < sizeLimit :=
  frameBytes_yearTags_lt (Nat.zero_le _)

theorem writtenFrames_noYear :
    writtenFrames (yearTags "") = .ok (datedFrames (yearTags "") none) :=
  writtenFrames_dated (nulFree_yearTags "") rfl frameBytes_noYear_lt

theorem year_tidy (frames : List Frame) :
    (fields frames).tidy.year = TagFields.nonBlank ((firstDate frames).map Timestamp.text) := rfl

theorem isValid_firstDate {frames : List Frame} {v : Timestamp} (h : firstDate frames = some v) :
    v.isValid = true := List.find?_some h

/-- The shown years of different first dates differ. -/
theorem firstDate_eq_of_year {frames frames' : List Frame}
    (h : (fields frames').tidy.year = (fields frames).tidy.year) :
    firstDate frames' = firstDate frames := by
  have hshown : ∀ fs : List Frame,
      TagFields.nonBlank ((firstDate fs).map Timestamp.text) =
        (firstDate fs).map Timestamp.text := by
    intro fs
    cases hd : firstDate fs with
    | none => rfl
    | some v => exact Timestamp.nonBlank_text (isValid_firstDate hd)
  rw [year_tidy, year_tidy, hshown, hshown] at h
  cases hd : firstDate frames with
  | none =>
    rw [hd] at h
    exact Option.map_eq_none_iff.mp h
  | some v =>
    rw [hd] at h
    obtain ⟨w, hw, htext⟩ := Option.map_eq_some_iff.mp h
    rw [hw, Timestamp.text_injective (isValid_firstDate hw) (isValid_firstDate hd) htext]

/-- A date of a further tag shows through where there is no year, or hides the same date. -/
theorem exists_date_shown {more : List Frame} (h : ∃ f ∈ more, f.isDate = true) :
    ∃ year date, (frameBytes (yearTags year)).length + padding < sizeLimit ∧
      writtenFrames (yearTags year) = .ok (datedFrames (yearTags year) date) ∧
      (fields (more.foldl insert (datedFrames (yearTags year) date))).tidy ≠
        (fields (datedFrames (yearTags year) date)).tidy := by
  obtain ⟨last, hlast⟩ : ∃ last, more.reverse.find? Frame.isDate = some last := by
    refine Option.isSome_iff_exists.mp (List.find?_isSome.mpr ?_)
    obtain ⟨f, hf, hd⟩ := h
    exact ⟨f, List.mem_reverse.mpr hf, hd⟩
  obtain ⟨hdate, behind, before, hsplit, hbehind⟩ := List.find?_eq_some_iff_append.mp hlast
  have hmore : more = before.reverse ++ last :: behind.reverse := by
    rw [← List.reverse_reverse more, hsplit]
    simp
  have hfirst : ∀ frames, firstDate (more.foldl insert frames) =
      firstDate (insert (before.reverse.foldl insert frames) last) := by
    intro frames
    rw [hmore, List.foldl_append, List.foldl_cons, firstDate_foldl fun f hf => ?_]
    simpa using hbehind f (List.mem_reverse.mp hf)
  cases last with
  | other => cases hdate
  | text id value => cases hdate
  | time id value =>
    have hput := fun frames =>
      firstDate_insert_time (before.reverse.foldl insert frames) hdate id
    by_cases hid : id = "TDRC"
    · refine ⟨"", none, frameBytes_noYear_lt, writtenFrames_noYear, fun he => ?_⟩
      have hsame := firstDate_eq_of_year (congrArg TagFields.year he)
      rw [hfirst] at hsame
      have hnew := hput (datedFrames (yearTags "") none)
      rw [if_pos hid, hsame] at hnew
      exact hnew rfl
    · refine ⟨value.text, some value, frameBytes_yearTags_lt (Timestamp.length_text_le hdate),
        writtenFrames_text hdate, fun he => ?_⟩
      have hsame := firstDate_eq_of_year (congrArg TagFields.year he)
      rw [hfirst] at hsame
      have hnew := hput (datedFrames (yearTags value.text) (some value))
      rw [if_neg hid, hsame] at hnew
      apply hnew
      have hvalue : value.isValid = true := hdate
      simp [firstDate, dates, datedFrames, foundFrames, hvalue]

/-- Frames of a further tag that are not all silent show through in the tags of some track. -/
theorem exists_shown {more : List Frame} (h : ¬ ∀ f ∈ more, f.isSilent = true) :
    ∃ t frames, (frameBytes t).length + padding < sizeLimit ∧ writtenFrames t = .ok frames ∧
      (fields (more.foldl insert frames)).tidy ≠ (fields frames).tidy := by
  obtain ⟨f, hf, hs⟩ : ∃ f ∈ more, f.isSilent = false := by
    by_contra hall
    refine h fun f hf => ?_
    by_contra hs
    exact hall ⟨f, hf, Bool.eq_false_iff.mpr hs⟩
  cases f with
  | other => cases hs
  | time id value =>
    obtain ⟨year, date, hsize, hwritten, hne⟩ :=
      exists_date_shown ⟨_, hf, show Frame.isDate (.time id value) = true by
        simpa [Frame.isSilent, Frame.isDate] using hs⟩
    exact ⟨_, _, hsize, hwritten, hne⟩
  | text id value =>
    have hid : id ∈ shownTexts := by simpa [Frame.isSilent] using hs
    obtain ⟨t, ht, hne⟩ := exists_text_shown hf hid
    have hsize : (frameBytes t).length + padding < sizeLimit := by
      simp only [List.mem_cons, List.not_mem_nil, or_false] at ht
      rcases ht with rfl | rfl <;> decide
    have hplain : t.Plain := by
      simp only [List.mem_cons, List.not_mem_nil, or_false] at ht
      rcases ht with rfl | rfl
      · exact plain_lowTags
      · exact plain_highTags
    exact ⟨t, _, hsize, writtenFrames_plain hplain hsize, hne⟩

end TaggedLibrary.Id3v2
