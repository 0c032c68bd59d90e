import TaggedLibrary.Proofs.WrittenTag
/-!
Dates in texts: the text of a date is read back as the date, so two dates of one text are the same.
-/

namespace TaggedLibrary.Timestamp

theorem length_padded {width n : Nat} (hw : 0 < width) (h : n < 10 ^ width) :
    (Numeral.padded width n).length = width := by
  have hlen : (Numeral.digits n).length ≤ width := by
    rw [Numeral.digits, Nat.length_toDigits_le_iff (by decide) hw]
    exact h
  rw [Numeral.padded, List.length_append, List.length_replicate]
  omega

/-- The digits of a part, as bytes. -/
def partBytes (width n : Nat) : Bytes := (Numeral.padded width n).map byteOf

theorem length_partBytes {width n : Nat} (hw : 0 < width) (h : n < 10 ^ width) :
    (partBytes width n).length = width := by
  rw [partBytes, List.length_map, length_padded hw h]

theorem places_partBytes (setOff : Bool) {width n : Nat} (hw : 0 < width) (h : n < 10 ^ width) :
    places setOff none 0 (partBytes width n) = .ok (some n, width) := by
  have hne : Numeral.padded width n ≠ [] := by
    intro he
    have := length_padded hw h
    rw [he, List.length_nil] at this
    omega
  have hp := places_digits setOff (fun c hc => Numeral.isDigit_of_mem_padded hc) none 0 hne
  rw [length_padded hw h, Option.getD_none, Numeral.appendDigits_padded, Nat.zero_add] at hp
  exact hp

/-- A part behind its separator is read, and what follows it is left. -/
theorem part_partBytes (separator : Option UInt8) {width n : Nat} (hw : 0 < width)
    (h : n < 10 ^ width) (rest : Bytes) :
    part width separator (separator.toList ++ (partBytes width n ++ rest)) =
      .ok (some (n, rest)) := by
  have hl := length_partBytes hw h
  have hlacks : ¬ lacks width (partBytes width n ++ rest) = true := by
    rw [lacks_eq, decide_eq_true_eq, List.length_append]
    omega
  have htake : (partBytes width n ++ rest).take width = partBytes width n := by
    rw [List.take_left' hl]
  have hdrop : (partBytes width n ++ rest).drop width = rest := by
    rw [List.drop_left' hl]
  have hread : (places separator.isSome none 0 ((partBytes width n ++ rest).take width)).bind
      (fun read => .ok (read.1.map (·, (partBytes width n ++ rest).drop read.2))) =
      (.ok (some (n, rest)) : Except TagError (Option (Nat × Bytes))) := by
    rw [htake, places_partBytes _ hw h]
    simp only [Except.bind, Option.map_some, hdrop]
  cases separator with
  | none =>
    rcases hb : partBytes width n with _ | ⟨x, bytes⟩
    · rw [hb, List.length_nil] at hl
      omega
    · rw [hb] at hlacks hread
      simp only [part, Option.toList_none, List.nil_append, List.cons_append] at hlacks hread ⊢
      rw [if_neg hlacks]
      exact hread
  | some s =>
    simp only [part, Option.toList_some, List.cons_append, List.nil_append, if_true]
    rw [if_neg hlacks]
    exact hread

/-- Parts of two digits, each behind its separator. -/
def laterBytes : List UInt8 → List Nat → Bytes
  | s :: ss, n :: ns => s :: (partBytes 2 n ++ laterBytes ss ns)
  | _, _ => []

theorem part_nil (width : Nat) (separator : Option UInt8) : part width separator [] = .ok none := by
  cases separator <;> rfl

theorem parts_laterBytes (ss : List UInt8) (ns : List Nat) (hl : ns.length ≤ ss.length)
    (hn : ∀ n ∈ ns, n < 100) : parts (ss.map some) (laterBytes ss ns) = .ok ns := by
  induction ss generalizing ns with
  | nil =>
    obtain rfl := List.eq_nil_of_length_eq_zero (Nat.le_zero.mp hl)
    rfl
  | cons s ss ih =>
    cases ns with
    | nil =>
      have hnil : laterBytes (s :: ss) [] = [] := rfl
      rw [hnil, List.map_cons, parts, part_nil]
      rfl
    | cons n ns =>
      have hone := part_partBytes (some s) (by decide : 0 < 2) (hn n (by simp)) (laterBytes ss ns)
      have hrest := ih ns (by simpa using hl) fun m hm => hn m (by simp [hm])
      rw [laterBytes, List.map_cons, parts]
      rw [Option.toList_some, List.cons_append, List.nil_append] at hone
      rw [hone]
      simp only [bind, Except.bind, hrest]
      rfl

/-- The separators in front of the parts after the year. -/
def separators : List UInt8 := [0x2D, 0x2D, 0x54, 0x3A, 0x3A]

/-- A date of a year and as many parts after it as there are in a list. -/
def ofParts (year : Nat) (ns : List Nat) : Timestamp :=
  { year, month := ns[0]?, day := ns[1]?, hour := ns[2]?, minute := ns[3]?, second := ns[4]? }

def bytesOfParts (year : Nat) (ns : List Nat) : Bytes :=
  partBytes 4 year ++ laterBytes separators ns

theorem length_laterBytes_le (ss : List UInt8) {ns : List Nat} (hn : ∀ n ∈ ns, n < 100) :
    (laterBytes ss ns).length ≤ 3 * ns.length := by
  induction ss generalizing ns with
  | nil => cases ns <;> simp [laterBytes]
  | cons s ss ih =>
    cases ns with
    | nil => simp [laterBytes]
    | cons n ns =>
      have hone := length_partBytes (by decide : 0 < 2) (hn n (by simp))
      have hrest := ih fun m (hm : m ∈ ns) => hn m (by simp [hm])
      simp only [laterBytes, List.length_cons, List.length_append, hone]
      omega

/-- A date takes up no more bytes than are read of one. -/
theorem length_bytesOfParts_le {year : Nat} {ns : List Nat} (hy : year < 10 ^ 4)
    (hl : ns.length ≤ 5) (hn : ∀ n ∈ ns, n < 100) : (bytesOfParts year ns).length ≤ longest := by
  have hyear := length_partBytes (by decide : 0 < 4) hy
  have hlater := length_laterBytes_le separators hn
  rw [bytesOfParts, List.length_append, hyear, longest]
  omega

theorem parse_bytesOfParts {year : Nat} {ns : List Nat} (hy : year < 10 ^ 4) (hl : ns.length ≤ 5)
    (hn : ∀ n ∈ ns, n < 100) :
    parse (bytesOfParts year ns) = .ok (some (ofParts year ns)) := by
  have hyear := part_partBytes none (by decide : 0 < 4) hy (laterBytes separators ns)
  rw [Option.toList_none, List.nil_append] at hyear
  have hlater := parts_laterBytes separators ns hl hn
  have htake : (bytesOfParts year ns).take longest = bytesOfParts year ns :=
    List.take_of_length_le (length_bytesOfParts_le hy hl hn)
  have hne : bytesOfParts year ns ≠ [] := by
    intro he
    have h4 := length_partBytes (by decide : 0 < 4) hy
    rw [(List.append_eq_nil_iff.mp he).1] at h4
    cases h4
  have hread : ∀ setOff : Bool, (setOff = false → ns = []) →
      parts [if setOff then some 0x2D else none, if setOff then some 0x2D else none, some 0x54,
        if setOff then some 0x3A else none, if setOff then some 0x3A else none]
        (laterBytes separators ns) = .ok ns := by
    intro setOff hs
    cases setOff with
    | true => exact hlater
    | false =>
      rw [hs rfl]
      rfl
  have hoff : ((bytesOfParts year ns).any fun x => isSeparator x && x ≠ 0x54) = false →
      ns = [] := by
    intro hany
    cases ns with
    | nil => rfl
    | cons n ns =>
      have hmem : (0x2D : UInt8) ∈ bytesOfParts year (n :: ns) := by
        simp [bytesOfParts, laterBytes, separators]
      exact absurd (List.any_eq_false.mp hany _ hmem) (by decide)
  have hwhole := hread _ hoff
  rw [parse, htake]
  simp only
  rw [if_neg hne]
  simp only [bytesOfParts] at hwhole hyear ⊢
  rw [hyear]
  simp only [bind, Except.bind, hwhole]
  rfl

theorem eq_none_of_fits {value : Option Nat} {bound : Nat} (h : fits value bound false = true) :
    value = none := by
  cases value with
  | none => rfl
  | some v => simp [fits] at h

theorem le_of_fits {v bound : Nat} {before : Bool} (h : fits (some v) bound before = true) :
    v ≤ bound := by
  simp only [fits, Bool.and_eq_true, decide_eq_true_eq] at h
  exact h.2

/-- A valid date has parts of two digits up to some place, and its text is made of them. -/
theorem exists_parts {v : Timestamp} (h : v.isValid = true) :
    ∃ ns, v = ofParts v.year ns ∧ v.year < 10 ^ 4 ∧ ns.length ≤ 5 ∧ (∀ n ∈ ns, n < 100) ∧
      Utf8.encode (text v) = bytesOfParts v.year ns := by
  have hp : ∀ width n, Utf8.encode (padded width n) = partBytes width n := by
    intro width n
    refine Utf8.encode_ofList fun c hc => ?_
    have := toNat_bounds (Numeral.isDigit_of_mem_padded hc)
    omega
  have hminus : Utf8.encode "-" = [0x2D] := by rfl
  have ht : Utf8.encode "T" = [0x54] := by rfl
  have hcolon : Utf8.encode ":" = [0x3A] := by rfl
  obtain ⟨year, month, day, hour, minute, second⟩ := v
  simp only [isValid, Bool.and_eq_true, decide_eq_true_eq] at h
  obtain ⟨⟨⟨⟨⟨hy, hmonth⟩, hday⟩, hhour⟩, hminute⟩, hsecond⟩ := h
  have hyear : year < 10 ^ 4 := by omega
  cases month with
  | none =>
    obtain rfl := eq_none_of_fits hday
    obtain rfl := eq_none_of_fits hhour
    obtain rfl := eq_none_of_fits hminute
    obtain rfl := eq_none_of_fits hsecond
    refine ⟨[], rfl, hyear, by simp, by simp, ?_⟩
    simp [text, hp, bytesOfParts, laterBytes]
  | some month =>
  have h1 := le_of_fits hmonth
  cases day with
  | none =>
    obtain rfl := eq_none_of_fits hhour
    obtain rfl := eq_none_of_fits hminute
    obtain rfl := eq_none_of_fits hsecond
    refine ⟨[month], rfl, hyear, by simp, by simp; omega, ?_⟩
    simp [text, Utf8.encode_append, hp, hminus, bytesOfParts, laterBytes, separators]
  | some day =>
  have h2 := le_of_fits hday
  cases hour with
  | none =>
    obtain rfl := eq_none_of_fits hminute
    obtain rfl := eq_none_of_fits hsecond
    refine ⟨[month, day], rfl, hyear, by simp, by simp; omega, ?_⟩
    simp [text, Utf8.encode_append, hp, hminus, bytesOfParts, laterBytes, separators]
  | some hour =>
  have h3 := le_of_fits hhour
  cases minute with
  | none =>
    obtain rfl := eq_none_of_fits hsecond
    refine ⟨[month, day, hour], rfl, hyear, by simp, by simp; omega, ?_⟩
    simp [text, Utf8.encode_append, hp, hminus, ht, bytesOfParts, laterBytes, separators]
  | some minute =>
  have h4 := le_of_fits hminute
  cases second with
  | none =>
    refine ⟨[month, day, hour, minute], rfl, hyear, by simp, by simp; omega, ?_⟩
    simp [text, Utf8.encode_append, hp, hminus, ht, hcolon, bytesOfParts, laterBytes,
      separators]
  | some second =>
    have h5 := le_of_fits hsecond
    refine ⟨[month, day, hour, minute, second], rfl, hyear, by simp, by simp; omega, ?_⟩
    simp [text, Utf8.encode_append, hp, hminus, ht, hcolon, bytesOfParts, laterBytes,
      separators]

/-- The text of a date is read back as the date. -/
theorem parse_text {v : Timestamp} (h : v.isValid = true) :
    parse (Utf8.encode (text v)) = .ok (some v) := by
  obtain ⟨ns, hv, hy, hl, hn, ht⟩ := exists_parts h
  rw [ht, parse_bytesOfParts hy hl hn, ← hv]

theorem length_text_le {v : Timestamp} (h : v.isValid = true) :
    (Utf8.encode (text v)).length ≤ longest := by
  obtain ⟨ns, _, hy, hl, hn, ht⟩ := exists_parts h
  rw [ht]
  exact length_bytesOfParts_le hy hl hn

theorem text_injective {v w : Timestamp} (hv : v.isValid = true) (hw : w.isValid = true)
    (h : text v = text w) : v = w := by
  have hp := parse_text hv
  rw [h, parse_text hw] at hp
  exact (Option.some.inj (Except.ok.inj hp)).symm

/-- What stands in the text of a date. -/
def IsDateChar (c : Char) : Prop := Numeral.isDigit c = true ∨ c = '-' ∨ c = 'T' ∨ c = ':'

theorem isDateChar_of_mem_padded {width n : Nat} {c : Char} (h : c ∈ (padded width n).toList) :
    IsDateChar c := by
  rw [padded, String.toList_ofList] at h
  exact Or.inl (Numeral.isDigit_of_mem_padded h)

theorem isDateChar_of_mem_part {separator rest : String} {value : Option Nat}
    (hs : ∀ c ∈ separator.toList, IsDateChar c) (hr : ∀ c ∈ rest.toList, IsDateChar c) :
    ∀ c ∈ (match value with
      | none => ""
      | some v => separator ++ padded 2 v ++ rest : String).toList, IsDateChar c := by
  intro c hc
  cases value with
  | none => simp at hc
  | some v =>
    simp only [String.toList_append, List.mem_append] at hc
    rcases hc with (hc | hc) | hc
    · exact hs c hc
    · exact isDateChar_of_mem_padded hc
    · exact hr c hc

theorem isDateChar_of_mem_text {v : Timestamp} {c : Char} (h : c ∈ (text v).toList) :
    IsDateChar c := by
  have hminus : ∀ c ∈ "-".toList, IsDateChar c := by
    intro c hc
    exact Or.inr (Or.inl (by simpa using hc))
  have ht : ∀ c ∈ "T".toList, IsDateChar c := by
    intro c hc
    exact Or.inr (Or.inr (Or.inl (by simpa using hc)))
  have hcolon : ∀ c ∈ ":".toList, IsDateChar c := by
    intro c hc
    exact Or.inr (Or.inr (Or.inr (by simpa using hc)))
  rw [text, String.toList_append, List.mem_append] at h
  rcases h with h | h
  · exact isDateChar_of_mem_padded h
  · exact isDateChar_of_mem_part hminus (isDateChar_of_mem_part hminus (isDateChar_of_mem_part ht
      (isDateChar_of_mem_part hcolon (isDateChar_of_mem_part hcolon (by simp))))) c h

theorem toNat_isDateChar {c : Char} (h : IsDateChar c) : 45 ≤ c.toNat ∧ c.toNat < 85 := by
  rcases h with h | rfl | rfl | rfl
  · have := toNat_bounds h
    omega
  all_goals decide

theorem isBlank_isDateChar {c : Char} (h : IsDateChar c) : Blank.isBlank c = false := by
  have := toNat_isDateChar h
  simp only [Blank.isBlank, Bool.or_eq_false_iff, Bool.and_eq_false_iff, decide_eq_false_iff_not,
    beq_eq_false_iff_ne]
  omega

/-- The text of a date is shown as it is. -/
theorem nonBlank_text {v : Timestamp} (h : v.isValid = true) :
    TagFields.nonBlank (some (text v)) = some (text v) := by
  have htrim : Blank.trimChars (text v).toList = (text v).toList :=
    Blank.trimChars_eq_self fun c hc => isBlank_isDateChar (isDateChar_of_mem_text hc)
  have hne : text v ≠ "" := by
    intro he
    have hp := parse_text h
    rw [he] at hp
    cases hp
  simp [TagFields.nonBlank, Blank.trim, htrim, hne]

end TaggedLibrary.Timestamp
