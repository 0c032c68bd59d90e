import Mathlib.Data.List.Basic
import Mathlib.Data.List.Induction
import TaggedLibrary.TrackFile
/-!
Decimal numerals read back: as numbers of 32 bits, at a fixed width, and in front of a file name.
-/

namespace TaggedLibrary.Numeral

theorem isDigit_of_mem_digits {n : Nat} {c : Char} (h : c ∈ digits n) : isDigit c = true := by
  have hd := Nat.isDigit_of_mem_toDigits (by decide) (by decide) h
  simp only [Char.isDigit, Bool.and_eq_true, decide_eq_true_eq] at hd
  simp only [isDigit, Bool.and_eq_true, decide_eq_true_eq]
  exact hd

theorem digits_ne_nil (n : Nat) : digits n ≠ [] := Nat.toDigits_ne_nil

theorem appendDigits_append (v : Nat) (xs ys : List Char) :
    appendDigits v (xs ++ ys) = appendDigits (appendDigits v xs) ys := by
  simp [appendDigits]

theorem appendDigits_digits (n : Nat) : appendDigits 0 (digits n) = n := by
  have hv : ∀ (cs : List Char) (v : Nat), appendDigits v cs = Nat.ofDigitChars 10 cs v := by
    intro cs v
    rw [Nat.ofDigitChars_eq_foldl]
    have hf : (fun v c => v * 10 + digitValue c) = fun (v : Nat) (c : Char) =>
        10 * v + (c.toNat - '0'.toNat) := by
      funext v c
      rw [Nat.mul_comm]
      rfl
    rw [appendDigits, hf]
  rw [hv]
  exact Nat.ofDigitChars_ten_toDigits

theorem nat?_of_all {cs : List Char} (hne : cs ≠ []) (h : ∀ d ∈ cs, isDigit d = true) :
    nat? cs = some (appendDigits 0 cs) := by
  have hall : cs.all isDigit = true := List.all_eq_true.mpr h
  have hempty : cs.isEmpty = false := by simpa using hne
  simp [nat?, hall, hempty]

theorem nat?_digits (n : Nat) : nat? (digits n) = some n := by
  rw [nat?_of_all (digits_ne_nil n) fun c hc => isDigit_of_mem_digits hc, appendDigits_digits]

/-- A sign is no digit, so digits are never taken for a signed number. -/
theorem uint32?_digits (n : UInt32) : uint32? (String.ofList (digits n.toNat)) = some n := by
  have hs : ∀ rest, digits n.toNat ≠ '+' :: rest := by
    intro rest he
    have hd := isDigit_of_mem_digits (n := n.toNat) (c := '+') (by simp [he])
    exact absurd hd (by decide)
  simp only [uint32?, String.toList_ofList]
  split
  · rename_i m hm
    rw [nat?_digits] at hm
    obtain rfl := Option.some.inj hm
    rw [if_pos n.toNat_lt, UInt32.ofNat_toNat]
  · rename_i hm
    rw [nat?_digits] at hm
    cases hm

theorem digitValue_lt {c : Char} (h : isDigit c = true) : digitValue c < 10 := by
  simp only [isDigit, Bool.and_eq_true, decide_eq_true_eq, Char.le_def] at h
  have hc : c.toNat ≤ 57 := by simpa using UInt32.le_iff_toNat_le.mp h.2
  simp only [digitValue]
  omega

theorem digits_digitValue {c : Char} (h : isDigit c = true) : digits (digitValue c) = [c] := by
  have hl : 48 ≤ c.toNat ∧ c.toNat ≤ 57 := by
    simp only [isDigit, Bool.and_eq_true, decide_eq_true_eq, Char.le_def] at h
    exact ⟨by simpa using UInt32.le_iff_toNat_le.mp h.1,
      by simpa using UInt32.le_iff_toNat_le.mp h.2⟩
  have hc : c = Char.ofNat c.toNat := (Char.ofNat_toNat c).symm
  obtain ⟨k, hk, hn⟩ : ∃ k, k < 10 ∧ c.toNat = 48 + k := ⟨c.toNat - 48, by omega, by omega⟩
  rw [digits, Nat.toDigits_of_lt_base (digitValue_lt h), hc, hn]
  have hall : ∀ k < 10, [(digitValue (Char.ofNat (48 + k))).digitChar] = [Char.ofNat (48 + k)] := by
    decide
  exact hall k hk

theorem padded_zero {k : Nat} (hk : 0 < k) : padded k 0 = List.replicate k '0' := by
  have h0 : digits 0 = ['0'] := by decide
  obtain ⟨k, rfl⟩ : ∃ j, k = j + 1 := ⟨k - 1, by omega⟩
  simp [padded, h0, List.replicate_succ']

/-- A run of digits is its own value at the width of the run. -/
theorem padded_appendDigits {cs : List Char} (hn : cs ≠ []) (h : ∀ c ∈ cs, isDigit c = true) :
    padded cs.length (appendDigits 0 cs) = cs := by
  induction cs using List.reverseRecOn with
  | nil => exact absurd rfl hn
  | append_singleton cs c ih =>
    have hc : isDigit c = true := h c (by simp)
    have hcs : ∀ x ∈ cs, isDigit x = true := fun x hx => h x (by simp [hx])
    have hv : appendDigits 0 (cs ++ [c]) = appendDigits 0 cs * 10 + digitValue c := by
      rw [appendDigits_append]
      rfl
    rw [hv]
    rcases Nat.eq_zero_or_pos (appendDigits 0 cs) with hz | hp
    · have hzeros : List.replicate cs.length '0' = cs := by
        rcases cs with _ | ⟨x, xs⟩
        · rfl
        · have := ih (by simp) hcs
          rwa [hz, padded_zero (by simp)] at this
      rw [hz, Nat.zero_mul, Nat.zero_add, padded, digits_digitValue hc]
      simp [hzeros]
    · have hne : cs ≠ [] := by
        rintro rfl
        exact absurd hp (by simp [appendDigits])
      have hd : digits (appendDigits 0 cs * 10 + digitValue c) =
          digits (appendDigits 0 cs) ++ [c] := by
        rw [Nat.mul_comm, digits, ← Nat.toDigits_append_toDigits (by decide) hp (digitValue_lt hc)]
        exact congrArg _ (digits_digitValue hc)
      have hpad := ih hne hcs
      simp only [padded] at hpad ⊢
      rw [hd, List.length_append, List.length_append, List.length_singleton,
        Nat.add_sub_add_right, ← List.append_assoc, hpad]

/-- Digits that do not begin with a zero are those of their value. -/
theorem digits_appendDigits {c : Char} {cs : List Char} (hc : c ≠ '0')
    (h : ∀ d ∈ c :: cs, isDigit d = true) : digits (appendDigits 0 (c :: cs)) = c :: cs := by
  have hpad := padded_appendDigits (List.cons_ne_nil c cs) h
  rw [padded] at hpad
  cases hk : (c :: cs).length - (digits (appendDigits 0 (c :: cs))).length with
  | zero =>
    rw [hk] at hpad
    exact hpad
  | succ k =>
    rw [hk, List.replicate_succ, List.cons_append] at hpad
    exact absurd (List.cons.inj hpad).1.symm hc

/-- The digits of a number begin with a zero only if that is all. -/
theorem digits_cases (n : Nat) :
    (n = 0 ∧ digits n = ['0']) ∨ ∃ c cs, digits n = c :: cs ∧ c ≠ '0' := by
  obtain ⟨c, cs, hd⟩ := List.exists_cons_of_ne_nil (digits_ne_nil n)
  by_cases hc : c = '0'
  · subst hc
    have hall : ∀ d ∈ cs, isDigit d = true := fun d hm =>
      isDigit_of_mem_digits (n := n) (hd ▸ List.mem_cons_of_mem _ hm)
    have hvalue : appendDigits 0 cs = n := by
      rw [← appendDigits_digits n, hd]
      rfl
    cases cs with
    | nil => exact Or.inl ⟨hvalue.symm, hd⟩
    | cons d ds =>
      -- the value of what follows the zero has too few digits
      have hpad := congrArg List.length (padded_appendDigits (List.cons_ne_nil d ds) hall)
      rw [hvalue, padded, hd, List.length_append] at hpad
      simp only [List.length_replicate, List.length_cons] at hpad
      omega
  · exact Or.inr ⟨c, cs, hd, hc⟩

theorem appendDigits_lt {cs : List Char} (h : ∀ c ∈ cs, isDigit c = true) :
    appendDigits 0 cs < 10 ^ cs.length := by
  induction cs using List.reverseRecOn with
  | nil => simp [appendDigits]
  | append_singleton cs c ih =>
    have hlt := ih fun x hx => h x (by simp [hx])
    have hc := digitValue_lt (h c (by simp))
    have hv : appendDigits 0 (cs ++ [c]) = appendDigits 0 cs * 10 + digitValue c := by
      rw [appendDigits_append]
      rfl
    rw [hv, List.length_append, List.length_singleton, Nat.pow_succ]
    omega

theorem isDigit_of_mem_padded {width n : Nat} {c : Char} (h : c ∈ padded width n) :
    isDigit c = true := by
  rcases List.mem_append.mp h with h | h
  · rw [(List.mem_replicate.mp h).2]
    decide
  · exact isDigit_of_mem_digits h

/-- Zeros in front do not change what a numeral says. -/
theorem appendDigits_padded (width n : Nat) : appendDigits 0 (padded width n) = n := by
  have hz : ∀ k : Nat, appendDigits 0 (List.replicate k '0') = 0 := by
    intro k
    induction k with
    | zero => rfl
    | succ k ih => simpa [List.replicate_succ, appendDigits, digitValue] using ih
  rw [padded, appendDigits_append, hz, appendDigits_digits]

end TaggedLibrary.Numeral

namespace TaggedLibrary.TrackFile

/-- The digits of a track's number end at the first space of its file name. -/
theorem name_toList (number : UInt32) (title : String) :
    (name number title).toList =
      Numeral.padded 2 number.toNat ++ ' ' :: (title.toList ++ ['.', 'm', 'p', '3']) := by
  simp [name, twoDigits]

/-- What a file name says: the number before its first space, and what lies between that space and
the extension at the end. -/
def read? (fileName : String) : Option (UInt32 × String) :=
  let cs := fileName.toList
  match Numeral.nat? (cs.takeWhile (· ≠ ' ')),
      ((cs.dropWhile (· ≠ ' ')).drop 1).dropSuffix? ['.', 'm', 'p', '3'] with
  | some number, some title => some (UInt32.ofNat number, String.ofList title)
  | _, _ => none

/-- Spaces and extensions in a title are not taken for those of the name. -/
theorem read?_name (number : UInt32) (title : String) :
    read? (name number title) = some (number, title) := by
  have hdigits : ∀ c ∈ Numeral.padded 2 number.toNat, Numeral.isDigit c = true :=
    fun c => Numeral.isDigit_of_mem_padded
  have hbefore : ∀ c ∈ Numeral.padded 2 number.toNat, decide (c ≠ ' ') = true := by
    intro c hc
    rw [decide_eq_true_eq]
    rintro rfl
    exact absurd (hdigits _ hc) (by decide)
  have hnumber : Numeral.nat? (Numeral.padded 2 number.toNat) = some number.toNat := by
    have hne : Numeral.padded 2 number.toNat ≠ [] := by
      rw [Numeral.padded]
      exact List.append_ne_nil_of_right_ne_nil _ (Numeral.digits_ne_nil _)
    rw [Numeral.nat?_of_all hne hdigits, Numeral.appendDigits_padded]
  have htitle : (title.toList ++ ['.', 'm', 'p', '3']).dropSuffix? ['.', 'm', 'p', '3'] =
      some title.toList := List.dropSuffix?_eq_some_iff.mpr ⟨_, rfl, beq_self_eq_true _⟩
  simp only [read?, name_toList, List.takeWhile_append_of_pos hbefore,
    List.dropWhile_append_of_pos hbefore]
  simp [hnumber, htitle]

/-- Tracks with one name have the same number and the same title. -/
theorem eq_of_name_eq {m n : UInt32} {s t : String} (h : name m s = name n t) : m = n ∧ s = t := by
  have hread := congrArg read? h
  rw [read?_name, read?_name] at hread
  exact Prod.mk.inj (Option.some.inj hread)

end TaggedLibrary.TrackFile
