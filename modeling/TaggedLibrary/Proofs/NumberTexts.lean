import Mathlib.Data.List.TakeWhile
import TaggedLibrary.Environment
import TaggedLibrary.Proofs.Numerals
/-!
What the value of a variable is taken for, and the text of that. A whole number comes back as it
was written if it was written plainly. Characters that no number and no truth value is written
with make a text stand for itself.
-/

namespace TaggedLibrary

namespace Numeral

/-- Digits that do not begin with a zero, perhaps with a minus, or a lone zero. -/
def IsPlainInt (s : String) : Prop :=
  s = "0" ∨ ∃ sign c cs, s.toList = sign ++ c :: cs ∧ (sign = [] ∨ sign = ['-']) ∧ c ≠ '0' ∧
    ∀ d ∈ c :: cs, isDigit d = true

theorem takeSign_digit {c : Char} {cs : List Char} (h : isDigit c = true) :
    takeSign (c :: cs) = (false, c :: cs) := by
  unfold takeSign
  split
  · rename_i he
    cases he
    cases h
  · rename_i he
    cases he
    cases h
  · rfl

theorem int64?_eq_some {s : String} {n : Int} (h : int64? s = some n) :
    ∃ negative cs m, takeSign s.toList = (negative, cs) ∧ nat? cs = some m ∧
      n = if negative then -(m : Int) else m := by
  rcases hs : takeSign s.toList with ⟨negative, cs⟩
  rw [int64?, hs] at h
  cases hm : nat? cs with
  | none =>
    simp only [hm] at h
    cases h
  | some m =>
    simp only [hm] at h
    by_cases hb : -(2 ^ 63 : Int) ≤ (if negative = true then -(m : Int) else m) ∧
        (if negative = true then -(m : Int) else m) < 2 ^ 63
    · rw [if_pos hb] at h
      exact ⟨negative, cs, m, rfl, hm, (Option.some.inj h).symm⟩
    · rw [if_neg hb] at h
      cases h

theorem toList_intText (n : Int) : (intText n).toList =
    (if n < 0 then ['-'] else []) ++ digits n.natAbs := by
  rw [intText]
  split
  · simp only [String.toList_append, text, String.toList_ofList]
    rfl
  · rw [text, String.toList_ofList, List.nil_append]

/-- A whole number that was read from a text has this text if it is written plainly. -/
theorem intText_eq_iff {s : String} {n : Int} (h : int64? s = some n) :
    intText n = s ↔ IsPlainInt s := by
  constructor
  · rintro rfl
    rw [IsPlainInt, toList_intText]
    rcases digits_cases n.natAbs with ⟨hzero, _⟩ | ⟨c, cs, hd, hc⟩
    · rw [Int.natAbs_eq_zero.mp hzero]
      exact Or.inl rfl
    · refine Or.inr ⟨_, c, cs, by rw [hd], ?_, hc, fun d hm => isDigit_of_mem_digits (hd ▸ hm)⟩
      by_cases hneg : n < 0
      · exact Or.inr (if_pos hneg)
      · exact Or.inl (if_neg hneg)
  · intro hplain
    obtain ⟨negative, ds, m, hsign, hm, rfl⟩ := int64?_eq_some h
    rcases hplain with rfl | ⟨sign, c, cs, hs, hsigns, hc, hall⟩
    · cases hsign
      cases hm
      decide
    · have hdigits := digits_appendDigits hc hall
      have hnat := nat?_of_all (List.cons_ne_nil c cs) hall
      apply String.toList_injective
      rw [toList_intText, hs]
      rcases hsigns with rfl | rfl
      · rw [hs, List.nil_append, takeSign_digit (hall c List.mem_cons_self)] at hsign
        cases hsign
        rw [hnat] at hm
        cases hm
        simp [hdigits]
      · rw [hs, List.singleton_append] at hsign
        cases hsign
        rw [hnat] at hm
        cases hm
        have hpos : appendDigits 0 (c :: cs) ≠ 0 := by
          intro hzero
          rw [hzero] at hdigits
          exact hc (List.cons.inj hdigits).1.symm
        have hneg : -(appendDigits 0 (c :: cs) : Int) < 0 := by omega
        simp only [if_true, if_pos hneg, Int.natAbs_neg, Int.natAbs_natCast, hdigits]

/-- Letters and digits of ASCII, signs and points. -/
def isNumberChar (c : Char) : Bool := c.isAlphanum || c == '+' || c == '-' || c == '.'

section Foreign

variable {c : Char}

theorem isNumberChar_of_isDigit (h : isDigit c = true) : isNumberChar c = true := by
  have hd : c.isDigit = true := h
  simp [isNumberChar, Char.isAlphanum, hd]

theorem isNumberChar_intText {n : Int} (h : c ∈ (intText n).toList) : isNumberChar c = true := by
  rw [toList_intText] at h
  rcases List.mem_append.mp h with h | h
  · split at h
    · rw [List.mem_singleton.mp h]
      decide
    · cases h
  · exact isNumberChar_of_isDigit (isDigit_of_mem_digits h)

variable (hc : isNumberChar c = false)
include hc

theorem not_mem_of_nat? {cs : List Char} {n : Nat} (h : nat? cs = some n) : c ∉ cs := by
  intro hm
  unfold nat? at h
  split at h
  · rename_i hall
    rw [Bool.and_eq_true, List.all_eq_true] at hall
    rw [isNumberChar_of_isDigit (hall.2 c hm)] at hc
    cases hc
  · cases h

/-- A sign that is taken off is no other character. -/
theorem mem_takeSign {cs : List Char} (h : c ∈ cs) : c ∈ (takeSign cs).2 := by
  unfold takeSign
  split
  · rcases List.mem_cons.mp h with rfl | h
    · cases hc
    · exact h
  · rcases List.mem_cons.mp h with rfl | h
    · cases hc
    · exact h
  · exact h

theorem int64?_eq_none {s : String} (h : c ∈ s.toList) : int64? s = none := by
  cases hn : int64? s with
  | none => rfl
  | some n =>
    obtain ⟨_, cs, _, hsign, hm, _⟩ := int64?_eq_some hn
    have hmem := mem_takeSign hc h
    rw [hsign] at hmem
    exact absurd hmem (not_mem_of_nat? hc hm)

theorem exponent?_eq_none {cs : List Char} (h : c ∈ cs) : exponent? cs = none := by
  cases cs with
  | nil => cases h
  | cons x rest =>
    rw [exponent?]
    by_cases hx : x = 'e' ∨ x = 'E'
    · rw [if_pos hx]
      have hrest : c ∈ rest := by
        rcases List.mem_cons.mp h with rfl | h
        · rcases hx with rfl | rfl <;> cases hc
        · exact h
      have hmem := mem_takeSign hc hrest
      cases hn : nat? (takeSign rest).2 with
      | none =>
        simp only [hn]
        rfl
      | some n => exact absurd hmem (not_mem_of_nat? hc hn)
    · rw [if_neg hx]

theorem mem_dropWhile_isDigit {cs : List Char} (h : c ∈ cs) : c ∈ cs.dropWhile isDigit := by
  rw [← List.takeWhile_append_dropWhile (p := isDigit) (l := cs)] at h
  rcases List.mem_append.mp h with h | h
  · have hd := List.mem_takeWhile_imp h
    rw [isNumberChar_of_isDigit hd] at hc
    cases hc
  · exact h

theorem unsigned64?_eq_none {cs : List Char} (negative : Bool) (h : c ∈ cs) :
    unsigned64? negative cs = none := by
  have hrest := mem_dropWhile_isDigit hc h
  unfold unsigned64?
  cases hcs : cs.dropWhile isDigit with
  | nil =>
    rw [hcs] at hrest
    cases hrest
  | cons x rest =>
    rw [hcs] at hrest
    by_cases hx : x = '.'
    · subst hx
      have hmem : c ∈ rest := by
        rcases List.mem_cons.mp hrest with rfl | hmem
        · cases hc
        · exact hmem
      simp only [exponent?_eq_none hc (mem_dropWhile_isDigit hc hmem)]
      split <;> rfl
    · dsimp only
      split
      · rename_i he
        exact absurd (List.cons.inj he).1 hx
      · simp only [exponent?_eq_none hc hrest]
        split <;> rfl

theorem toLower_eq : c.toLower = c := by
  have hupper : ¬ (c.val ≥ 'A'.val ∧ c.val ≤ 'Z'.val) := by
    intro h
    have hup : c.isUpper = true := decide_eq_true h
    have hletter : isNumberChar c = (c.isUpper || c.isLower || c.isDigit || c == '+' || c == '-' ||
      c == '.') := rfl
    rw [hletter, hup] at hc
    cases hc
  exact dif_neg hupper

theorem binary64?_eq_none {s : String} (h : c ∈ s.toList) : binary64? s = none := by
  have hmem := mem_takeSign hc h
  have hname : ∀ word : String, word.toList.all isNumberChar = true →
      String.ofList ((takeSign s.toList).2.map Char.toLower) ≠ word := by
    rintro word hword rfl
    have hlower := List.mem_map_of_mem (f := Char.toLower) hmem
    rw [toLower_eq hc] at hlower
    rw [List.all_eq_true.mp hword c (by rwa [String.toList_ofList])] at hc
    cases hc
  rw [binary64?]
  simp only [hname "inf" (by decide), hname "infinity" (by decide), hname "nan" (by decide),
    or_self, if_false, unsigned64?_eq_none hc _ hmem]

end Foreign

end Numeral

namespace Binary64

theorem isNumberChar_positional {digits : Nat} {exponent : Int} {c : Char}
    (h : c ∈ (positional digits exponent).toList) : Numeral.isNumberChar c = true := by
  have hdigit : ∀ d ∈ Nat.toDigits 10 digits, Numeral.isNumberChar d = true := fun d hd =>
    Numeral.isNumberChar_of_isDigit (Numeral.isDigit_of_mem_digits hd)
  have hzero : ∀ (k : Nat) d, d ∈ List.replicate k '0' → Numeral.isNumberChar d = true := by
    intro k d hd
    rw [(List.mem_replicate.mp hd).2]
    decide
  rw [positional] at h
  split at h
  · rw [String.toList_ofList] at h
    rcases List.mem_append.mp h with h | h
    · exact hdigit c h
    · exact hzero _ c h
  · simp only [String.toList_ofList] at h
    have hpadded : ∀ d, d ∈ List.replicate ((-exponent).toNat + 1 -
        (Nat.toDigits 10 digits).length) '0' ++ Nat.toDigits 10 digits →
        Numeral.isNumberChar d = true := fun d hd =>
      (List.mem_append.mp hd).elim (hzero _ d) (hdigit d)
    split at h
    · exact hpadded c (List.mem_of_mem_take h)
    · rcases List.mem_append.mp h with h | h
      · exact hpadded c (List.mem_of_mem_take h)
      · rcases List.mem_cons.mp h with rfl | h
        · decide
        · have hrev := List.mem_reverse.mp h
          have hdrop := List.mem_reverse.mp ((List.dropWhile_sublist _).mem hrev)
          exact hpadded c (List.mem_of_mem_drop hdrop)

/-- The text of a number is written with digits, points, signs and letters. -/
theorem isNumberChar_toText {x : Binary64} {c : Char} (h : c ∈ x.toText.toList) :
    Numeral.isNumberChar c = true := by
  have hword : ∀ word : String, word.toList.all Numeral.isNumberChar = true →
      ∀ d ∈ word.toList, Numeral.isNumberChar d = true := fun _ => List.all_eq_true.mp
  cases x with
  | nan => exact hword "NaN" (by decide) c h
  | infinite negative =>
    cases negative with
    | true => exact hword "-inf" (by decide) c h
    | false => exact hword "inf" (by decide) c h
  | finite negative mantissa exponent =>
    have hdigits : ∀ d, d ∈ (if mantissa = 0 then "0" else
        positional (shortestDigits mantissa exponent).1
          (shortestDigits mantissa exponent).2).toList → Numeral.isNumberChar d = true := by
      intro d hd
      split at hd
      · exact hword "0" (by decide) d hd
      · exact isNumberChar_positional hd
    cases negative with
    | true =>
      have htext : toText (.finite true mantissa exponent) = "-" ++ (if mantissa = 0 then "0" else
        positional (shortestDigits mantissa exponent).1 (shortestDigits mantissa exponent).2) := rfl
      rw [htext, String.toList_append] at h
      exact (List.mem_append.mp h).elim (hword "-" (by decide) c) (hdigits c)
    | false => exact hdigits c h

end Binary64

namespace LowerCase

/-- What is no letter stays as it is. -/
theorem mem_lowerAfter {c : Char} (hascii : c.toNat < 128) (hsmall : c.toLower = c)
    {before cs : List Char} (h : c ∈ cs) : c ∈ lowerAfter before cs := by
  induction cs generalizing before with
  | nil => cases h
  | cons x rest ih =>
    rw [lowerAfter]
    rcases List.mem_cons.mp h with rfl | h
    · apply List.mem_append_left
      have hsigma : c ≠ 'Σ' := by
        rintro rfl
        exact absurd hascii (by decide)
      have hdotted : c ≠ 'İ' := by
        rintro rfl
        exact absurd hascii (by decide)
      simp only [if_neg hsigma, if_neg hdotted, small, hsmall]
      rw [if_pos hascii]
      exact List.mem_singleton_self c
    · exact List.mem_append_right _ (ih h)

theorem mem_lower {c : Char} (hascii : c.toNat < 128) (hsmall : c.toLower = c) {s : String}
    (h : c ∈ s.toList) : c ∈ (lower s).toList := by
  rw [lower, String.toList_ofList]
  exact mem_lowerAfter hascii hsmall h

end LowerCase

namespace Environment

/-- What a value is taken for is told by how it reads. -/
theorem scalarOf_cases (s : String) :
    (LowerCase.lower s = "true" ∧ scalarOf s = .bool true) ∨
      (LowerCase.lower s = "false" ∧ scalarOf s = .bool false) ∨
      (∃ n, Numeral.int64? s = some n ∧ scalarOf s = .int n) ∨
      (∃ x, Numeral.binary64? s = some x ∧ scalarOf s = .float x) ∨ scalarOf s = .text s := by
  simp only [scalarOf]
  by_cases htrue : LowerCase.lower s = "true"
  · exact Or.inl ⟨htrue, if_pos htrue⟩
  rw [if_neg htrue]
  by_cases hfalse : LowerCase.lower s = "false"
  · exact Or.inr (Or.inl ⟨hfalse, if_pos hfalse⟩)
  rw [if_neg hfalse]
  cases hint : Numeral.int64? s with
  | some n => exact Or.inr (Or.inr (Or.inl ⟨n, rfl, rfl⟩))
  | none =>
    cases hfloat : Numeral.binary64? s with
    | some x => exact Or.inr (Or.inr (Or.inr (Or.inl ⟨x, rfl, rfl⟩)))
    | none => exact Or.inr (Or.inr (Or.inr (Or.inr rfl)))

/-- A text with a slash, a space or the like is taken for nothing but itself. -/
theorem scalarOf_of_mem {c : Char} (hascii : c.toNat < 128) (hc : Numeral.isNumberChar c = false)
    {s : String} (h : c ∈ s.toList) : scalarOf s = .text s := by
  have hword : ∀ word : String, word.toList.all Numeral.isNumberChar = true →
      LowerCase.lower s ≠ word := by
    rintro word hword rfl
    rw [List.all_eq_true.mp hword c (LowerCase.mem_lower hascii (Numeral.toLower_eq hc) h)] at hc
    cases hc
  simp only [scalarOf, if_neg (hword "true" (by decide)), if_neg (hword "false" (by decide)),
    Numeral.int64?_eq_none hc h, Numeral.binary64?_eq_none hc h]

end Environment

end TaggedLibrary
