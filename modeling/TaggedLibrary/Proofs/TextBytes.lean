import TaggedLibrary.Text.Utf8
/-!
The bytes of a text, character by character. Bytes below 128 stand for themselves only.
-/

namespace TaggedLibrary.Utf8

theorem encode_eq (s : String) : encode s = s.toList.flatMap String.utf8EncodeChar := by
  simp [encode, ← String.utf8Encode_toList, List.utf8Encode]

theorem encode_injective {s t : String} (h : encode s = encode t) : s = t := by
  have hd := congrArg decode? h
  rw [decode?_encode, decode?_encode] at hd
  exact Option.some.inj hd

theorem encode_eq_nil {s : String} (h : encode s = []) : s = "" :=
  encode_injective (h.trans (by decide))

/-- The bytes of a character beyond ASCII are all 128 or more. -/
theorem toNat_of_mem_utf8EncodeChar {c : Char} {b : UInt8} (h : b ∈ String.utf8EncodeChar c)
    (hb : b.toNat < 128) : c.toNat = b.toNat := by
  change c.val.toNat = b.toNat
  have high : ∀ n m : Nat, 128 ≤ m → m < 256 → n < 256 - m → b ≠ UInt8.ofNat (n + m) := by
    intro n m hm hl hn he
    rw [he, UInt8.toNat_ofNat'] at hb
    omega
  simp only [String.utf8EncodeChar] at h
  split at h
  · simp only [List.mem_singleton] at h
    rw [h, UInt8.toNat_ofNat']
    omega
  · exfalso
    split at h
    · simp only [List.mem_cons, List.not_mem_nil, or_false] at h
      rcases h with h | h <;> exact high _ _ (by decide) (by decide) (by omega) h
    · split at h
      · simp only [List.mem_cons, List.not_mem_nil, or_false] at h
        rcases h with h | h | h <;> exact high _ _ (by decide) (by decide) (by omega) h
      · simp only [List.mem_cons, List.not_mem_nil, or_false] at h
        rcases h with h | h | h | h <;> exact high _ _ (by decide) (by decide) (by omega) h

theorem mem_of_mem_encode {s : String} {b : UInt8} (h : b ∈ encode s) (hb : b.toNat < 128) :
    Char.ofNat b.toNat ∈ s.toList := by
  rw [encode_eq] at h
  obtain ⟨c, hc, hm⟩ := List.mem_flatMap.mp h
  rw [← toNat_of_mem_utf8EncodeChar hm hb, Char.ofNat_toNat]
  exact hc

/-- A text of ASCII has one byte for each character. -/
theorem encode_ofList {cs : List Char} (h : ∀ c ∈ cs, c.toNat < 128) :
    encode (String.ofList cs) = cs.map fun c => UInt8.ofNat c.toNat := by
  rw [encode_eq, String.toList_ofList]
  induction cs with
  | nil => rfl
  | cons c cs ih =>
    have hc : c.val.toNat ≤ 127 := Nat.le_of_lt_succ (h c (by simp))
    rw [List.flatMap_cons, ih fun x hx => h x (by simp [hx])]
    simp only [String.utf8EncodeChar, if_pos hc, List.map_cons, List.singleton_append]
    rfl

/-- Bytes below 128 are read as the characters that they stand for. -/
theorem pieces_ascii {cs : List Char} (h : ∀ c ∈ cs, c.toNat < 128) :
    pieces (cs.map fun c => UInt8.ofNat c.toNat) = cs.map .char := by
  induction cs with
  | nil => rw [List.map_nil, pieces, List.map_nil]
  | cons c cs ih =>
    have hc : c.toNat < 128 := h c List.mem_cons_self
    have hbyte : (UInt8.ofNat c.toNat).toNat = c.toNat := by
      rw [UInt8.toNat_ofNat']
      omega
    have hlow : UInt8.ofNat c.toNat < 0x80 := by
      rw [UInt8.lt_iff_toNat_lt, hbyte]
      exact hc
    rw [List.map_cons, pieces, if_pos hlow, hbyte, Char.ofNat_toNat,
      ih fun x hx => h x (List.mem_cons_of_mem _ hx), List.map_cons]

theorem decodeLossy_encode {s : String} (h : ∀ c ∈ s.toList, c.toNat < 128) :
    decodeLossy (encode s) = s := by
  have hbytes := encode_ofList h
  rw [String.ofList_toList] at hbytes
  rw [decodeLossy, hbytes, pieces_ascii h, List.map_map]
  exact (congrArg String.ofList (List.map_id _)).trans String.ofList_toList

theorem encode_append (s t : String) : encode (s ++ t) = encode s ++ encode t := by
  simp [encode_eq]

end TaggedLibrary.Utf8
