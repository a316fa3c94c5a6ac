import StreamWatch.Text.Utf8

/-! Decoding what was encoded. The bytes of a character lead the decoder from between characters
back to there, and on this way it gives that character and nothing else. They are the bytes in which
a string holds the character. -/
namespace StreamWatch.Text.Utf8

theorem toNat_lt_of_valid (c : Char) :
    c.toNat < 0x110000 ∧ ¬ (0xD800 ≤ c.toNat ∧ c.toNat < 0xE000) := by
  have h : c.toNat < 0xD800 ∨ 0xDFFF < c.toNat ∧ c.toNat < 0x110000 := c.valid
  omega

theorem toNat_byte {n : Nat} (h : n < 256) : (UInt8.ofNat n).toNat = n :=
  UInt8.toNat_ofNat_of_lt' h

theorem decodeFrom_opening {b : Nat} (hb : b < 256) {given : List Char} {q : State}
    (h : opening b = (given, q)) (r : List UInt8) :
    decodeFrom .start (.ofNat b :: r) = given ++ decodeFrom q r := by
  rw [decodeFrom, next, toNat_byte hb, h]

theorem decodeFrom_inside {owed low high bits b : Nat} (hb : b < 256) (hl : low ≤ b)
    (hh : b ≤ high) (r : List UInt8) :
    decodeFrom (.inside (owed + 1) low high bits) (.ofNat b :: r) =
      decodeFrom (.inside owed 0x80 0xBF (bits * 64 + (b - 0x80))) r := by
  rw [decodeFrom, next, toNat_byte hb, if_pos ⟨hl, hh⟩]
  rfl

theorem decodeFrom_last {low high bits b : Nat} (hb : b < 256) (hl : low ≤ b)
    (hh : b ≤ high) (r : List UInt8) :
    decodeFrom (.inside 0 low high bits) (.ofNat b :: r) =
      Char.ofNat (bits * 64 + (b - 0x80)) :: decodeFrom .start r := by
  rw [decodeFrom, next, toNat_byte hb, if_pos ⟨hl, hh⟩]
  rfl

theorem opening_three {n : Nat} (hl : 0x800 ≤ n) (hh : n < 0x10000)
    (hs : ¬ (0xD800 ≤ n ∧ n < 0xE000)) :
    ∃ low high, opening (0xE0 + n / 4096) = ([], .inside 1 low high (n / 4096)) ∧
      low ≤ 0x80 + n / 64 % 64 ∧ 0x80 + n / 64 % 64 ≤ high := by
  unfold opening
  rw [if_neg (by omega), if_neg (by omega)]
  by_cases h0 : n / 4096 = 0
  · rw [h0, if_pos rfl]
    exact ⟨_, _, rfl, by omega, by omega⟩
  · rw [if_neg (by omega)]
    by_cases hd : n / 4096 = 0xD
    · rw [hd, if_pos rfl]
      exact ⟨_, _, rfl, by omega, by omega⟩
    · rw [if_neg (by omega), if_pos (by omega), Nat.add_sub_cancel_left]
      exact ⟨_, _, rfl, by omega, by omega⟩

theorem opening_four {n : Nat} (hl : 0x10000 ≤ n) (hh : n < 0x110000) :
    ∃ low high, opening (0xF0 + n / 262144) = ([], .inside 2 low high (n / 262144)) ∧
      low ≤ 0x80 + n / 4096 % 64 ∧ 0x80 + n / 4096 % 64 ≤ high := by
  unfold opening
  rw [if_neg (by omega), if_neg (by omega), if_neg (by omega), if_neg (by omega),
    if_neg (by omega)]
  by_cases h0 : n / 262144 = 0
  · rw [h0, if_pos rfl]
    exact ⟨_, _, rfl, by omega, by omega⟩
  · rw [if_neg (by omega)]
    by_cases h4 : n / 262144 = 4
    · rw [h4, if_neg (by omega), if_pos rfl]
      exact ⟨_, _, rfl, by omega, by omega⟩
    · rw [if_pos (by omega), Nat.add_sub_cancel_left]
      exact ⟨_, _, rfl, by omega, by omega⟩

theorem decodeFrom_encodeChar (c : Char) (r : List UInt8) :
    decodeFrom .start (encodeChar c ++ r) = c :: decodeFrom .start r := by
  obtain ⟨hmax, hsurrogate⟩ := toNat_lt_of_valid c
  -- In each case the bits that were split off come together to the number of the character.
  have whole {m : Nat} (hm : m = c.toNat) : Char.ofNat m = c := by rw [hm, Char.ofNat_toNat]
  unfold encodeChar
  dsimp only
  by_cases h1 : c.toNat < 0x80
  · have ho : opening c.toNat = ([c], .start) := by rw [opening, if_pos h1, Char.ofNat_toNat]
    rw [if_pos h1]
    exact decodeFrom_opening (by omega) ho r
  rw [if_neg h1]
  by_cases h2 : c.toNat < 0x800
  · have ho : opening (0xC0 + c.toNat / 64) = ([], .inside 0 0x80 0xBF (c.toNat / 64)) := by
      rw [opening, if_neg (by omega), if_pos (by omega), Nat.add_sub_cancel_left]
    rw [if_pos h2, List.cons_append, decodeFrom_opening (by omega) ho, List.nil_append,
      List.cons_append, decodeFrom_last (by omega) (by omega) (by omega), whole (by omega),
      List.nil_append]
  rw [if_neg h2]
  by_cases h3 : c.toNat < 0x10000
  · obtain ⟨low, high, ho, hlow, hhigh⟩ := opening_three (by omega) h3 hsurrogate
    rw [if_pos h3, List.cons_append, decodeFrom_opening (by omega) ho, List.nil_append,
      List.cons_append, decodeFrom_inside (by omega) hlow hhigh, List.cons_append,
      decodeFrom_last (by omega) (by omega) (by omega), whole (by omega), List.nil_append]
  · obtain ⟨low, high, ho, hlow, hhigh⟩ := opening_four (by omega) hmax
    rw [if_neg h3, List.cons_append, decodeFrom_opening (by omega) ho, List.nil_append,
      List.cons_append, decodeFrom_inside (by omega) hlow hhigh, List.cons_append,
      decodeFrom_inside (by omega) (by omega) (by omega), List.cons_append,
      decodeFrom_last (by omega) (by omega) (by omega), whole (by omega), List.nil_append]

theorem decode_encode (s : List Char) : decode (encode s) = s := by
  unfold decode encode
  induction s with
  | nil => rfl
  | cons c r ih => rw [List.flatMap_cons, decodeFrom_encodeChar, ih]

theorem encodeChar_eq_utf8EncodeChar (c : Char) : encodeChar c = String.utf8EncodeChar c := by
  obtain ⟨hmax, -⟩ := toNat_lt_of_valid c
  have hone : c.toNat ≤ 127 ↔ c.toNat < 0x80 := by omega
  have htwo : c.toNat ≤ 2047 ↔ c.toNat < 0x800 := by omega
  have hthree : c.toNat ≤ 65535 ↔ c.toNat < 0x10000 := by omega
  have hrest (n : Nat) : n % 64 + 128 = 0x80 + n % 64 := Nat.add_comm ..
  have hn : c.val.toNat = c.toNat := rfl
  simp only [encodeChar, String.utf8EncodeChar, hn, hone, htwo, hthree, hrest]
  split
  · rfl
  split
  · have hfirst : c.toNat / 64 % 32 + 192 = 0xC0 + c.toNat / 64 := by omega
    rw [hfirst]
  split
  · have hfirst : c.toNat / 4096 % 16 + 224 = 0xE0 + c.toNat / 4096 := by omega
    rw [hfirst]
  · have hfirst : c.toNat / 262144 % 8 + 240 = 0xF0 + c.toNat / 262144 := by omega
    rw [hfirst]

theorem toByteArray_encode (s : String) : (encode s.toList).toByteArray = s.toUTF8 := by
  have hchars : encodeChar = String.utf8EncodeChar := funext encodeChar_eq_utf8EncodeChar
  rw [encode, hchars, ← List.utf8Encode, ← String.toByteArray_ofList, String.ofList_toList,
    String.toUTF8_eq_toByteArray]

end StreamWatch.Text.Utf8
