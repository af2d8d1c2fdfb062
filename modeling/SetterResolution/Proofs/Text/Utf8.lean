import SetterResolution.Text.Utf8

/-!
# Texts survive as UTF-8

What the bytes of a text decode to is the text. A character has one to four bytes; the first of them
tells how many follow and bounds the next one. The bounds are there to refuse overlong forms,
surrogates and code points beyond the last one, and the first byte of a character never refuses the
bytes that come with it (`SetterResolution.Text.Utf8.lead?_three`,
`SetterResolution.Text.Utf8.lead?_four`).

On the other hand the bounds leave no second form of a character
(`SetterResolution.Text.Utf8.lead?_eq_some`), so that bytes which decode to a text are the bytes of
that text.

The main statements are `SetterResolution.Text.Utf8.decode_encode` and
`SetterResolution.Text.Utf8.encode_of_decode`.
-/

namespace SetterResolution.Text.Utf8

/-! ### One character -/

theorem toNat_ofNat {n : Nat} (h : n < 0x100) : (UInt8.ofNat n).toNat = n := by
  rw [UInt8.toNat_ofNat', Nat.mod_eq_of_lt h]

theorem toNat_tail (n : Nat) : (tail n).toNat = 0x80 + n % 0x40 :=
  toNat_ofNat (by omega)

/-- A continuation byte within the bounds is read, and adds its six bits. -/
theorem readTails_bounded {taken more low high bits n : Nat} {rest : List UInt8}
    (hlow : low ≤ 0x80 + n % 0x40) (hhigh : 0x80 + n % 0x40 ≤ high) :
    readTails taken (more + 1) low high bits (tail n :: rest) =
      readTails (taken + 1) more 0x80 0xBF (bits * 0x40 + n % 0x40) rest := by
  rw [readTails, toNat_tail, if_pos ⟨hlow, hhigh⟩, Nat.add_sub_cancel_left]

/-- Every continuation byte is within the usual bounds. -/
theorem readTails_tail {taken more bits n : Nat} {rest : List UInt8} :
    readTails taken (more + 1) 0x80 0xBF bits (tail n :: rest) =
      readTails (taken + 1) more 0x80 0xBF (bits * 0x40 + n % 0x40) rest :=
  readTails_bounded (by omega) (by omega)

theorem lead?_two {n : Nat} (hlow : 0x80 ≤ n) (hhigh : n < 0x800) :
    lead? (0xC0 + n / 0x40) = some ⟨1, 0x80, 0xBF, n / 0x40⟩ := by
  rw [lead?, if_neg (by omega), if_neg (by omega), if_pos (by omega), Nat.add_sub_cancel_left]

/-- The first of three bytes admits the second, as the character is no surrogate. -/
theorem lead?_three {n : Nat} (hlow : 0x800 ≤ n) (hhigh : n < 0x10000)
    (hsound : n < 0xD800 ∨ 0xDFFF < n) :
    ∃ low high, lead? (0xE0 + n / 0x1000) = some ⟨2, low, high, n / 0x1000⟩ ∧
      low ≤ 0x80 + n / 0x40 % 0x40 ∧ 0x80 + n / 0x40 % 0x40 ≤ high := by
  rw [lead?, if_neg (by omega), if_neg (by omega), if_neg (by omega)]
  by_cases hfirst : n / 0x1000 = 0
  · exact ⟨0xA0, 0xBF, by rw [hfirst]; rfl, by omega, by omega⟩
  · rw [if_neg (by omega)]
    by_cases hlast : n / 0x1000 = 0xD
    · exact ⟨0x80, 0x9F, by rw [hlast]; rfl, by omega, by omega⟩
    · rw [if_neg (by omega), if_pos (by omega), Nat.add_sub_cancel_left]
      exact ⟨0x80, 0xBF, rfl, by omega, by omega⟩

/-- The first of four bytes admits the second, as no code point is beyond the last one. -/
theorem lead?_four {n : Nat} (hlow : 0x10000 ≤ n) (hhigh : n < 0x110000) :
    ∃ low high, lead? (0xF0 + n / 0x40000) = some ⟨3, low, high, n / 0x40000⟩ ∧
      low ≤ 0x80 + n / 0x1000 % 0x40 ∧ 0x80 + n / 0x1000 % 0x40 ≤ high := by
  rw [lead?, if_neg (by omega), if_neg (by omega), if_neg (by omega), if_neg (by omega),
    if_neg (by omega), if_neg (by omega)]
  by_cases hfirst : n / 0x40000 = 0
  · exact ⟨0x90, 0xBF, by rw [hfirst]; rfl, by omega, by omega⟩
  · rw [if_neg (by omega)]
    by_cases hlast : n / 0x40000 = 4
    · exact ⟨0x80, 0x8F, by rw [hlast]; rfl, by omega, by omega⟩
    · rw [if_pos (by omega), Nat.add_sub_cancel_left]
      exact ⟨0x80, 0xBF, rfl, by omega, by omega⟩

/-- The code point of a character is that of no surrogate, and not beyond the last one. -/
theorem toNat_sound (c : Char) : c.toNat < 0xD800 ∨ 0xDFFF < c.toNat ∧ c.toNat < 0x110000 :=
  c.valid

/-- **The bytes of a character are read as that character**, whatever follows them. -/
theorem readChar_encodeChar (c : Char) (rest : List UInt8) :
    ∃ first tails, encodeChar c = first :: tails ∧
      readChar first (tails ++ rest) = .ok (c, rest) := by
  have hsound := toNat_sound c
  have hok {n : Nat} (h : n = c.toNat) :
      (Except.ok (Char.ofNat n, rest) : Except Fault (Char × List UInt8)) = .ok (c, rest) := by
    rw [h, Char.ofNat_toNat]
  rw [encodeChar]
  by_cases hone : c.toNat < 0x80
  · refine ⟨_, [], if_pos hone, ?_⟩
    rw [readChar, toNat_ofNat (by omega), lead?, if_pos hone]
    exact hok rfl
  by_cases htwo : c.toNat < 0x800
  · refine ⟨_, [_], by rw [if_neg hone, if_pos htwo], ?_⟩
    rw [readChar, toNat_ofNat (by omega), lead?_two (by omega) htwo]
    dsimp only [List.cons_append, List.nil_append]
    rw [readTails_tail, readTails]
    exact hok (by omega)
  by_cases hthree : c.toNat < 0x10000
  · obtain ⟨low, high, hlead, hlow, hhigh⟩ :=
      lead?_three (n := c.toNat) (by omega) hthree (by omega)
    refine ⟨_, [_, _], by rw [if_neg hone, if_neg htwo, if_pos hthree], ?_⟩
    rw [readChar, toNat_ofNat (by omega), hlead]
    dsimp only [List.cons_append, List.nil_append]
    rw [readTails_bounded hlow hhigh, readTails_tail, readTails]
    exact hok (by omega)
  · obtain ⟨low, high, hlead, hlow, hhigh⟩ := lead?_four (n := c.toNat) (by omega) (by omega)
    refine ⟨_, [_, _, _], by rw [if_neg hone, if_neg htwo, if_neg hthree], ?_⟩
    rw [readChar, toNat_ofNat (by omega), hlead]
    dsimp only [List.cons_append, List.nil_append]
    rw [readTails_bounded hlow hhigh, readTails_tail, readTails_tail, readTails]
    exact hok (by omega)

/-! ### Texts -/

theorem decodeFrom_flatMap_encodeChar (index : Nat) (chars : List Char) :
    decodeFrom index (chars.flatMap encodeChar) = .ok chars := by
  induction chars generalizing index with
  | nil => rw [List.flatMap_nil, decodeFrom]
  | cons c chars ih =>
    obtain ⟨first, tails, hencode, hread⟩ := readChar_encodeChar c (chars.flatMap encodeChar)
    rw [List.flatMap_cons, hencode, List.cons_append, decodeFrom]
    split
    · next found rest heq =>
      rw [hread] at heq
      cases heq
      rw [ih]
    · next fault heq =>
      rw [hread] at heq
      cases heq

/-- **Every text is what its bytes decode to**, character for character. -/
theorem decode_encode (text : String) : decode (encode text) = .ok text := by
  rw [decode, encode, decodeFrom_flatMap_encodeChar]
  exact congrArg Except.ok String.ofList_toList

/-! ### What is decoded to a text -/

/-- **What a first byte says**, by the number of bytes that follow it. The bounds of the next byte
are narrower after the bytes that would allow overlong forms, surrogates or code points beyond the
last one. -/
theorem lead?_eq_some {n : Nat} {lead : Lead} (h : lead? n = some lead) :
    (lead.more = 0 ∧ n < 0x80 ∧ lead.bits = n) ∨
    (lead.more = 1 ∧ 0xC2 ≤ n ∧ n < 0xE0 ∧ lead.bits = n - 0xC0 ∧ lead.low = 0x80 ∧
      lead.high = 0xBF) ∨
    (lead.more = 2 ∧ 0xE0 ≤ n ∧ n < 0xF0 ∧ lead.bits = n - 0xE0 ∧ 0x80 ≤ lead.low ∧
      lead.high ≤ 0xBF ∧ (n = 0xE0 → 0xA0 ≤ lead.low) ∧ (n = 0xED → lead.high ≤ 0x9F)) ∨
    (lead.more = 3 ∧ 0xF0 ≤ n ∧ n < 0xF5 ∧ lead.bits = n - 0xF0 ∧ 0x80 ≤ lead.low ∧
      lead.high ≤ 0xBF ∧ (n = 0xF0 → 0x90 ≤ lead.low) ∧ (n = 0xF4 → lead.high ≤ 0x8F)) := by
  rw [lead?] at h
  grind

/-- A continuation byte that is read is there, is within the bounds, and adds its six bits. -/
theorem readTails_eq_ok {taken more low high bits n : Nat} {bytes rest : List UInt8}
    (h : readTails taken (more + 1) low high bits bytes = .ok (n, rest)) :
    ∃ b tails, bytes = b :: tails ∧ low ≤ b.toNat ∧ b.toNat ≤ high ∧
      readTails (taken + 1) more 0x80 0xBF (bits * 0x40 + (b.toNat - 0x80)) tails =
        .ok (n, rest) := by
  cases bytes with
  | nil => cases h
  | cons b tails =>
    rw [readTails] at h
    split at h
    next hbounds => exact ⟨b, tails, rfl, hbounds.1, hbounds.2, h⟩
    next => cases h

/-- The bytes of the character with a given code point. -/
theorem encodeChar_ofNat {n : Nat} (h : n < 0xD800 ∨ 0xDFFF < n ∧ n < 0x110000) :
    encodeChar (Char.ofNat n) =
      if n < 0x80 then [UInt8.ofNat n]
      else if n < 0x800 then [UInt8.ofNat (0xC0 + n / 0x40), tail n]
      else if n < 0x10000 then [UInt8.ofNat (0xE0 + n / 0x1000), tail (n / 0x40), tail n]
      else [UInt8.ofNat (0xF0 + n / 0x40000), tail (n / 0x1000), tail (n / 0x40), tail n] := by
  have hn : (Char.ofNat n).toNat = n := by
    rw [Char.ofNat, dif_pos h]
    rfl
  rw [encodeChar, hn]

theorem ofNat_eq {n : Nat} {b : UInt8} (h : n = b.toNat) : UInt8.ofNat n = b := by
  rw [h, UInt8.ofNat_toNat]

/-- Whether a byte can follow a first byte, whatever that is. -/
def IsTail (b : UInt8) : Prop :=
  0x80 ≤ b.toNat ∧ b.toNat ≤ 0xBF

/-- The bits that were there before a continuation byte was read. -/
theorem IsTail.shift_div {b : UInt8} (h : IsTail b) (bits : Nat) :
    (bits * 0x40 + (b.toNat - 0x80)) / 0x40 = bits := by
  have hlow := h.1
  have hhigh := h.2
  omega

/-- The continuation byte that was read last. -/
theorem IsTail.tail_shift {b : UInt8} (h : IsTail b) (bits : Nat) :
    tail (bits * 0x40 + (b.toNat - 0x80)) = b := by
  have hlow := h.1
  have hhigh := h.2
  exact ofNat_eq (by omega)

section Bytes

variable {first b b' b'' : UInt8}

theorem encodeChar_two (hlow : 0xC2 ≤ first.toNat) (hhigh : first.toNat < 0xE0) (h : IsTail b) :
    encodeChar (Char.ofNat ((first.toNat - 0xC0) * 0x40 + (b.toNat - 0x80))) = [first, b] := by
  have hb : 0x80 ≤ b.toNat ∧ b.toNat ≤ 0xBF := h
  rw [encodeChar_ofNat (by omega), if_neg (by omega), if_pos (by omega), h.shift_div, h.tail_shift,
    ofNat_eq (b := first) (by omega)]

/-- The first two of three bytes make no overlong form, and no surrogate. -/
theorem encodeChar_three (hlow : 0xE0 ≤ first.toNat) (hhigh : first.toNat < 0xF0)
    (h : IsTail b) (h' : IsTail b') (hlong : first.toNat = 0xE0 → 0xA0 ≤ b.toNat)
    (hsound : first.toNat = 0xED → b.toNat ≤ 0x9F) :
    encodeChar (Char.ofNat (((first.toNat - 0xE0) * 0x40 + (b.toNat - 0x80)) * 0x40 +
      (b'.toNat - 0x80))) = [first, b, b'] := by
  have hb : 0x80 ≤ b.toNat ∧ b.toNat ≤ 0xBF := h
  have hb' : 0x80 ≤ b'.toNat ∧ b'.toNat ≤ 0xBF := h'
  rw [encodeChar_ofNat (by omega), if_neg (by omega), if_neg (by omega), if_pos (by omega),
    show 0x1000 = 0x40 * 0x40 from rfl, ← Nat.div_div_eq_div_mul, h'.shift_div, h.shift_div,
    h.tail_shift, h'.tail_shift, ofNat_eq (b := first) (by omega)]

/-- The first two of four bytes make no overlong form, and no code point beyond the last one. -/
theorem encodeChar_four (hlow : 0xF0 ≤ first.toNat) (hhigh : first.toNat < 0xF5)
    (h : IsTail b) (h' : IsTail b') (h'' : IsTail b'') (hlong : first.toNat = 0xF0 → 0x90 ≤ b.toNat)
    (hsound : first.toNat = 0xF4 → b.toNat ≤ 0x8F) :
    encodeChar (Char.ofNat ((((first.toNat - 0xF0) * 0x40 + (b.toNat - 0x80)) * 0x40 +
      (b'.toNat - 0x80)) * 0x40 + (b''.toNat - 0x80))) = [first, b, b', b''] := by
  have hb : 0x80 ≤ b.toNat ∧ b.toNat ≤ 0xBF := h
  have hb' : 0x80 ≤ b'.toNat ∧ b'.toNat ≤ 0xBF := h'
  have hb'' : 0x80 ≤ b''.toNat ∧ b''.toNat ≤ 0xBF := h''
  rw [encodeChar_ofNat (by omega), if_neg (by omega), if_neg (by omega), if_neg (by omega),
    show 0x40000 = 0x40 * (0x40 * 0x40) from rfl, show 0x1000 = 0x40 * 0x40 from rfl,
    ← Nat.div_div_eq_div_mul, ← Nat.div_div_eq_div_mul, ← Nat.div_div_eq_div_mul, h''.shift_div,
    h'.shift_div, h.shift_div, h.tail_shift, h'.tail_shift, h''.tail_shift,
    ofNat_eq (b := first) (by omega)]

end Bytes

/-- **A character that is read has the bytes that it is read from**, as no other bytes stand for
it. -/
theorem encodeChar_of_readChar {first : UInt8} {bytes rest : List UInt8} {c : Char}
    (h : readChar first bytes = .ok (c, rest)) : encodeChar c ++ rest = first :: bytes := by
  rw [readChar] at h
  split at h
  · cases h
  next lead hlead =>
    split at h
    · next n rest' htails =>
      cases h
      have hcases := lead?_eq_some hlead
      obtain ⟨more, low, high, bits⟩ := lead
      dsimp only at htails hcases
      rcases hcases with ⟨rfl, hn, hbits⟩ | ⟨rfl, hmin, hmax, hbits, rfl, rfl⟩ |
        ⟨rfl, hmin, hmax, hbits, hlow, hhigh, hlong, hsound⟩ |
        ⟨rfl, hmin, hmax, hbits, hlow, hhigh, hlong, hsound⟩
      · obtain ⟨rfl, rfl⟩ := Prod.mk.inj (Except.ok.inj htails)
        rw [hbits, encodeChar_ofNat (by omega), if_pos hn, UInt8.ofNat_toNat]
        rfl
      · obtain ⟨b, tails, rfl, hb, hb', htails⟩ := readTails_eq_ok htails
        obtain ⟨rfl, rfl⟩ := Prod.mk.inj (Except.ok.inj htails)
        rw [hbits, encodeChar_two hmin hmax ⟨hb, hb'⟩]
        rfl
      · obtain ⟨b, tails, rfl, hfirst, hfirst', htails⟩ := readTails_eq_ok htails
        obtain ⟨b', tails, rfl, hb, hb', htails⟩ := readTails_eq_ok htails
        obtain ⟨rfl, rfl⟩ := Prod.mk.inj (Except.ok.inj htails)
        have htail : IsTail b := ⟨Nat.le_trans hlow hfirst, Nat.le_trans hfirst' hhigh⟩
        rw [hbits, encodeChar_three hmin hmax htail ⟨hb, hb'⟩
          (fun h => Nat.le_trans (hlong h) hfirst) fun h => Nat.le_trans hfirst' (hsound h)]
        rfl
      · obtain ⟨b, tails, rfl, hfirst, hfirst', htails⟩ := readTails_eq_ok htails
        obtain ⟨b', tails, rfl, hb, hb', htails⟩ := readTails_eq_ok htails
        obtain ⟨b'', tails, rfl, hc, hc', htails⟩ := readTails_eq_ok htails
        obtain ⟨rfl, rfl⟩ := Prod.mk.inj (Except.ok.inj htails)
        have htail : IsTail b := ⟨Nat.le_trans hlow hfirst, Nat.le_trans hfirst' hhigh⟩
        rw [hbits, encodeChar_four hmin hmax htail ⟨hb, hb'⟩ ⟨hc, hc'⟩
          (fun h => Nat.le_trans (hlong h) hfirst) fun h => Nat.le_trans hfirst' (hsound h)]
        rfl
    · cases h

theorem flatMap_encodeChar_of_decodeFrom {index : Nat} {bytes : List UInt8} {chars : List Char}
    (h : decodeFrom index bytes = .ok chars) : chars.flatMap encodeChar = bytes := by
  fun_induction decodeFrom index bytes generalizing chars with
  | case1 =>
    cases h
    rfl
  | case2 index b tail c rest hread chars' hrest ih =>
    cases h
    rw [List.flatMap_cons, ih hrest, encodeChar_of_readChar hread]
  | case3 => cases h
  | case4 => cases h

/-- **Only the bytes of a text are decoded to it.** -/
theorem encode_of_decode {bytes : List UInt8} {text : String} (h : decode bytes = .ok text) :
    encode text = bytes := by
  rw [decode] at h
  cases hchars : decodeFrom 0 bytes with
  | error error =>
    rw [hchars] at h
    cases h
  | ok chars =>
    rw [hchars] at h
    cases h
    rw [encode, String.toList_ofList, flatMap_encodeChar_of_decodeFrom hchars]

end SetterResolution.Text.Utf8
