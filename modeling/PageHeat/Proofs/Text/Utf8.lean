import PageHeat.Text.Utf8

/-
  Decoding and encoding are inverse to each other.

  A character takes one to four octets, by the size of its
  code point. For each width there is one lemma that says
  which octets encode the character of a given code point;
  both directions are read off these four.

  Key lemmas include:
    * `Utf8.decode_encodeChar_append`
    * `Utf8.decode_encode`
    * `Utf8.decode_eq_some_iff`
    * `Utf8.decode_append_cons`
-/

------------------------------------------------------------
-- Code Points
------------------------------------------------------------

namespace PageHeat

namespace Utf8

theorem toNat_ofNat
    {n : Nat}
    (hValid : n.isValidChar) :
    (Char.ofNat n).toNat = n := by
  rw [Char.ofNat, dif_pos hValid]
  rfl

theorem isValidChar_of_lt
    {n : Nat}
    (hLt : n < 0xD800) :
    n.isValidChar :=
  Or.inl hLt

theorem isValidChar_toNat (c : Char) : c.toNat.isValidChar :=
  c.valid

theorem ofNat_eq_octet
    {n : Nat}
    {b : UInt8}
    (hEq : n = b.toNat) :
    UInt8.ofNat n = b := by
  subst hEq
  exact UInt8.ofNat_toNat

theorem toNat_octet
    {n : Nat}
    (hLt : n < 256) :
    (UInt8.ofNat n).toNat = n := by
  simpa using Nat.mod_eq_of_lt hLt

------------------------------------------------------------
-- Encoding One Character
------------------------------------------------------------

theorem encodeChar_one
    {c : Char}
    (hLe : c.toNat ≤ 0x7F) :
    String.utf8EncodeChar c = [UInt8.ofNat c.toNat] :=
  if_pos hLe

/- The octets of a code point of two octets. -/
theorem encodeChar_two
    {c : Char}
    (hLow : 0x7F < c.toNat)
    (hLe : c.toNat ≤ 0x7FF) :
    String.utf8EncodeChar c =
      [ UInt8.ofNat (c.toNat / 64 % 0x20 + 0xC0),
        UInt8.ofNat (c.toNat % 0x40 + 0x80) ] := by
  unfold String.utf8EncodeChar
  have hNot : ¬ c.val.toNat ≤ 0x7F := Nat.not_le.mpr hLow
  have hLe : c.val.toNat ≤ 0x7FF := hLe
  simp only [if_neg hNot, if_pos hLe]
  rfl

/- The octets of a code point of three octets. -/
theorem encodeChar_three
    {c : Char}
    (hLow : 0x7FF < c.toNat)
    (hLe : c.toNat ≤ 0xFFFF) :
    String.utf8EncodeChar c =
      [ UInt8.ofNat (c.toNat / 4096 % 0x10 + 0xE0),
        UInt8.ofNat (c.toNat / 64 % 0x40 + 0x80),
        UInt8.ofNat (c.toNat % 0x40 + 0x80) ] := by
  unfold String.utf8EncodeChar
  have hNot₁ : ¬ c.val.toNat ≤ 0x7F := by
    change 0x7FF < c.val.toNat at hLow
    omega
  have hNot₂ : ¬ c.val.toNat ≤ 0x7FF := Nat.not_le.mpr hLow
  have hLe : c.val.toNat ≤ 0xFFFF := hLe
  simp only [if_neg hNot₁, if_neg hNot₂, if_pos hLe]
  rfl

/- The octets of a code point of four octets. -/
theorem encodeChar_four
    {c : Char}
    (hLow : 0xFFFF < c.toNat) :
    String.utf8EncodeChar c =
      [ UInt8.ofNat (c.toNat / 262144 % 0x08 + 0xF0),
        UInt8.ofNat (c.toNat / 4096 % 0x40 + 0x80),
        UInt8.ofNat (c.toNat / 64 % 0x40 + 0x80),
        UInt8.ofNat (c.toNat % 0x40 + 0x80) ] := by
  unfold String.utf8EncodeChar
  change 0xFFFF < c.val.toNat at hLow
  have hNot₁ : ¬ c.val.toNat ≤ 0x7F := by omega
  have hNot₂ : ¬ c.val.toNat ≤ 0x7FF := by omega
  have hNot₃ : ¬ c.val.toNat ≤ 0xFFFF := by omega
  simp only [if_neg hNot₁, if_neg hNot₂, if_neg hNot₃]
  rfl

/- A small octet stands for its own character only. -/
theorem eq_ofNat_of_mem_encodeChar
    {b : UInt8}
    (hSmall : b.toNat < 0x80)
    {c : Char}
    (hMem : b ∈ String.utf8EncodeChar c) :
    c = Char.ofNat b.toNat := by
  have hLarge :
      ∀ n, 0x80 ≤ n → n < 256 → b ≠ UInt8.ofNat n := by
    rintro n hLow hHigh rfl
    rw [toNat_octet hHigh] at hSmall
    omega
  by_cases h₁ : c.toNat ≤ 0x7F
  · rw [encodeChar_one h₁, List.mem_singleton] at hMem
    rw [hMem, toNat_octet (by omega), Char.ofNat_toNat]
  exfalso
  by_cases h₂ : c.toNat ≤ 0x7FF
  · rw [encodeChar_two (by omega) h₂] at hMem
    simp only [List.mem_cons, List.not_mem_nil, or_false]
      at hMem
    rcases hMem with hEq | hEq
    · exact hLarge _ (by omega) (by omega) hEq
    · exact hLarge _ (by omega) (by omega) hEq
  by_cases h₃ : c.toNat ≤ 0xFFFF
  · rw [encodeChar_three (by omega) h₃] at hMem
    simp only [List.mem_cons, List.not_mem_nil, or_false]
      at hMem
    rcases hMem with hEq | hEq | hEq
    · exact hLarge _ (by omega) (by omega) hEq
    · exact hLarge _ (by omega) (by omega) hEq
    · exact hLarge _ (by omega) (by omega) hEq
  · rw [encodeChar_four (by omega)] at hMem
    simp only [List.mem_cons, List.not_mem_nil, or_false]
      at hMem
    rcases hMem with hEq | hEq | hEq | hEq
    · exact hLarge _ (by omega) (by omega) hEq
    · exact hLarge _ (by omega) (by omega) hEq
    · exact hLarge _ (by omega) (by omega) hEq
    · exact hLarge _ (by omega) (by omega) hEq

theorem isContinuation_octet (n : Nat) :
    isContinuation (UInt8.ofNat (n % 0x40 + 0x80)) = true := by
  rw [isContinuation, toNat_octet (by omega)]
  simp only [Bool.and_eq_true, decide_eq_true_eq]
  omega

theorem toNat_bits
    (n k mark : Nat)
    (hPos : 0 < k)
    (hFits : k + mark ≤ 256) :
    (UInt8.ofNat (n % k + mark)).toNat = n % k + mark := by
  have hLt := Nat.mod_lt n hPos
  exact toNat_octet (by omega)

theorem toNat_continuation (n : Nat) :
    (UInt8.ofNat (n % 0x40 + 0x80)).toNat =
      n % 0x40 + 0x80 :=
  toNat_bits n 0x40 0x80 (by decide) (by decide)

------------------------------------------------------------
-- Decoding One Character
------------------------------------------------------------

theorem decode_one
    {a : UInt8}
    (rest : Bytes)
    (hLt : a.toNat < 0x80) :
    decode (a :: rest) =
      (decode rest).map (Char.ofNat a.toNat :: ·) := by
  rw [decode.eq_def]
  simp only [if_pos hLt]

/- Decoding a character of two octets. -/
theorem decode_two
    {a b : UInt8}
    (rest : Bytes)
    (hLow : 0xC2 ≤ a.toNat)
    (hHigh : a.toNat < 0xE0)
    (hB : isContinuation b = true) :
    decode (a :: b :: rest) =
      (decode rest).map (Char.ofNat (join₂ a b) :: ·) := by
  have hNot₁ : ¬ a.toNat < 0x80 := by omega
  have hNot₂ : ¬ a.toNat < 0xC2 := by omega
  rw [decode.eq_def]
  simp only [if_neg hNot₁, if_neg hNot₂, if_pos hHigh, hB,
    if_true]

/- Decoding a character of three octets. -/
theorem decode_three
    {a b c : UInt8}
    (rest : Bytes)
    (hLow : 0xE0 ≤ a.toNat)
    (hHigh : a.toNat < 0xF0)
    (hB : isContinuation b = true)
    (hC : isContinuation c = true)
    (hLong : 0x800 ≤ join₃ a b c)
    (hValid : (join₃ a b c).isValidChar) :
    decode (a :: b :: c :: rest) =
      (decode rest).map (Char.ofNat (join₃ a b c) :: ·) := by
  have hNot₁ : ¬ a.toNat < 0x80 := by omega
  have hNot₂ : ¬ a.toNat < 0xC2 := by omega
  have hNot₃ : ¬ a.toNat < 0xE0 := by omega
  rw [decode.eq_def]
  simp only [if_neg hNot₁, if_neg hNot₂, if_neg hNot₃,
    if_pos hHigh, hB, hC, hLong, hValid, decide_true,
    Bool.and_self, if_true]

/- Decoding a character of four octets. -/
theorem decode_four
    {a b c d : UInt8}
    (rest : Bytes)
    (hLow : 0xF0 ≤ a.toNat)
    (hHigh : a.toNat < 0xF5)
    (hB : isContinuation b = true)
    (hC : isContinuation c = true)
    (hD : isContinuation d = true)
    (hLong : 0x10000 ≤ join₄ a b c d)
    (hValid : (join₄ a b c d).isValidChar) :
    decode (a :: b :: c :: d :: rest) =
      (decode rest).map
        (Char.ofNat (join₄ a b c d) :: ·) := by
  have hNot₁ : ¬ a.toNat < 0x80 := by omega
  have hNot₂ : ¬ a.toNat < 0xC2 := by omega
  have hNot₃ : ¬ a.toNat < 0xE0 := by omega
  have hNot₄ : ¬ a.toNat < 0xF0 := by omega
  rw [decode.eq_def]
  simp only [if_neg hNot₁, if_neg hNot₂, if_neg hNot₃,
    if_neg hNot₄, if_pos hHigh, hB, hC, hD, hLong, hValid,
    decide_true, Bool.and_self, if_true]

------------------------------------------------------------
-- Decoding What Was Encoded
------------------------------------------------------------

theorem join₂_octets
    {n : Nat}
    (hLe : n ≤ 0x7FF) :
    join₂ (UInt8.ofNat (n / 64 % 0x20 + 0xC0))
      (UInt8.ofNat (n % 0x40 + 0x80)) = n := by
  rw [join₂, toNat_octet (by omega), toNat_continuation]
  omega

theorem join₃_octets
    {n : Nat}
    (hLe : n ≤ 0xFFFF) :
    join₃ (UInt8.ofNat (n / 4096 % 0x10 + 0xE0))
      (UInt8.ofNat (n / 64 % 0x40 + 0x80))
      (UInt8.ofNat (n % 0x40 + 0x80)) = n := by
  rw [join₃, toNat_octet (by omega), toNat_continuation,
    toNat_continuation]
  omega

theorem join₄_octets
    {n : Nat}
    (hLt : n < 0x110000) :
    join₄ (UInt8.ofNat (n / 262144 % 0x08 + 0xF0))
      (UInt8.ofNat (n / 4096 % 0x40 + 0x80))
      (UInt8.ofNat (n / 64 % 0x40 + 0x80))
      (UInt8.ofNat (n % 0x40 + 0x80)) = n := by
  rw [join₄, toNat_octet (by omega), toNat_continuation,
    toNat_continuation, toNat_continuation]
  omega

/- Decoding takes the octets of a character back to it. -/
theorem decode_encodeChar_append
    (c : Char)
    (rest : Bytes) :
    decode (String.utf8EncodeChar c ++ rest) =
      (decode rest).map (c :: ·) := by
  have hValid := isValidChar_toNat c
  by_cases h₁ : c.toNat ≤ 0x7F
  · have hByte : (UInt8.ofNat c.toNat).toNat = c.toNat :=
      toNat_octet (by omega)
    rw [encodeChar_one h₁, List.singleton_append,
      decode_one rest (by omega), hByte, Char.ofNat_toNat]
  by_cases h₂ : c.toNat ≤ 0x7FF
  · have hLead := toNat_bits (c.toNat / 64) 0x20 0xC0
      (by decide) (by decide)
    rw [encodeChar_two (by omega) h₂]
    simp only [List.cons_append, List.nil_append]
    rw [decode_two rest (by omega) (by omega)
        (isContinuation_octet _),
      join₂_octets h₂, Char.ofNat_toNat]
  by_cases h₃ : c.toNat ≤ 0xFFFF
  · have hLead := toNat_bits (c.toNat / 4096) 0x10 0xE0
      (by decide) (by decide)
    have hJoin := join₃_octets h₃
    rw [encodeChar_three (by omega) h₃]
    simp only [List.cons_append, List.nil_append]
    rw [decode_three rest (by omega) (by omega)
        (isContinuation_octet _) (isContinuation_octet _)
        (by omega) (by rwa [hJoin]),
      hJoin, Char.ofNat_toNat]
  · have hBound : c.toNat < 0x110000 := by
      unfold Nat.isValidChar at hValid
      omega
    have hLead := toNat_bits (c.toNat / 262144) 0x08 0xF0
      (by decide) (by decide)
    have hJoin := join₄_octets hBound
    rw [encodeChar_four (by omega)]
    simp only [List.cons_append, List.nil_append]
    rw [decode_four rest (by omega) (by omega)
        (isContinuation_octet _) (isContinuation_octet _)
        (isContinuation_octet _) (by omega) (by rwa [hJoin]),
      hJoin, Char.ofNat_toNat]

theorem encode_cons (c : Char) (t : Text) :
    encode (c :: t) =
      String.utf8EncodeChar c ++ encode t :=
  List.flatMap_cons

theorem encode_append (t u : Text) :
    encode (t ++ u) = encode t ++ encode u :=
  List.flatMap_append

/- A text has the character of a small octet of it. -/
theorem ofNat_mem_of_mem_encode
    {b : UInt8}
    (hSmall : b.toNat < 0x80)
    {t : Text}
    (hMem : b ∈ encode t) :
    Char.ofNat b.toNat ∈ t := by
  rcases List.mem_flatMap.mp hMem with ⟨c, hChar, hOctet⟩
  rw [← eq_ofNat_of_mem_encodeChar hSmall hOctet]
  exact hChar

/- Decoding gives back a text from its octets. -/
theorem decode_encode (t : Text) :
    decode (encode t) = some t := by
  induction t with
  | nil => rfl
  | cons c t ih =>
      rw [encode_cons, decode_encodeChar_append, ih]
      rfl

------------------------------------------------------------
-- Encoding What Was Decoded
------------------------------------------------------------

theorem isContinuation_iff (b : UInt8) :
    isContinuation b = true ↔
      0x80 ≤ b.toNat ∧ b.toNat < 0xC0 := by
  simp [isContinuation]

theorem encodeChar_ofNat
    {a : UInt8}
    (hLt : a.toNat < 0x80) :
    String.utf8EncodeChar (Char.ofNat a.toNat) = [a] := by
  have hNat : (Char.ofNat a.toNat).toNat = a.toNat :=
    toNat_ofNat (isValidChar_of_lt (by omega))
  rw [encodeChar_one (by omega), hNat, UInt8.ofNat_toNat]

/- A small octet splits a text at its character. -/
theorem exists_of_encode_append
    {b : UInt8}
    (hSmall : b.toNat < 0x80)
    {t : Text}
    {front back : Bytes}
    (hEncode : encode t = front ++ b :: back) :
    ∃ u v, t = u ++ Char.ofNat b.toNat :: v ∧
      encode u = front ∧ encode v = back := by
  induction t generalizing front with
  | nil => exact absurd hEncode (by simp [encode])
  | cons c t ih =>
      rw [encode_cons] at hEncode
      rcases List.append_eq_append_iff.mp hEncode with
        ⟨more, hFront, hRest⟩ | ⟨more, hChar, hRest⟩
      · rcases ih hRest with ⟨u, v, rfl, hU, hV⟩
        refine ⟨c :: u, v, rfl, ?_, hV⟩
        rw [encode_cons, hU, hFront]
      · cases more with
        | nil =>
            rw [List.append_nil] at hChar
            rcases @ih [] hRest.symm with
              ⟨u, v, rfl, hU, hV⟩
            refine ⟨c :: u, v, rfl, ?_, hV⟩
            rw [encode_cons, hU, hChar, List.append_nil]
        | cons d more =>
            rw [List.cons_append, List.cons.injEq] at hRest
            -- the octet is one of `c`, so it is all of them
            have hMem : b ∈ String.utf8EncodeChar c := by
              rw [hChar, hRest.1]
              exact List.mem_append_right _
                List.mem_cons_self
            have hOwn := eq_ofNat_of_mem_encodeChar hSmall hMem
            rw [hOwn, encodeChar_ofNat hSmall] at hChar
            have hNone : front = [] ∧ more = [] := by
              cases front with
              | nil => exact ⟨rfl, (List.cons.inj hChar).2.symm⟩
              | cons e front => simp at hChar
            refine ⟨[], t, ?_, hNone.1.symm, ?_⟩
            · rw [hOwn]
              rfl
            · rw [hRest.2, hNone.2]
              rfl

/- The octets of a decoded character of two octets. -/
theorem encodeChar_join₂
    {a b : UInt8}
    (hLow : 0xC2 ≤ a.toNat)
    (hHigh : a.toNat < 0xE0)
    (hB : isContinuation b = true) :
    String.utf8EncodeChar (Char.ofNat (join₂ a b)) =
      [a, b] := by
  rw [isContinuation_iff] at hB
  have hEq : join₂ a b =
      a.toNat % 0x20 * 0x40 + b.toNat % 0x40 := rfl
  have hNat : (Char.ofNat (join₂ a b)).toNat = join₂ a b :=
    toNat_ofNat (isValidChar_of_lt (by omega))
  rw [encodeChar_two (by omega) (by omega), hNat,
    ofNat_eq_octet (b := a) (by omega),
    ofNat_eq_octet (b := b) (by omega)]

/- The octets of a decoded character of three octets. -/
theorem encodeChar_join₃
    {a b c : UInt8}
    (hLow : 0xE0 ≤ a.toNat)
    (hHigh : a.toNat < 0xF0)
    (hB : isContinuation b = true)
    (hC : isContinuation c = true)
    (hLong : 0x800 ≤ join₃ a b c)
    (hValid : (join₃ a b c).isValidChar) :
    String.utf8EncodeChar (Char.ofNat (join₃ a b c)) =
      [a, b, c] := by
  rw [isContinuation_iff] at hB hC
  have hEq : join₃ a b c =
      (a.toNat % 0x10 * 0x40 + b.toNat % 0x40) * 0x40 +
        c.toNat % 0x40 := rfl
  have hNat :
      (Char.ofNat (join₃ a b c)).toNat = join₃ a b c :=
    toNat_ofNat hValid
  rw [encodeChar_three (by omega) (by omega), hNat,
    ofNat_eq_octet (b := a) (by omega),
    ofNat_eq_octet (b := b) (by omega),
    ofNat_eq_octet (b := c) (by omega)]

/- The octets of a decoded character of four octets. -/
theorem encodeChar_join₄
    {a b c d : UInt8}
    (hLow : 0xF0 ≤ a.toNat)
    (hHigh : a.toNat < 0xF5)
    (hB : isContinuation b = true)
    (hC : isContinuation c = true)
    (hD : isContinuation d = true)
    (hLong : 0x10000 ≤ join₄ a b c d)
    (hValid : (join₄ a b c d).isValidChar) :
    String.utf8EncodeChar (Char.ofNat (join₄ a b c d)) =
      [a, b, c, d] := by
  rw [isContinuation_iff] at hB hC hD
  have hEq : join₄ a b c d =
      ((a.toNat % 0x08 * 0x40 + b.toNat % 0x40) * 0x40 +
        c.toNat % 0x40) * 0x40 + d.toNat % 0x40 := rfl
  have hNat :
      (Char.ofNat (join₄ a b c d)).toNat = join₄ a b c d :=
    toNat_ofNat hValid
  rw [encodeChar_four (by omega), hNat,
    ofNat_eq_octet (b := a) (by omega),
    ofNat_eq_octet (b := b) (by omega),
    ofNat_eq_octet (b := c) (by omega),
    ofNat_eq_octet (b := d) (by omega)]

/- Encoding gives back octets from their text. -/
theorem encode_of_decode
    {bytes : Bytes}
    {t : Text}
    (hDecode : decode bytes = some t) :
    encode t = bytes := by
  fun_induction decode bytes generalizing t with
  | case1 =>
      cases hDecode
      rfl
  | case2 a rest hLt ih =>
      rcases Option.map_eq_some_iff.mp hDecode with
        ⟨u, hRest, rfl⟩
      rw [encode_cons, encodeChar_ofNat hLt, ih hRest]
      rfl
  | case4 a hLt hLow hHigh b rest hB ih =>
      rcases Option.map_eq_some_iff.mp hDecode with
        ⟨u, hRest, rfl⟩
      rw [encode_cons, encodeChar_join₂ (by omega) hHigh hB,
        ih hRest]
      rfl
  | case7 a h₁ h₂ h₃ hHigh b c rest hAll ih =>
      simp only [Bool.and_eq_true, decide_eq_true_eq]
        at hAll
      rcases hAll with ⟨⟨⟨hB, hC⟩, hLong⟩, hValid⟩
      rcases Option.map_eq_some_iff.mp hDecode with
        ⟨u, hRest, rfl⟩
      rw [encode_cons, encodeChar_join₃ (by omega) hHigh hB
        hC hLong hValid, ih hRest]
      rfl
  | case10 a h₁ h₂ h₃ h₄ hHigh b c d rest hAll ih =>
      simp only [Bool.and_eq_true, decide_eq_true_eq]
        at hAll
      rcases hAll with ⟨⟨⟨⟨hB, hC⟩, hD⟩, hLong⟩, hValid⟩
      rcases Option.map_eq_some_iff.mp hDecode with
        ⟨u, hRest, rfl⟩
      rw [encode_cons, encodeChar_join₄ (by omega) hHigh hB
        hC hD hLong hValid, ih hRest]
      rfl
  | case3 | case5 | case6 | case8 | case9 | case11 | case12
  | case13 => cases hDecode

/- Octets decode to exactly the text that they encode. -/
theorem decode_eq_some_iff
    (bytes : Bytes)
    (t : Text) :
    decode bytes = some t ↔ encode t = bytes := by
  constructor
  · exact encode_of_decode
  · intro hEncode
    rw [← hEncode, decode_encode]

theorem decode_eq_none_iff (bytes : Bytes) :
    decode bytes = none ↔ ∀ t, encode t ≠ bytes := by
  rw [Option.eq_none_iff_forall_ne_some]
  constructor
  · intro hNone t hEncode
    exact hNone t ((decode_eq_some_iff bytes t).mpr hEncode)
  · intro hNone t hDecode
    exact hNone t (encode_of_decode hDecode)

/-
  A small octet is no part of a longer character, so octets
  in front of it and behind it are decoded apart.
-/
theorem decode_append_cons
    {b : UInt8}
    (hSmall : b.toNat < 0x80)
    (front back : Bytes) :
    decode (front ++ b :: back) =
      (decode front).bind fun u =>
        (decode back).map fun v =>
          u ++ Char.ofNat b.toNat :: v := by
  cases hFront : decode front with
  | none =>
      rw [decode_eq_none_iff] at hFront
      rw [Option.bind_none, decode_eq_none_iff]
      intro t hEncode
      rcases exists_of_encode_append hSmall hEncode with
        ⟨u, -, -, hU, -⟩
      exact hFront u hU
  | some u =>
      rw [decode_eq_some_iff] at hFront
      rw [Option.bind_some]
      cases hBack : decode back with
      | none =>
          rw [decode_eq_none_iff] at hBack
          rw [Option.map_none, decode_eq_none_iff]
          intro t hEncode
          rcases exists_of_encode_append hSmall hEncode with
            ⟨-, v, -, -, hV⟩
          exact hBack v hV
      | some v =>
          rw [decode_eq_some_iff] at hBack
          rw [Option.map_some, decode_eq_some_iff,
            encode_append, encode_cons,
            encodeChar_ofNat hSmall, hFront, hBack]
          rfl

end Utf8

end PageHeat
