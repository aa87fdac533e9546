import PageHeat.Proofs.Text.Utf8

/-
  What is shown for octets that need not be text.

  The octets of a text are shown as this text. Replaced
  octets are never shown as a character of one octet, so
  such a character is shown only where its octet stands.

  Key lemmas include:
    * `Utf8.lossy_of_decode`
    * `Utf8.lossy_encode`
    * `Utf8.mem_of_mem_lossy`
    * `Utf8.mem_of_mem_encode_lossy`
-/

------------------------------------------------------------
-- Starts Of Characters
------------------------------------------------------------

namespace PageHeat

namespace Utf8

section Starts

variable {a b : UInt8}

/- Two octets start a character whatever the third is. -/
theorem starts₃_iff
    (hB : isContinuation b = true)
    (c : UInt8) :
    starts₃ a b = true ↔
      0x800 ≤ join₃ a b c ∧ (join₃ a b c).isValidChar := by
  have hZero : (0 : UInt8).toNat = 0 := rfl
  simp only [starts₃, hB, Bool.true_and, Bool.and_eq_true,
    decide_eq_true_eq, join₃, Nat.isValidChar, hZero]
  omega

/- So do they for four octets. -/
theorem starts₄_iff
    (hB : isContinuation b = true)
    (c d : UInt8) :
    starts₄ a b = true ↔
      0x10000 ≤ join₄ a b c d ∧
        (join₄ a b c d).isValidChar := by
  have hZero : (0 : UInt8).toNat = 0 := rfl
  simp only [starts₄, hB, Bool.true_and, Bool.and_eq_true,
    decide_eq_true_eq, join₄, Nat.isValidChar, hZero]
  omega

theorem isContinuation_of_starts₃
    (hStarts : starts₃ a b = true) :
    isContinuation b = true := by
  simp only [starts₃, Bool.and_eq_true] at hStarts
  exact hStarts.1.1

theorem isContinuation_of_starts₄
    (hStarts : starts₄ a b = true) :
    isContinuation b = true := by
  simp only [starts₄, Bool.and_eq_true] at hStarts
  exact hStarts.1.1

end Starts

------------------------------------------------------------
-- Octets Of Texts
------------------------------------------------------------

/- Octets that are a text are shown as this text. -/
theorem lossy_of_decode
    {bytes : Bytes}
    {t : Text}
    (hDecode : decode bytes = some t) :
    lossy bytes = t := by
  fun_induction decode bytes generalizing t with
  | case1 =>
      cases hDecode
      rfl
  | case2 a rest hLt ih =>
      rcases Option.map_eq_some_iff.mp hDecode with
        ⟨u, hRest, rfl⟩
      rw [lossy.eq_def]
      simp only [if_pos hLt, ih hRest]
  | case4 a h₁ h₂ hHigh b rest hB ih =>
      rcases Option.map_eq_some_iff.mp hDecode with
        ⟨u, hRest, rfl⟩
      rw [lossy.eq_def]
      simp only [if_neg h₁, if_neg h₂, if_pos hHigh,
        if_pos hB, ih hRest]
  | case7 a h₁ h₂ h₃ hHigh b c rest hAll ih =>
      simp only [Bool.and_eq_true, decide_eq_true_eq]
        at hAll
      rcases hAll with ⟨⟨⟨hB, hC⟩, hLong⟩, hValid⟩
      have hStarts := (starts₃_iff hB c).mpr ⟨hLong, hValid⟩
      rcases Option.map_eq_some_iff.mp hDecode with
        ⟨u, hRest, rfl⟩
      rw [lossy.eq_def]
      simp only [if_neg h₁, if_neg h₂, if_neg h₃,
        if_pos hHigh, if_pos hStarts, if_pos hC, ih hRest]
  | case10 a h₁ h₂ h₃ h₄ hHigh b c d rest hAll ih =>
      simp only [Bool.and_eq_true, decide_eq_true_eq]
        at hAll
      rcases hAll with ⟨⟨⟨⟨hB, hC⟩, hD⟩, hLong⟩, hValid⟩
      have hStarts :=
        (starts₄_iff hB c d).mpr ⟨hLong, hValid⟩
      rcases Option.map_eq_some_iff.mp hDecode with
        ⟨u, hRest, rfl⟩
      rw [lossy.eq_def]
      simp only [if_neg h₁, if_neg h₂, if_neg h₃, if_neg h₄,
        if_pos hHigh, if_pos hStarts, if_pos hC, if_pos hD,
        ih hRest]
  | case3 | case5 | case6 | case8 | case9 | case11 | case12
  | case13 => cases hDecode

theorem lossy_encode (t : Text) : lossy (encode t) = t :=
  lossy_of_decode (decode_encode t)

theorem encode_inj {t u : Text} :
    encode t = encode u ↔ t = u := by
  constructor
  · intro hEq
    rw [← lossy_encode t, hEq, lossy_encode]
  · exact congrArg encode

------------------------------------------------------------
-- Characters Of One Octet
------------------------------------------------------------

/- Where something stands, something is shown. -/
theorem lossy_ne_nil
    {bytes : Bytes}
    (hSome : bytes ≠ []) :
    lossy bytes ≠ [] := by
  fun_cases lossy bytes with
  | case1 => exact absurd rfl hSome
  | _ => exact List.cons_ne_nil _ _

section OneOctet

variable {c : Char} (hSmall : c.toNat < 0x80)

include hSmall

/- A character of one octet is no replacement. -/
theorem mem_of_mem_replacement
    {t : Text}
    (hMem : c ∈ replacement :: t) :
    c ∈ t := by
  refine List.mem_of_ne_of_mem ?_ hMem
  rintro rfl
  exact absurd hSmall (by decide)

/- It is no character of a larger code point either. -/
theorem mem_of_mem_ofNat
    {n : Nat}
    {t : Text}
    (hLong : 0x80 ≤ n)
    (hValid : n.isValidChar)
    (hMem : c ∈ Char.ofNat n :: t) :
    c ∈ t := by
  refine List.mem_of_ne_of_mem ?_ hMem
  rintro rfl
  rw [toNat_ofNat hValid] at hSmall
  omega

/- It is shown only where its octet stands. -/
theorem mem_of_mem_lossy
    {bytes : Bytes}
    (hMem : c ∈ lossy bytes) :
    UInt8.ofNat c.toNat ∈ bytes := by
  have hReplaced {t : Text} :=
    mem_of_mem_replacement (t := t) hSmall
  fun_induction lossy bytes with
  | case1 => cases hMem
  | case2 a rest hLt ih =>
      rcases List.mem_cons.mp hMem with rfl | hRest
      · rw [toNat_ofNat (isValidChar_of_lt (by omega)),
          UInt8.ofNat_toNat]
        exact List.mem_cons_self
      · exact List.mem_cons_of_mem _ (ih hRest)
  | case5 a h₁ h₂ hHigh b more hB ih =>
      have hEq : join₂ a b =
          a.toNat % 0x20 * 0x40 + b.toNat % 0x40 := rfl
      have hRest :=
        mem_of_mem_ofNat hSmall (n := join₂ a b) (by omega)
          (isValidChar_of_lt (by omega)) hMem
      exact List.mem_append_right [a, b] (ih hRest)
  | case9 a h₁ h₂ h₃ hHigh b hStarts c more hC ih =>
      have hB := isContinuation_of_starts₃ hStarts
      rcases (starts₃_iff hB c).mp hStarts with
        ⟨hLong, hValid⟩
      have hRest :=
        mem_of_mem_ofNat hSmall (by omega) hValid hMem
      exact List.mem_append_right [a, b, c] (ih hRest)
  | case15 a h₁ h₂ h₃ h₄ hHigh b hStarts c hC d more hD ih =>
      have hB := isContinuation_of_starts₄ hStarts
      rcases (starts₄_iff hB c d).mp hStarts with
        ⟨hLong, hValid⟩
      have hRest :=
        mem_of_mem_ofNat hSmall (by omega) hValid hMem
      exact List.mem_append_right [a, b, c, d] (ih hRest)
  | case4 | case7 | case8 | case12 | case13 | case14 =>
      cases hReplaced hMem
  | case3 _ _ _ _ ih | case6 _ _ _ _ _ _ _ ih
  | case11 _ _ _ _ _ _ _ _ ih
  | case18 _ _ _ _ _ _ _ _ _ ih | case19 _ _ _ _ _ _ _ ih =>
      exact List.mem_cons_of_mem _ (ih (hReplaced hMem))
  | case10 _ _ _ _ _ _ _ _ _ _ ih
  | case17 _ _ _ _ _ _ _ _ _ _ _ ih =>
      exact
        List.mem_append_right [_, _] (ih (hReplaced hMem))
  | case16 _ _ _ _ _ _ _ _ _ _ _ _ _ ih =>
      exact
        List.mem_append_right [_, _, _] (ih (hReplaced hMem))

end OneOctet

/- A small octet is written again only if it was there. -/
theorem mem_of_mem_encode_lossy
    {b : UInt8}
    (hSmall : b.toNat < 0x80)
    {bytes : Bytes}
    (hMem : b ∈ encode (lossy bytes)) :
    b ∈ bytes := by
  have hCode : (Char.ofNat b.toNat).toNat = b.toNat :=
    toNat_ofNat (isValidChar_of_lt (by omega))
  have hShown := ofNat_mem_of_mem_encode hSmall hMem
  have hOctet := mem_of_mem_lossy (by omega) hShown
  rwa [hCode, UInt8.ofNat_toNat] at hOctet

end Utf8

end PageHeat
