import PageHeat.Proofs.Text.Order
import PageHeat.Proofs.Text.Utf8

/-
  The order of texts by their octets.

  The first octet of a character tells how many octets it
  has, and a character of more octets has a larger first
  one. Characters of the same number of octets differ first
  in an octet of the larger bits. So the text that stands
  before another one has the smaller octets.

  Key lemmas include:
    * `Utf8.exists_lead`
    * `Utf8.IsBelow.concat`
    * `Utf8.isBelow_encodeChar`
    * `Utf8.encode_lt_of_before`
-/

------------------------------------------------------------
-- Octets Of Characters
------------------------------------------------------------

namespace PageHeat

namespace Utf8

/- The first octet of a character tells its width. -/
theorem exists_lead (c : Char) :
    ∃ lead more,
      String.utf8EncodeChar c = lead :: more ∧
        (lead.toNat < 0x80 ↔ c.toNat ≤ 0x7F) ∧
        (lead.toNat < 0xE0 ↔ c.toNat ≤ 0x7FF) ∧
        (lead.toNat < 0xF0 ↔ c.toNat ≤ 0xFFFF) := by
  by_cases h₁ : c.toNat ≤ 0x7F
  · have hLead : (UInt8.ofNat c.toNat).toNat = c.toNat :=
      toNat_octet (by omega)
    exact
      ⟨_, _, encodeChar_one h₁, by omega, by omega, by omega⟩
  by_cases h₂ : c.toNat ≤ 0x7FF
  · have hLead := toNat_bits (c.toNat / 64) 0x20 0xC0
      (by decide) (by decide)
    exact
      ⟨_, _, encodeChar_two (by omega) h₂, by omega, by omega,
        by omega⟩
  by_cases h₃ : c.toNat ≤ 0xFFFF
  · have hLead := toNat_bits (c.toNat / 4096) 0x10 0xE0
      (by decide) (by decide)
    exact
      ⟨_, _, encodeChar_three (by omega) h₃, by omega,
        by omega, by omega⟩
  · have hLead := toNat_bits (c.toNat / 262144) 0x08 0xF0
      (by decide) (by decide)
    exact
      ⟨_, _, encodeChar_four (by omega), by omega, by omega,
        by omega⟩

/- Octets that are smaller, whatever stands behind them. -/
def IsBelow (x y : Bytes) : Prop :=
  ∀ more more', x ++ more < y ++ more'

theorem isBelow_of_lead
    {a b : UInt8}
    (hLt : a.toNat < b.toNat)
    (x y : Bytes) :
    IsBelow (a :: x) (b :: y) := by
  intro more more'
  rw [List.cons_append, List.cons_append,
    List.cons_lt_cons_iff]
  exact .inl (UInt8.lt_iff_toNat_lt.mpr hLt)

/- Smaller bits with the same mark make octets smaller. -/
theorem isBelow_of_bits
    {m n k mark : Nat}
    (hLt : m < n)
    (hLess : n < k)
    (hFits : k + mark ≤ 256) :
    IsBelow [UInt8.ofNat (m % k + mark)]
      [UInt8.ofNat (n % k + mark)] := by
  refine isBelow_of_lead ?_ [] []
  rw [toNat_bits m k mark (by omega) hFits,
    toNat_bits n k mark (by omega) hFits,
    Nat.mod_eq_of_lt (Nat.lt_trans hLt hLess),
    Nat.mod_eq_of_lt hLess]
  omega

theorem IsBelow.append_left
    {x y : Bytes}
    (hBelow : IsBelow x y)
    (front : Bytes) :
    IsBelow (front ++ x) (front ++ y) := by
  intro more more'
  rw [List.append_assoc, List.append_assoc]
  exact List.append_left_lt (hBelow more more')

/-
  A continuation octet behind the octets of all but the last
  six bits of two numbers.
-/
theorem IsBelow.concat
    {x y : Bytes}
    {m n : Nat}
    (hFront : m / 64 < n / 64 → IsBelow x y)
    (hSame : m / 64 = n / 64 → x = y)
    (hLt : m < n) :
    IsBelow (x ++ [UInt8.ofNat (m % 0x40 + 0x80)])
      (y ++ [UInt8.ofNat (n % 0x40 + 0x80)]) := by
  by_cases hEq : m / 64 = n / 64
  · rw [hSame hEq]
    refine IsBelow.append_left (isBelow_of_lead ?_ [] []) y
    rw [toNat_continuation, toNat_continuation]
    omega
  · intro more more'
    rw [List.append_assoc, List.append_assoc]
    exact hFront (by omega) _ _

section Continuations

variable {m n k mark : Nat}
variable (hLt : m < n) (hFits : k + mark ≤ 256)

include hLt hFits

/- The octets of a number with one continuation. -/
theorem isBelow_of_one
    (hLess : n / 64 < k) :
    IsBelow
      [UInt8.ofNat (m / 64 % k + mark),
        UInt8.ofNat (m % 0x40 + 0x80)]
      [UInt8.ofNat (n / 64 % k + mark),
        UInt8.ofNat (n % 0x40 + 0x80)] := by
  refine IsBelow.concat (x := [_]) (y := [_]) ?_ ?_ hLt
  · intro hFront
    exact isBelow_of_bits hFront hLess hFits
  · intro hSame
    rw [hSame]

theorem isBelow_of_two
    (hLess : n / 64 / 64 < k) :
    IsBelow
      [UInt8.ofNat (m / 64 / 64 % k + mark),
        UInt8.ofNat (m / 64 % 0x40 + 0x80),
        UInt8.ofNat (m % 0x40 + 0x80)]
      [UInt8.ofNat (n / 64 / 64 % k + mark),
        UInt8.ofNat (n / 64 % 0x40 + 0x80),
        UInt8.ofNat (n % 0x40 + 0x80)] := by
  refine IsBelow.concat (x := [_, _]) (y := [_, _]) ?_ ?_ hLt
  · intro hFront
    exact isBelow_of_one hFront hFits hLess
  · intro hSame
    rw [hSame]

theorem isBelow_of_three
    (hLess : n / 64 / 64 / 64 < k) :
    IsBelow
      [UInt8.ofNat (m / 64 / 64 / 64 % k + mark),
        UInt8.ofNat (m / 64 / 64 % 0x40 + 0x80),
        UInt8.ofNat (m / 64 % 0x40 + 0x80),
        UInt8.ofNat (m % 0x40 + 0x80)]
      [UInt8.ofNat (n / 64 / 64 / 64 % k + mark),
        UInt8.ofNat (n / 64 / 64 % 0x40 + 0x80),
        UInt8.ofNat (n / 64 % 0x40 + 0x80),
        UInt8.ofNat (n % 0x40 + 0x80)] := by
  refine
    IsBelow.concat (x := [_, _, _]) (y := [_, _, _]) ?_ ?_ hLt
  · intro hFront
    exact isBelow_of_two hFront hFits hLess
  · intro hSame
    rw [hSame]

end Continuations

section Characters

variable {c d : Char}

/- A wider character comes behind a narrower one. -/
theorem isBelow_of_wider
    (hWider :
      c.toNat ≤ 0x7F ∧ 0x7F < d.toNat ∨
        c.toNat ≤ 0x7FF ∧ 0x7FF < d.toNat ∨
        c.toNat ≤ 0xFFFF ∧ 0xFFFF < d.toNat) :
    IsBelow (String.utf8EncodeChar c)
      (String.utf8EncodeChar d) := by
  rcases exists_lead c with ⟨a, more, hC, hC₁, hC₂, hC₃⟩
  rcases exists_lead d with ⟨b, more', hD, hD₁, hD₂, hD₃⟩
  rw [hC, hD]
  exact isBelow_of_lead (by omega) more more'

/-
  Characters of one width are ordered by the first octet in
  which they differ.
-/
theorem isBelow_encodeChar
    (hLt : c.toNat < d.toNat) :
    IsBelow (String.utf8EncodeChar c)
      (String.utf8EncodeChar d) := by
  have hBound : d.toNat < 0x110000 := by
    have hValid := isValidChar_toNat d
    unfold Nat.isValidChar at hValid
    omega
  -- one division by 64 for each continuation octet
  have hDigits (n : Nat) :
      n / 4096 = n / 64 / 64 ∧
        n / 262144 = n / 64 / 64 / 64 := by
    omega
  by_cases h₁ : d.toNat ≤ 0x7F
  · rw [encodeChar_one h₁, encodeChar_one (by omega)]
    refine isBelow_of_lead ?_ [] []
    rw [toNat_octet (by omega), toNat_octet (by omega)]
    exact hLt
  by_cases h₂ : d.toNat ≤ 0x7FF
  · by_cases hNarrow : c.toNat ≤ 0x7F
    · exact isBelow_of_wider (by omega)
    rw [encodeChar_two (by omega) h₂,
      encodeChar_two (by omega) (by omega)]
    exact isBelow_of_one hLt (by decide) (by omega)
  by_cases h₃ : d.toNat ≤ 0xFFFF
  · by_cases hNarrow : c.toNat ≤ 0x7FF
    · exact isBelow_of_wider (by omega)
    rw [encodeChar_three (by omega) h₃,
      encodeChar_three (by omega) (by omega),
      (hDigits c.toNat).1, (hDigits d.toNat).1]
    exact isBelow_of_two hLt (by decide) (by omega)
  · by_cases hNarrow : c.toNat ≤ 0xFFFF
    · exact isBelow_of_wider (by omega)
    rw [encodeChar_four (by omega),
      encodeChar_four (by omega), (hDigits c.toNat).1,
      (hDigits c.toNat).2, (hDigits d.toNat).1,
      (hDigits d.toNat).2]
    exact isBelow_of_three hLt (by decide) (by omega)

end Characters

end Utf8

------------------------------------------------------------
-- Octets Of Texts
------------------------------------------------------------

namespace Text

/- Two texts with a character in front, strictly ordered. -/
theorem before_cons_iff
    (c d : Char)
    (t u : Text) :
    Before (c :: t) (d :: u) ↔
      c.toNat < d.toNat ∨ c = d ∧ Before t u := by
  rw [Before, atMost_cons_iff, Char.toNat_inj]
  constructor
  · rintro ⟨hLt | ⟨rfl, hAtMost⟩, hNe⟩
    · exact .inl hLt
    · exact
        .inr ⟨rfl, hAtMost, fun hEq => hNe (by rw [hEq])⟩
  · rintro (hLt | ⟨rfl, hAtMost, hNe⟩)
    · refine ⟨.inl hLt, ?_⟩
      intro hEq
      rw [(List.cons.inj hEq).1] at hLt
      exact absurd hLt (Nat.lt_irrefl _)
    · exact
        ⟨.inr ⟨rfl, hAtMost⟩,
          fun hEq => hNe (List.cons.inj hEq).2⟩

end Text

namespace Utf8

/- A text that stands before another has smaller octets. -/
theorem encode_lt_of_before
    {t u : Text}
    (hBefore : Text.Before t u) :
    encode t < encode u := by
  induction t generalizing u with
  | nil =>
      cases u with
      | nil => exact absurd rfl hBefore.2
      | cons d u =>
          rcases exists_lead d with ⟨lead, more, hLead, -⟩
          rw [encode_cons, hLead]
          exact List.nil_lt_cons _ _
  | cons c t ih =>
      cases u with
      | nil => cases hBefore.1
      | cons d u =>
          rw [encode_cons, encode_cons]
          rcases (Text.before_cons_iff c d t u).mp hBefore with
            hLt | ⟨rfl, hRest⟩
          · exact isBelow_encodeChar hLt _ _
          · exact List.append_left_lt (ih hRest)

theorem encode_le_of_atMost
    {t u : Text}
    (hAtMost : Text.atMost t u = true) :
    encode t ≤ encode u := by
  by_cases hEq : t = u
  · rw [hEq]
    exact List.le_refl _
  · exact List.le_of_lt (encode_lt_of_before ⟨hAtMost, hEq⟩)

end Utf8

end PageHeat
