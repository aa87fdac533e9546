import PageHeat.Text.Decimal

/-
  What decimal numbers are read as, and how they are
  written.

  A numeral is a text of one or more digits, perhaps after
  a plus sign. Reading against a limit accepts exactly the
  numerals whose value is within it, with any number of
  leading zeros.

  Key definitions include:
    * `Decimal.IsNumeral`

  Key lemmas include:
    * `Decimal.readNatural_eq_ok_iff`
    * `Decimal.IsNumeral.unique`
    * `Decimal.isDigit_of_mem_text`
    * `Decimal.isDigits_text`
    * `Decimal.text_inj`
-/

------------------------------------------------------------
-- Numerals
------------------------------------------------------------

namespace PageHeat

namespace Decimal

/- A text of digits that has a given value. -/
def IsDigits (t : Text) (n : Nat) : Prop :=
  t ≠ [] ∧ (∀ c ∈ t, c.isDigit = true) ∧
    Nat.ofDigitChars 10 t 0 = n

/- Digits of a given value, perhaps after a plus sign. -/
def IsNumeral (t : Text) (n : Nat) : Prop :=
  IsDigits t n ∨ ∃ digits, t = '+' :: digits ∧ IsDigits digits n

/- Digits have one value. -/
theorem IsDigits.unique
    {t : Text}
    {m n : Nat}
    (hM : IsDigits t m)
    (hN : IsDigits t n) :
    m = n :=
  hM.2.2.symm.trans hN.2.2

theorem not_isDigits_plus
    (t : Text)
    (n : Nat) :
    ¬ IsDigits ('+' :: t) n := by
  intro hDigits
  have hPlus : ('+').isDigit = true :=
    hDigits.2.1 '+' List.mem_cons_self
  exact absurd hPlus (by decide)

/- A numeral has one value. -/
theorem IsNumeral.unique
    {t : Text}
    {m n : Nat}
    (hM : IsNumeral t m)
    (hN : IsNumeral t n) :
    m = n := by
  rcases hM with hM | ⟨digits, rfl, hM⟩
  · rcases hN with hN | ⟨digits, rfl, hN⟩
    · exact hM.unique hN
    · exact absurd hM (not_isDigits_plus digits m)
  · rcases hN with hN | ⟨others, hEq, hN⟩
    · exact absurd hN (not_isDigits_plus digits n)
    · cases hEq
      exact hM.unique hN

------------------------------------------------------------
-- Reading
------------------------------------------------------------

/- Further digits never make a number smaller. -/
theorem le_ofDigitChars
    (t : Text)
    (soFar : Nat) :
    soFar ≤ Nat.ofDigitChars 10 t soFar := by
  induction t generalizing soFar with
  | nil => exact Nat.le_refl _
  | cons c t ih =>
      rw [Nat.ofDigitChars_cons]
      have hRest := ih (10 * soFar + (c.toNat - '0'.toNat))
      omega

/-
  Reading digits accepts exactly the texts of digits whose
  value stays within the limit. The value only grows, so
  the limit is met on the way if it is met in the end.
-/
theorem readDigits_eq_ok_iff
    (limit : Nat)
    (excess : Fault)
    (soFar : Nat)
    (t : Text)
    (n : Nat)
    (hStart : soFar ≤ limit) :
    readDigits limit excess soFar t = .ok n ↔
      (∀ c ∈ t, c.isDigit = true) ∧
        Nat.ofDigitChars 10 t soFar = n ∧ n ≤ limit := by
  induction t generalizing soFar with
  | nil =>
      simp only [readDigits, Except.ok.injEq,
        Nat.ofDigitChars_nil]
      constructor
      · rintro rfl
        exact
          ⟨fun _ hMem => absurd hMem List.not_mem_nil,
            rfl, hStart⟩
      · exact fun h => h.2.1
  | cons c t ih =>
      have hNext :
          soFar * 10 + digitValue c =
            10 * soFar + (c.toNat - '0'.toNat) := by
        rw [digitValue, Nat.mul_comm]
      rw [readDigits, Nat.ofDigitChars_cons, hNext]
      simp only [List.forall_mem_cons]
      by_cases hDigit : c.isDigit = true
      · by_cases hFits :
            10 * soFar + (c.toNat - '0'.toNat) ≤ limit
        · rw [if_pos hDigit, if_pos hFits, ih _ hFits]
          simp only [hDigit, true_and]
        · rw [if_pos hDigit, if_neg hFits]
          constructor
          · intro hEq
            cases hEq
          · rintro ⟨_, rfl, hLe⟩
            have hGrows :=
              le_ofDigitChars t
                (10 * soFar + (c.toNat - '0'.toNat))
            exact absurd (Nat.le_trans hGrows hLe) hFits
      · rw [if_neg hDigit]
        constructor
        · intro hEq
          cases hEq
        · intro h
          exact absurd h.1.1 hDigit

/- Reading a number without sign accepts exactly digits. -/
theorem readUnsigned_eq_ok_iff
    (limit : Nat)
    (excess : Fault)
    (t : Text)
    (n : Nat) :
    readUnsigned limit excess t = .ok n ↔
      IsDigits t n ∧ n ≤ limit := by
  cases t with
  | nil =>
      constructor
      · intro hEq
        cases hEq
      · intro h
        exact absurd rfl h.1.1
  | cons c t =>
      rw [readUnsigned,
        readDigits_eq_ok_iff limit excess 0 (c :: t) n
          (Nat.zero_le _)]
      simp only [IsDigits, ne_eq, List.cons_ne_nil,
        not_false_eq_true, true_and, and_assoc]

/- Reading accepts exactly the numerals within the limit. -/
theorem readNatural_eq_ok_iff
    (limit : Nat)
    (t : Text)
    (n : Nat) :
    readNatural limit t = .ok n ↔
      IsNumeral t n ∧ n ≤ limit := by
  unfold readNatural
  split
  · constructor
    · intro hEq
      cases hEq
    · rintro ⟨hDigits | ⟨digits, hEq, _⟩, _⟩
      · exact absurd rfl hDigits.1
      · cases hEq
  · rename_i rest
    rw [readUnsigned_eq_ok_iff]
    constructor
    · rintro ⟨hDigits, hLe⟩
      exact ⟨Or.inr ⟨rest, rfl, hDigits⟩, hLe⟩
    · rintro ⟨hDigits | ⟨digits, hEq, hDigits⟩, hLe⟩
      · exact absurd hDigits (not_isDigits_plus rest n)
      · cases hEq
        exact ⟨hDigits, hLe⟩
  · rename_i c rest hNoPlus
    rw [readUnsigned_eq_ok_iff]
    constructor
    · rintro ⟨hDigits, hLe⟩
      exact ⟨Or.inl hDigits, hLe⟩
    · rintro ⟨hDigits | ⟨digits, hEq, _⟩, hLe⟩
      · exact ⟨hDigits, hLe⟩
      · exact absurd (List.cons.inj hEq).1 hNoPlus

------------------------------------------------------------
-- Writing
------------------------------------------------------------

theorem isDigit_of_mem_text
    {n : Nat}
    {c : Char}
    (hMem : c ∈ text n) :
    c.isDigit = true :=
  Nat.isDigit_of_mem_toDigits (by decide) (by decide) hMem

theorem isDigits_text (n : Nat) : IsDigits (text n) n := by
  refine ⟨?_, fun c hMem => isDigit_of_mem_text hMem, ?_⟩
  · exact Nat.toDigits_ne_nil
  · exact Nat.ofDigitChars_toDigits (by decide) (by decide)

/- Different numbers are written differently. -/
theorem text_inj {m n : Nat} : text m = text n ↔ m = n := by
  constructor
  · intro hEq
    have hDigits : IsDigits (text n) m := hEq ▸ isDigits_text m
    exact hDigits.unique (isDigits_text n)
  · exact congrArg text

/- Only zero is written with a zero in front. -/
theorem head?_text_ne
    {n : Nat}
    (hPos : 0 < n) :
    (text n).head? ≠ some '0' := by
  unfold text
  induction n using Nat.strongRecOn with
  | ind n ih =>
      rcases Nat.lt_or_ge n 10 with hLt | hGe
      · rw [Nat.toDigits_of_lt_base hLt]
        have hAll : ∀ k < 10, 0 < k → k.digitChar ≠ '0' := by
          decide
        intro hEq
        exact hAll n hLt hPos (Option.some.inj hEq)
      · rw [Nat.toDigits_of_base_le (by decide) hGe,
          List.head?_append, Option.or_of_isSome]
        · exact ih (n / 10) (by omega) (by omega)
        · rw [List.isSome_head?]
          exact Nat.toDigits_ne_nil

/- Zeros in front do not change the value of digits. -/
theorem IsDigits.zeros
    {t : Text}
    {n : Nat}
    (hDigits : IsDigits t n)
    (k : Nat) :
    IsDigits (List.replicate k '0' ++ t) n := by
  induction k with
  | zero => exact hDigits
  | succ k ih =>
      rcases ih with ⟨-, hAll, hValue⟩
      rw [List.replicate_succ, List.cons_append]
      refine ⟨List.cons_ne_nil _ _, ?_, ?_⟩
      · rw [List.forall_mem_cons]
        exact ⟨by decide, hAll⟩
      · rw [Nat.ofDigitChars_cons]
        exact hValue

end Decimal

end PageHeat
