import PageHeat.Proofs.Json.Grammar
import PageHeat.Proofs.Text.Fields
import PageHeat.Proofs.Text.Utf8

/-
  Reading the characters of strings.

  Each reader takes as much as it needs and hands on the
  rest. It accepts exactly what the grammar says: if a text
  starts with a spelling, what is spelled is found, and what
  is found is spelled in front of the rest.

  Key definitions include:
    * `Json.readCode?`
    * `Json.readChar?`
    * `Json.readString?`

  Key lemmas include:
    * `Json.readCode?_eq_some_iff`
    * `Json.readChar?_eq_some_iff`
    * `Json.readString?_eq_some_iff`
-/

------------------------------------------------------------
-- Escaped Code Points
------------------------------------------------------------

namespace PageHeat

namespace Json

/- Read four hexadecimal digits. -/
def readCode? : Text → Option (Nat × Text)
  | a :: b :: c :: d :: rest => do
      let w ← hexValue? a
      let x ← hexValue? b
      let y ← hexValue? c
      let z ← hexValue? d
      some (((w * 16 + x) * 16 + y) * 16 + z, rest)
  | _ => none

/- Four digits are read exactly where they stand. -/
theorem readCode?_eq_some_iff
    (t : Text)
    (n : Nat)
    (rest : Text) :
    readCode? t = some (n, rest) ↔
      ∃ digits, IsCode digits n ∧ t = digits ++ rest := by
  constructor
  · intro hRead
    unfold readCode? at hRead
    split at hRead
    · rename_i a b c d behind
      simp only [Option.bind_eq_bind,
        Option.bind_eq_some_iff, Option.some.injEq,
        Prod.mk.injEq] at hRead
      rcases hRead with
        ⟨w, ha, x, hb, y, hc, z, hd, rfl, rfl⟩
      exact ⟨[a, b, c, d], .digits ha hb hc hd, rfl⟩
    · cases hRead
  · rintro ⟨digits, hCode, rfl⟩
    rcases hCode with ⟨ha, hb, hc, hd⟩
    simp only [List.cons_append, List.nil_append, readCode?,
      ha, hb, hc, hd, Option.bind_eq_bind, Option.bind_some]

/- A hexadecimal digit is less than sixteen. -/
theorem hexValue?_lt
    {c : Char}
    {n : Nat}
    (hValue : hexValue? c = some n) :
    n < 16 := by
  unfold hexValue? at hValue
  split at hValue
  · rename_i hDigit
    have hLe : c.toNat ≤ '9'.toNat := by
      simp only [Char.isDigit, Bool.and_eq_true,
        decide_eq_true_eq] at hDigit
      exact hDigit.2
    have hNine : '9'.toNat = 57 := rfl
    have hZero : '0'.toNat = 48 := rfl
    cases hValue
    omega
  · split at hValue
    · rename_i hSmall
      have hLe : c.toNat ≤ 'f'.toNat := hSmall.2
      have hLast : 'f'.toNat = 102 := rfl
      have hFirst : 'a'.toNat = 97 := rfl
      cases hValue
      omega
    · split at hValue
      · rename_i hLarge
        have hLe : c.toNat ≤ 'F'.toNat := hLarge.2
        have hLast : 'F'.toNat = 70 := rfl
        have hFirst : 'A'.toNat = 65 := rfl
        cases hValue
        omega
      · cases hValue

/- Four digits reach as far as the first plane. -/
theorem IsCode.lt
    {digits : Text}
    {n : Nat}
    (hCode : IsCode digits n) :
    n < 0x10000 := by
  rcases hCode with ⟨ha, hb, hc, hd⟩
  have hw := hexValue?_lt ha
  have hx := hexValue?_lt hb
  have hy := hexValue?_lt hc
  have hz := hexValue?_lt hd
  omega

theorem not_half_toNat (c : Char) :
    ¬ IsHigh c.toNat ∧ ¬ IsLow c.toNat := by
  have hValid : c.toNat.isValidChar := c.valid
  unfold IsHigh IsLow
  rcases hValid with hValid | hValid
  · omega
  · omega

/- Any other code point is that of a character. -/
theorem toNat_ofNat_of_not_half
    {n : Nat}
    (hLt : n < 0x10000)
    (hHigh : ¬ IsHigh n)
    (hLow : ¬ IsLow n) :
    (Char.ofNat n).toNat = n := by
  unfold IsHigh at hHigh
  unfold IsLow at hLow
  apply Utf8.toNat_ofNat
  unfold Nat.isValidChar
  omega

/- Two halves are a character. -/
theorem toNat_ofNat_joinHalves
    {high low : Nat}
    (hHigh : IsHigh high)
    (hLow : IsLow low) :
    (Char.ofNat (joinHalves high low)).toNat =
      joinHalves high low := by
  unfold IsHigh at hHigh
  unfold IsLow at hLow
  apply Utf8.toNat_ofNat
  unfold Nat.isValidChar joinHalves
  omega

------------------------------------------------------------
-- Characters Of Strings
------------------------------------------------------------

/- Read a character behind a backslash and a `u`. -/
def readEscape? (t : Text) : Option (Char × Text) := do
  let (n, t) ← readCode? t
  if IsHigh n then
    let t ← Text.stripPrefix? "\\u" t
    let (m, t) ← readCode? t
    if IsLow m then
      some (Char.ofNat (joinHalves n m), t)
    else
      none
  else if IsLow n then
    none
  else
    some (Char.ofNat n, t)

def readChar? : Text → Option (Char × Text)
  | '\\' :: 'u' :: t => readEscape? t
  | '\\' :: letter :: t =>
      (shortEscapes.lookup letter).map (·, t)
  | c :: t => if IsPlain c then some (c, t) else none
  | [] => none

/- What is read behind a backslash and a `u` is spelled so. -/
theorem spellsChar_of_readEscape?
    {t rest : Text}
    {c : Char}
    (hRead : readEscape? t = some (c, rest)) :
    ∃ digits,
      SpellsChar c ('\\' :: 'u' :: digits) ∧
        t = digits ++ rest := by
  unfold readEscape? at hRead
  rw [Option.bind_eq_bind, Option.bind_eq_some_iff] at hRead
  rcases hRead with ⟨⟨n, behind⟩, hCode, hRead⟩
  rcases (readCode?_eq_some_iff t n behind).mp hCode with
    ⟨digits, hDigits, rfl⟩
  dsimp only at hRead
  by_cases hHigh : IsHigh n
  · simp only [if_pos hHigh, Option.bind_eq_bind,
      Option.bind_eq_some_iff,
      Text.stripPrefix?_eq_some_iff] at hRead
    rcases hRead with
      ⟨other, rfl, ⟨m, last⟩, hOther, hRead⟩
    rcases (readCode?_eq_some_iff _ m last).mp hOther with
      ⟨others, hOthers, rfl⟩
    dsimp only at hRead
    by_cases hLow : IsLow m
    · simp only [if_pos hLow, Option.some.injEq,
        Prod.mk.injEq] at hRead
      rcases hRead with ⟨rfl, rfl⟩
      have hJoin := toNat_ofNat_joinHalves hHigh hLow
      refine
        ⟨digits ++ '\\' :: 'u' :: others,
          .halves hDigits hHigh hOthers hLow hJoin, ?_⟩
      simp
    · rw [if_neg hLow] at hRead
      cases hRead
  · by_cases hLow : IsLow n
    · rw [if_neg hHigh, if_pos hLow] at hRead
      cases hRead
    · simp only [if_neg hHigh, if_neg hLow,
        Option.some.injEq, Prod.mk.injEq] at hRead
      rcases hRead with ⟨rfl, rfl⟩
      have hSame :=
        toNat_ofNat_of_not_half hDigits.lt hHigh hLow
      refine ⟨digits, .code ?_, rfl⟩
      rwa [hSame]

/- What is read is a spelling in front of the rest. -/
theorem spellsChar_of_readChar?
    {t rest : Text}
    {c : Char}
    (hRead : readChar? t = some (c, rest)) :
    ∃ spelling,
      SpellsChar c spelling ∧ t = spelling ++ rest := by
  unfold readChar? at hRead
  split at hRead
  · rcases spellsChar_of_readEscape? hRead with
      ⟨digits, hSpells, rfl⟩
    exact ⟨_, hSpells, rfl⟩
  · rename_i letter behind _
    rw [Option.map_eq_some_iff] at hRead
    rcases hRead with ⟨found, hShort, hEq⟩
    cases hEq
    exact ⟨_, .short hShort, rfl⟩
  · split at hRead
    · rename_i hPlain
      cases hRead
      exact ⟨_, .plain hPlain, rfl⟩
    · cases hRead
  · cases hRead

theorem readChar?_plain
    {c : Char}
    (hPlain : IsPlain c)
    (rest : Text) :
    readChar? (c :: rest) = some (c, rest) := by
  rw [readChar?, if_pos hPlain]
  · exact fun _ hSlash _ => hPlain.2.2 hSlash
  · exact fun _ _ hSlash _ => hPlain.2.2 hSlash

/- A letter behind a backslash is. -/
theorem readChar?_short
    {letter c : Char}
    (hShort : shortEscapes.lookup letter = some c)
    (rest : Text) :
    readChar? ('\\' :: letter :: rest) = some (c, rest) := by
  have hNe : letter ≠ 'u' := by
    rintro rfl
    cases hShort
  rw [readChar?, hShort]
  · rfl
  · exact hNe

/- Four digits are, unless they are half of a character. -/
theorem readChar?_code
    {digits : Text}
    {c : Char}
    (hCode : IsCode digits c.toNat)
    (rest : Text) :
    readChar? ('\\' :: 'u' :: (digits ++ rest)) =
      some (c, rest) := by
  have hRead :
      readCode? (digits ++ rest) = some (c.toNat, rest) :=
    (readCode?_eq_some_iff _ _ _).mpr ⟨digits, hCode, rfl⟩
  rcases not_half_toNat c with ⟨hHigh, hLow⟩
  simp only [readChar?, readEscape?, hRead,
    Option.bind_eq_bind, Option.bind_some, if_neg hHigh,
    if_neg hLow, Char.ofNat_toNat]

/- Two halves are read as one character. -/
theorem readChar?_halves
    {digits others : Text}
    {high low : Nat}
    {c : Char}
    (hCode : IsCode digits high)
    (hHigh : IsHigh high)
    (hOther : IsCode others low)
    (hLow : IsLow low)
    (hJoin : c.toNat = joinHalves high low)
    (rest : Text) :
    readChar?
        ('\\' :: 'u' ::
          (digits ++ '\\' :: 'u' :: (others ++ rest))) =
      some (c, rest) := by
  have hFirst :
      readCode?
          (digits ++ '\\' :: 'u' :: (others ++ rest)) =
        some (high, '\\' :: 'u' :: (others ++ rest)) :=
    (readCode?_eq_some_iff _ _ _).mpr ⟨digits, hCode, rfl⟩
  have hMiddle :
      Text.stripPrefix? "\\u"
          ('\\' :: 'u' :: (others ++ rest)) =
        some (others ++ rest) :=
    Text.stripPrefix?_append _ _
  have hSecond :
      readCode? (others ++ rest) = some (low, rest) :=
    (readCode?_eq_some_iff _ _ _).mpr ⟨others, hOther, rfl⟩
  simp only [readChar?, readEscape?, hFirst, hMiddle,
    hSecond, Option.bind_eq_bind, Option.bind_some,
    if_pos hHigh, if_pos hLow, ← hJoin, Char.ofNat_toNat]

/- A character is read exactly where it is spelled. -/
theorem readChar?_eq_some_iff
    (t : Text)
    (c : Char)
    (rest : Text) :
    readChar? t = some (c, rest) ↔
      ∃ spelling,
        SpellsChar c spelling ∧ t = spelling ++ rest := by
  constructor
  · exact spellsChar_of_readChar?
  · rintro ⟨spelling, hSpells, rfl⟩
    cases hSpells with
    | plain hPlain => exact readChar?_plain hPlain rest
    | short hShort => exact readChar?_short hShort rest
    | code hCode => exact readChar?_code hCode rest
    | halves hCode hHigh hOther hLow hJoin =>
        have hRead :=
          readChar?_halves hCode hHigh hOther hLow hJoin rest
        simpa using hRead

theorem SpellsChar.ne_nil
    {c : Char}
    {spelling : Text}
    (hSpells : SpellsChar c spelling) :
    spelling ≠ [] := by
  cases hSpells <;> exact List.cons_ne_nil _ _

/- A quote in front of a character ends the string. -/
theorem SpellsChar.head_ne
    {c : Char}
    {spelling : Text}
    (hSpells : SpellsChar c spelling) :
    spelling.head? ≠ some '"' := by
  cases hSpells with
  | plain hPlain =>
      intro hEq
      exact hPlain.2.1 (Option.some.inj hEq)
  | short hShort => simp
  | code hCode => simp
  | halves hCode hHigh hOther hLow hJoin => simp

------------------------------------------------------------
-- Strings
------------------------------------------------------------

/- What is behind a character is shorter. -/
theorem length_lt_of_readChar?
    {t rest : Text}
    {c : Char}
    (hRead : readChar? t = some (c, rest)) :
    rest.length < t.length := by
  rcases (readChar?_eq_some_iff t c rest).mp hRead with
    ⟨spelling, hSpells, rfl⟩
  have hPos := List.length_pos_iff.mpr hSpells.ne_nil
  rw [List.length_append]
  omega

/- Read a string behind its first quote. -/
def readString? (t : Text) : Option (Text × Text) :=
  match t with
  | '"' :: rest => some ([], rest)
  | t =>
      match _h : readChar? t with
      | none => none
      | some (c, rest) =>
          (readString? rest).map
            fun (cs, rest) => (c :: cs, rest)
termination_by t.length
decreasing_by exact length_lt_of_readChar? _h

theorem readString?_quote (rest : Text) :
    readString? ('"' :: rest) = some ([], rest) := by
  rw [readString?]

/- A character in front of a string belongs to it. -/
theorem readString?_of_spells
    {c : Char}
    {spelling : Text}
    (hSpells : SpellsChar c spelling)
    (rest : Text) :
    readString? (spelling ++ rest) =
      (readString? rest).map
        fun (cs, rest) => (c :: cs, rest) := by
  have hRead :
      readChar? (spelling ++ rest) = some (c, rest) :=
    (readChar?_eq_some_iff _ c rest).mpr
      ⟨spelling, hSpells, rfl⟩
  rw [readString?.eq_def]
  split
  · rename_i behind hEq
    rcases spelling with _ | ⟨d, ds⟩
    · exact absurd rfl hSpells.ne_nil
    · have hHead := hSpells.head_ne
      rw [List.cons_append, List.cons.injEq] at hEq
      exact absurd (congrArg some hEq.1) hHead
  · split
    · rename_i hNone
      rw [hRead] at hNone
      cases hNone
    · rename_i hSome
      rw [hRead] at hSome
      cases hSome
      rfl

/- A string is read exactly where it is spelled. -/
theorem readString?_eq_some_iff
    (t cs rest : Text) :
    readString? t = some (cs, rest) ↔
      ∃ body,
        SpellsText cs body ∧ t = body ++ '"' :: rest := by
  constructor
  · intro hRead
    induction hLength : t.length using Nat.strongRecOn
      generalizing t cs with
    | ind n ih =>
        rw [readString?.eq_def] at hRead
        split at hRead
        · cases hRead
          exact ⟨[], .nil, rfl⟩
        · split at hRead
          · cases hRead
          · rename_i c behind hChar
            rw [Option.map_eq_some_iff] at hRead
            rcases hRead with ⟨⟨others, last⟩, hOthers, hEq⟩
            cases hEq
            have hShorter := length_lt_of_readChar? hChar
            rcases ih _ (hLength ▸ hShorter) behind others
                hOthers rfl with
              ⟨body, hBody, rfl⟩
            rcases (readChar?_eq_some_iff _ c _).mp hChar with
              ⟨spelling, hSpells, rfl⟩
            refine ⟨spelling ++ body, .cons hSpells hBody, ?_⟩
            rw [List.append_assoc]
  · rintro ⟨body, hSpells, rfl⟩
    induction hSpells with
    | nil => exact readString?_quote rest
    | cons hChar hRest ih =>
        rw [List.append_assoc, readString?_of_spells hChar,
          ih]
        rfl

end Json

end PageHeat
