import PageHeat.Proofs.Log.Line

/-
  The grammar of checkpoint lines.

  A line with two commas has three columns: the texts in
  front of, between and behind these commas, the last one up
  to a third comma. Whether it is a record is decided by the
  third column alone. A line with fewer commas is blank or
  has too few fields.

  Key definitions include:
    * `HasColumns`

  Key lemmas include:
    * `exists_columns`
    * `HasColumns.readCheckpointLine_eq`
    * `readCheckpointLine_append_comma`
    * `readCheckpointLine_follows_grammar`
-/

------------------------------------------------------------
-- Columns
------------------------------------------------------------

namespace PageHeat

/-
  A line of three columns between commas. Behind the third
  one the line ends, or a comma and anything else follows.
-/
inductive HasColumns : Text → Text → Text → Text → Prop
  | columns
      {first second third surplus : Text}
      (hFirst : ',' ∉ first)
      (hSecond : ',' ∉ second)
      (hThird : ',' ∉ third)
      (hSurplus :
        surplus = [] ∨ ∃ more, surplus = ',' :: more) :
      HasColumns
        (first ++ ',' :: (second ++ ',' :: (third ++ surplus)))
        first second third

namespace HasColumns

variable {line first second third : Text}

/- The columns of a line are trimmed to its first fields. -/
theorem fields_eq
    (hColumns : HasColumns line first second third) :
    ∃ others,
      fields line =
        Text.trim first :: Text.trim second ::
          Text.trim third :: others := by
  rcases hColumns with ⟨hFirst, hSecond, hThird, hSurplus⟩
  rcases hSurplus with rfl | ⟨more, rfl⟩
  · refine ⟨[], ?_⟩
    rw [List.append_nil, fields_append_comma,
      fields_append_comma, fields_of_notMem hFirst,
      fields_of_notMem hSecond, fields_of_notMem hThird]
    rfl
  · refine ⟨fields more, ?_⟩
    rw [fields_append_comma, fields_append_comma,
      fields_append_comma, fields_of_notMem hFirst,
      fields_of_notMem hSecond, fields_of_notMem hThird]
    rfl

theorem two_commas
    (hColumns : HasColumns line first second third) :
    2 ≤ line.count ',' := by
  rcases hColumns.fields_eq with ⟨others, hFields⟩
  have hLength := length_fields line
  rw [hFields] at hLength
  simp only [List.length_cons] at hLength
  omega

/- A line of three columns is read by its third column. -/
theorem readCheckpointLine_eq
    (hColumns : HasColumns line first second third) :
    readCheckpointLine line =
      match readCount? (Text.trim third) with
      | some n =>
          .ok (some ⟨Text.trim first, Text.trim second, n⟩)
      | none => .error (.invalidCount (Text.trim third)) := by
  rcases hColumns.fields_eq with ⟨others, hFields⟩
  have hText := not_isBlank_of_two_commas hColumns.two_commas
  cases hCount : readCount? (Text.trim third) with
  | none =>
      simp only [readCheckpointLine, if_neg hText, hFields,
        hCount]
  | some n => exact readCheckpointLine_of_fields hFields hCount

/- The line is a record if its third column is a numeral. -/
theorem readCheckpointLine_eq_record_iff
    (hColumns : HasColumns line first second third)
    (r : AccessRecord) :
    readCheckpointLine line = .ok (some r) ↔
      r.pageId = Text.trim first ∧
        r.tag = Text.trim second ∧
        Decimal.IsNumeral (Text.trim third) r.count.toNat := by
  rw [hColumns.readCheckpointLine_eq,
    ← readCount?_eq_some_iff]
  rcases r with ⟨pageId, tag, count⟩
  cases readCount? (Text.trim third) with
  | none => simp
  | some n => simp [eq_comm]

/- The line is malformed if its third column is none. -/
theorem readCheckpointLine_eq_error_iff
    (hColumns : HasColumns line first second third)
    (fault : LineFault) :
    readCheckpointLine line = .error fault ↔
      fault = .invalidCount (Text.trim third) ∧
        ∀ n ≤ Count.limit,
          ¬ Decimal.IsNumeral (Text.trim third) n := by
  rw [hColumns.readCheckpointLine_eq,
    ← readCount?_eq_none_iff]
  cases readCount? (Text.trim third) with
  | none => simp [eq_comm]
  | some n => simp

end HasColumns

/- A line with two commas has three columns. -/
theorem exists_columns
    {line : Text}
    (hCommas : 2 ≤ line.count ',') :
    ∃ first second third,
      HasColumns line first second third := by
  have hMem : ',' ∈ line :=
    List.count_pos_iff.mp (by omega)
  rcases List.eq_append_cons_of_mem hMem with
    ⟨first, behind, rfl, hFirst⟩
  rw [List.count_append, List.count_cons_self,
    List.count_eq_zero.mpr hFirst] at hCommas
  have hMem' : ',' ∈ behind :=
    List.count_pos_iff.mp (by omega)
  rcases List.eq_append_cons_of_mem hMem' with
    ⟨second, rest, rfl, hSecond⟩
  refine ⟨first, second, ?_⟩
  -- the third column ends at the next comma, if there is one
  by_cases hMore : ',' ∈ rest
  · rcases List.eq_append_cons_of_mem hMore with
      ⟨third, more, rfl, hThird⟩
    exact
      ⟨third,
        .columns hFirst hSecond hThird (.inr ⟨more, rfl⟩)⟩
  · have hColumns :=
      HasColumns.columns hFirst hSecond hMore (.inl rfl)
    rw [List.append_nil] at hColumns
    exact ⟨rest, hColumns⟩

------------------------------------------------------------
-- Lines
------------------------------------------------------------

/- A line holds nothing exactly if it is blank. -/
theorem readCheckpointLine_eq_none_iff (line : Text) :
    readCheckpointLine line = .ok none ↔ line.IsBlank := by
  constructor
  · intro hNone
    unfold readCheckpointLine at hNone
    split at hNone
    · assumption
    · split at hNone
      · split at hNone
        · cases hNone
        · cases hNone
      · cases hNone
  · exact readCheckpointLine_of_isBlank

/-
  A line has too few fields exactly if it is not blank and
  has fewer than two commas. The fault tells their number.
-/
theorem readCheckpointLine_eq_tooFew_iff
    (line : Text)
    (expected found : Nat) :
    readCheckpointLine line =
        .error (.tooFewFields expected found) ↔
      ¬ line.IsBlank ∧ line.count ',' < 2 ∧
        expected = 3 ∧ found = line.count ',' + 1 := by
  by_cases hBlank : line.IsBlank
  · rw [readCheckpointLine_of_isBlank hBlank]
    simp [hBlank]
  · by_cases hCommas : 2 ≤ line.count ','
    · rcases exists_columns hCommas with
        ⟨first, second, third, hColumns⟩
      rw [hColumns.readCheckpointLine_eq]
      have hMany : ¬ line.count ',' < 2 := by omega
      split
      · simp [hMany]
      · simp [hMany]
    · have hFew : line.count ',' < 2 := by omega
      rw [readCheckpointLine_of_fewFields hBlank hFew]
      simp [hBlank, hFew, eq_comm]

/- Behind a third comma nothing is looked at. -/
theorem readCheckpointLine_append_comma
    {line : Text}
    (hCommas : 2 ≤ line.count ',')
    (more : Text) :
    readCheckpointLine (line ++ ',' :: more) =
      readCheckpointLine line := by
  rcases fields_of_two_commas hCommas with
    ⟨others, hFields⟩
  have hLonger : 2 ≤ (line ++ ',' :: more).count ',' := by
    rw [List.count_append]
    omega
  unfold readCheckpointLine
  rw [if_neg (not_isBlank_of_two_commas hCommas),
    if_neg (not_isBlank_of_two_commas hLonger),
    fields_append_comma, hFields]
  rfl

------------------------------------------------------------
-- The Grammar
------------------------------------------------------------

/-
  What every line is read as. It holds nothing if all its
  characters are blanks. Otherwise, with fewer than two
  commas it has too few fields, one more than commas; and
  with two commas it has three columns, which are a record
  if the third one, trimmed, is a numeral below the 64th
  power of two, and a fault with this column if not. What is
  behind a third comma does not matter.
-/
theorem readCheckpointLine_follows_grammar (line : Text) :
    (readCheckpointLine line = .ok none ↔
      ∀ c ∈ line, Text.isBlank c = true) ∧
    (∀ expected found,
      readCheckpointLine line =
          .error (.tooFewFields expected found) ↔
        (∃ c ∈ line, Text.isBlank c = false) ∧
          line.count ',' < 2 ∧
          expected = 3 ∧ found = line.count ',' + 1) ∧
    (2 ≤ line.count ',' ↔
      ∃ first second third,
        HasColumns line first second third) ∧
    ∀ first second third,
      HasColumns line first second third →
      (∀ r : AccessRecord,
        readCheckpointLine line = .ok (some r) ↔
          r.pageId = Text.trim first ∧
            r.tag = Text.trim second ∧
            Decimal.IsNumeral (Text.trim third)
              r.count.toNat) ∧
      (∀ fault,
        readCheckpointLine line = .error fault ↔
          fault = .invalidCount (Text.trim third) ∧
            ∀ n < Nat.pow 2 64,
              ¬ Decimal.IsNumeral (Text.trim third) n) ∧
      ∀ more,
        readCheckpointLine (line ++ ',' :: more) =
          readCheckpointLine line := by
  have hBlank :
      line.IsBlank ↔ ∀ c ∈ line, Text.isBlank c = true :=
    List.all_eq_true
  have hText :
      ¬ line.IsBlank ↔ ∃ c ∈ line, Text.isBlank c = false := by
    rw [hBlank]
    simp only [Classical.not_forall, Bool.not_eq_true,
      exists_prop]
  have hLimit (n : Nat) :
      n < Nat.pow 2 64 ↔ n ≤ Count.limit :=
    Nat.lt_succ_iff
  refine ⟨?_, ?_, ?_, ?_⟩
  · rw [← hBlank]
    exact readCheckpointLine_eq_none_iff line
  · intro expected found
    rw [← hText]
    exact readCheckpointLine_eq_tooFew_iff line expected found
  · constructor
    · exact exists_columns
    · rintro ⟨first, second, third, hColumns⟩
      exact hColumns.two_commas
  · intro first second third hColumns
    simp only [hLimit]
    exact
      ⟨hColumns.readCheckpointLine_eq_record_iff,
        hColumns.readCheckpointLine_eq_error_iff,
        readCheckpointLine_append_comma hColumns.two_commas⟩

/- A count with a sign and zeros, and more behind it. -/
theorem readCheckpointLine_follows_grammar_sample :
    HasColumns "p, x ,+007,q" "p" " x " "+007" ∧
      readCheckpointLine "p, x ,+007,q" =
        .ok (some ⟨"p", "x", 7⟩) := by
  have hColumns :
      HasColumns "p, x ,+007,q" "p" " x " "+007" :=
    @HasColumns.columns "p" " x " "+007" ",q" (by decide)
      (by decide) (by decide) (.inr ⟨"q", rfl⟩)
  refine ⟨hColumns, ?_⟩
  have hMain :=
    (readCheckpointLine_follows_grammar "p, x ,+007,q").2.2.2
      _ _ _ hColumns
  rw [hMain.1]
  refine ⟨by decide +kernel, by decide +kernel, ?_⟩
  refine .inr ⟨"007", by decide +kernel, ?_⟩
  have hDigits : ("007".toList.all Char.isDigit) = true := by
    decide +kernel
  exact
    ⟨by decide, List.all_eq_true.mp hDigits,
      by decide +kernel⟩

end PageHeat
