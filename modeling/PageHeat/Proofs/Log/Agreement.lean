import PageHeat.Proofs.Log.Baseline
import PageHeat.Proofs.Log.Grammar

/-
  What the two readers of lines say of the same line.

  Both readers take a line by its commas, so a line belongs
  to one of five classes, and its class decides both
  answers. A line that holds nothing for one of them holds
  nothing for the other, and a record is a baseline line of
  the same page and tag. The readers part only at lines that
  lack a count.

  Key definitions include:
    * `ReadTwice`

  Key lemmas include:
    * `readTwice`
    * `readers_agree_on_lines`
-/

------------------------------------------------------------
-- Classes Of Lines
------------------------------------------------------------

namespace PageHeat

/-
  What a line is read as, first as a line of a baseline and
  then as one of a checkpoint, with a case for each class of
  lines.
-/
inductive ReadTwice (line : Text) :
    Except LineFault (Option BaselineEntry) →
      Except LineFault (Option AccessRecord) → Prop
  | blank
      (hBlank : line.IsBlank) :
      ReadTwice line (.ok none) (.ok none)
  | lone
      (hText : ¬ line.IsBlank)
      (hComma : line.count ',' = 0) :
      ReadTwice line
        (.error (.tooFewFields 2 1))
        (.error (.tooFewFields 3 1))
  | pair
      (hComma : line.count ',' = 1) :
      ReadTwice line
        (.ok (some ⟨fieldAt 0 line, fieldAt 1 line⟩))
        (.error (.tooFewFields 3 2))
  | uncounted
      (hCommas : 2 ≤ line.count ',')
      (hCount :
        ∀ n ≤ Count.limit,
          ¬ Decimal.IsNumeral (fieldAt 2 line) n) :
      ReadTwice line
        (.ok (some ⟨fieldAt 0 line, fieldAt 1 line⟩))
        (.error (.invalidCount (fieldAt 2 line)))
  | record
      (hCommas : 2 ≤ line.count ',')
      {n : Count}
      (hCount :
        Decimal.IsNumeral (fieldAt 2 line) n.toNat) :
      ReadTwice line
        (.ok (some ⟨fieldAt 0 line, fieldAt 1 line⟩))
        (.ok (some ⟨fieldAt 0 line, fieldAt 1 line, n⟩))

/- Every line belongs to a class, with both its answers. -/
theorem readTwice (line : Text) :
    ReadTwice line (readBaselineLine line)
      (readCheckpointLine line) := by
  by_cases hMany : 2 ≤ line.count ','
  · have hSome : 1 ≤ line.count ',' :=
      Nat.le_trans (by decide) hMany
    rw [readBaselineLine_of_comma hSome]
    cases hCount : readCount? (fieldAt 2 line) with
    | none =>
        rw [readCheckpointLine_of_noCount hMany hCount]
        exact .uncounted hMany
          ((readCount?_eq_none_iff _).mp hCount)
    | some n =>
        rw [readCheckpointLine_of_count hMany hCount]
        exact .record hMany
          ((readCount?_eq_some_iff _ n).mp hCount)
  · have hFew : line.count ',' < 2 := by omega
    by_cases hComma : line.count ',' = 0
    · have hNone : ',' ∉ line := List.count_eq_zero.mp hComma
      rw [readBaselineLine_of_noComma hNone]
      by_cases hBlank : line.IsBlank
      · rw [if_pos hBlank,
          readCheckpointLine_of_isBlank hBlank]
        exact .blank hBlank
      · rw [if_neg hBlank,
          readCheckpointLine_of_fewFields hBlank hFew, hComma]
        exact .lone hBlank hComma
    · have hOne : line.count ',' = 1 := by omega
      have hText : ¬ line.IsBlank := fun hBlank =>
        hComma (count_comma_of_isBlank hBlank)
      rw [readBaselineLine_of_comma (Nat.le_of_eq hOne.symm),
        readCheckpointLine_of_fewFields hText hFew, hOne]
      exact .pair hOne

------------------------------------------------------------
-- Agreement
------------------------------------------------------------

/-
  A line holds nothing for one reader exactly if it does for
  the other. A record of a checkpoint is a baseline line of
  the same page and tag. A baseline line is rejected only
  for its single field, and a checkpoint line then is too.
  If only the checkpoint line is rejected, it has a single
  comma, or two and a third field that is no numeral of a
  counter.
-/
theorem readers_agree_on_lines (line : Text) :
    (readCheckpointLine line = .ok none ↔
      readBaselineLine line = .ok none) ∧
    (∀ r,
      readCheckpointLine line = .ok (some r) →
      readBaselineLine line =
        .ok (some ⟨r.pageId, r.tag⟩)) ∧
    (∀ fault,
      readBaselineLine line = .error fault →
      fault = .tooFewFields 2 1 ∧
        readCheckpointLine line =
          .error (.tooFewFields 3 1)) ∧
    ∀ entry fault,
      readBaselineLine line = .ok (some entry) →
      readCheckpointLine line = .error fault →
      (line.count ',' = 1 ∧ fault = .tooFewFields 3 2) ∨
        (2 ≤ line.count ',' ∧
          fault = .invalidCount (fieldAt 2 line) ∧
          ∀ n ≤ Count.limit,
            ¬ Decimal.IsNumeral (fieldAt 2 line) n) := by
  have hTwice := readTwice line
  generalize readBaselineLine line = first at hTwice ⊢
  generalize readCheckpointLine line = second at hTwice ⊢
  cases hTwice with
  | blank hBlank => simp
  | lone hText hComma =>
      refine ⟨by simp, by simp, ?_, by simp⟩
      rintro fault ⟨⟩
      exact ⟨rfl, rfl⟩
  | pair hComma =>
      refine ⟨by simp, by simp, by simp, ?_⟩
      rintro entry fault - ⟨⟩
      exact .inl ⟨hComma, rfl⟩
  | uncounted hCommas hCount =>
      refine ⟨by simp, by simp, by simp, ?_⟩
      rintro entry fault - ⟨⟩
      exact .inr ⟨hCommas, rfl, hCount⟩
  | record hCommas hCount =>
      refine ⟨by simp, ?_, by simp, by simp⟩
      rintro r ⟨⟩
      rfl

/-
  A record with blanks around its fields, a line without
  comma, and a count that is too large by one.
-/
theorem readers_agree_on_sample_lines :
    readBaselineLine " p ,\tx, +7 ,q\n" =
      .ok (some ⟨"p", "x"⟩) ∧
    readCheckpointLine "p;x;7" =
      .error (.tooFewFields 3 1) ∧
    ∀ n ≤ Count.limit,
      ¬ Decimal.IsNumeral "18446744073709551616" n := by
  refine ⟨?_, ?_, ?_⟩
  · exact
      (readers_agree_on_lines " p ,\tx, +7 ,q\n").2.1
        ⟨"p", "x", 7⟩ rfl
  · exact
      ((readers_agree_on_lines "p;x;7").2.2.1
        (.tooFewFields 2 1) rfl).2
  · have hLine :=
      (readers_agree_on_lines
          "p,x,18446744073709551616").2.2.2
        ⟨"p", "x"⟩ (.invalidCount "18446744073709551616")
        rfl rfl
    rcases hLine with hOne | hTwo
    · exact absurd hOne.1 (by decide)
    · exact hTwo.2.2

end PageHeat
