import PageHeat.Log.Line
import PageHeat.Proofs.Text.Decimal
import PageHeat.Proofs.Text.Fields

/-
  What checkpoint lines are read as.

  A line is blank, has too few fields, or has a third field
  that is read as a count. The fields are looked up by
  their place, without splitting the line.

  Key definitions include:
    * `fieldAt`

  Key lemmas include:
    * `readCount?_eq_some_iff`
    * `readCheckpointLine_of_isBlank`
    * `readCheckpointLine_of_fewFields`
    * `readCheckpointLine_of_count`
-/

------------------------------------------------------------
-- Fields
------------------------------------------------------------

namespace PageHeat

/- The field behind a number of commas. -/
def fieldAt (n : Nat) (line : Text) : Text :=
  Text.trim (Text.pieceAt ',' n line)

theorem length_fields (line : Text) :
    (fields line).length = line.count ',' + 1 := by
  rw [fields, List.length_map, Text.length_splitOn]

theorem fields_of_notMem
    {t : Text}
    (hComma : ',' ∉ t) :
    fields t = [Text.trim t] := by
  rw [fields, Text.splitOn_of_notMem hComma,
    List.map_singleton]

theorem fields_append_comma (front back : Text) :
    fields (front ++ ',' :: back) =
      fields front ++ fields back := by
  rw [fields, Text.splitOn_append, List.map_append]
  rfl

/- The fields of a line are those that are looked up. -/
theorem getElem?_fields
    (line : Text)
    (n : Nat) :
    (fields line)[n]? =
      if n ≤ line.count ',' then some (fieldAt n line)
      else none := by
  rw [fields, List.getElem?_map, Text.getElem?_splitOn]
  split
  · rfl
  · rfl

/- A line with two commas has three fields in front. -/
theorem fields_of_two_commas
    {line : Text}
    (hCommas : 2 ≤ line.count ',') :
    ∃ others,
      fields line =
        fieldAt 0 line :: fieldAt 1 line ::
          fieldAt 2 line :: others := by
  have hAt (n : Nat) (hLe : n ≤ 2) :
      (fields line)[n]? = some (fieldAt n line) := by
    rw [getElem?_fields, if_pos (Nat.le_trans hLe hCommas)]
  have h₀ := hAt 0 (by decide)
  have h₁ := hAt 1 (by decide)
  have h₂ := hAt 2 (by decide)
  match hFields : fields line with
  | [] => simp [hFields] at h₀
  | [_] => simp [hFields] at h₁
  | [_, _] => simp [hFields] at h₂
  | a :: b :: c :: others =>
      simp only [hFields, List.getElem?_cons_zero,
        List.getElem?_cons_succ, Option.some.injEq]
        at h₀ h₁ h₂
      exact ⟨others, by rw [h₀, h₁, h₂]⟩

theorem count_comma_of_isBlank
    {line : Text}
    (hBlank : line.IsBlank) :
    line.count ',' = 0 := by
  apply List.count_eq_zero.mpr
  intro hMem
  have hComma := List.all_eq_true.mp hBlank ',' hMem
  exact absurd hComma (by decide)

------------------------------------------------------------
-- Counts
------------------------------------------------------------

theorem Count.toNat_le_limit (n : Count) :
    n.toNat ≤ Count.limit := by
  have hLt : n.toNat < UInt64.size := n.toNat_lt
  rw [Count.limit]
  omega

theorem Count.toNat_ofNat
    {n : Nat}
    (hLe : n ≤ Count.limit) :
    (UInt64.ofNat n).toNat = n := by
  have hLt : n < UInt64.size :=
    Nat.lt_of_le_of_lt hLe (by decide)
  exact UInt64.toNat_ofNat_of_lt' hLt

/- A field is read as a counter if it is its numeral. -/
theorem readCount?_eq_some_iff
    (field : Text)
    (n : Count) :
    readCount? field = some n ↔
      Decimal.IsNumeral field n.toNat := by
  unfold readCount?
  split
  · rename_i m hRead
    rcases (Decimal.readNatural_eq_ok_iff _ _ _).mp hRead with
      ⟨hNumeral, hLe⟩
    rw [Option.some.injEq]
    constructor
    · rintro rfl
      rwa [Count.toNat_ofNat hLe]
    · intro hOther
      rw [hNumeral.unique hOther, UInt64.ofNat_toNat]
  · rename_i fault hRead
    constructor
    · intro hEq
      cases hEq
    · intro hNumeral
      have hOk :=
        (Decimal.readNatural_eq_ok_iff Count.limit field
          n.toNat).mpr ⟨hNumeral, n.toNat_le_limit⟩
      rw [hRead] at hOk
      cases hOk

/- A field is refused if it is no numeral of a counter. -/
theorem readCount?_eq_none_iff (field : Text) :
    readCount? field = none ↔
      ∀ n ≤ Count.limit, ¬ Decimal.IsNumeral field n := by
  rw [Option.eq_none_iff_forall_ne_some]
  constructor
  · intro hNone n hLe hNumeral
    apply hNone (UInt64.ofNat n)
    rw [readCount?_eq_some_iff, Count.toNat_ofNat hLe]
    exact hNumeral
  · intro hNone n hSome
    exact hNone n.toNat n.toNat_le_limit
      ((readCount?_eq_some_iff field n).mp hSome)

------------------------------------------------------------
-- Checkpoint Lines
------------------------------------------------------------

theorem readCheckpointLine_of_isBlank
    {line : Text}
    (hBlank : line.IsBlank) :
    readCheckpointLine line = .ok none := by
  rw [readCheckpointLine, if_pos hBlank]

/- A line with less than two commas has too few fields. -/
theorem readCheckpointLine_of_fewFields
    {line : Text}
    (hText : ¬ line.IsBlank)
    (hCommas : line.count ',' < 2) :
    readCheckpointLine line =
      .error (.tooFewFields 3 (line.count ',' + 1)) := by
  have hLength := length_fields line
  rw [readCheckpointLine, if_neg hText]
  split
  · rename_i hFields
    rw [hFields] at hLength
    simp only [List.length_cons] at hLength
    omega
  · rw [hLength]

theorem not_isBlank_of_two_commas
    {line : Text}
    (hCommas : 2 ≤ line.count ',') :
    ¬ line.IsBlank := by
  intro hBlank
  rw [count_comma_of_isBlank hBlank] at hCommas
  exact absurd hCommas (by decide)

/- Of a line with three fields the third one is counted. -/
theorem readCheckpointLine_of_fields
    {line pageId tag field : Text}
    {others : List Text}
    (hFields :
      fields line = pageId :: tag :: field :: others)
    {count : Count}
    (hCount : readCount? field = some count) :
    readCheckpointLine line =
      .ok (some ⟨pageId, tag, count⟩) := by
  have hText : ¬ line.IsBlank := by
    have hLength := length_fields line
    rw [hFields] at hLength
    simp only [List.length_cons] at hLength
    exact not_isBlank_of_two_commas (by omega)
  simp only [readCheckpointLine, if_neg hText, hFields,
    hCount]

/- Of a line with two commas the third field is counted. -/
theorem readCheckpointLine_of_count
    {line : Text}
    (hCommas : 2 ≤ line.count ',')
    {count : Count}
    (hCount : readCount? (fieldAt 2 line) = some count) :
    readCheckpointLine line =
      .ok
        (some ⟨fieldAt 0 line, fieldAt 1 line, count⟩) := by
  rcases fields_of_two_commas hCommas with
    ⟨others, hFields⟩
  exact readCheckpointLine_of_fields hFields hCount

/- A line is malformed if its third field is no count. -/
theorem readCheckpointLine_of_noCount
    {line : Text}
    (hCommas : 2 ≤ line.count ',')
    (hCount : readCount? (fieldAt 2 line) = none) :
    readCheckpointLine line =
      .error (.invalidCount (fieldAt 2 line)) := by
  rcases fields_of_two_commas hCommas with
    ⟨others, hFields⟩
  simp only [readCheckpointLine,
    if_neg (not_isBlank_of_two_commas hCommas), hFields,
    hCount]

end PageHeat
