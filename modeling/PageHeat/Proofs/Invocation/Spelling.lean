import PageHeat.Invocation.Reader
import PageHeat.Proofs.Text.Decimal

/-
  How options and their values are spelled.

  An option with a value has up to four spellings. Whatever
  the spelling, taking its arguments comes to accepting the
  option with the value, and accepting it puts the value
  where it belongs and nothing anywhere else.

  Key definitions include:
    * `Choices.Gives`
    * `OptionName.Spells`
    * `Choices.only`

  Key lemmas include:
    * `Decimal.readInteger_of_isNumeral`
    * `Invocation.setValue_only`
    * `Invocation.Progress.take_long`
    * `Invocation.Progress.take_attached`
    * `Invocation.Progress.take_letter`
-/

------------------------------------------------------------
-- Values
------------------------------------------------------------

namespace PageHeat

/-
  An option that is chosen, and a text of its value. A
  number may be any numeral of it.
-/
inductive Choices.Gives
    (c : Choices) : OptionName → Text → Prop
  | filter {value : Text}
      (hChosen : c.filter = some value) :
      Gives c .filter value
  | outputDir {value : Text}
      (hChosen : c.outputDir = some value) :
      Gives c .outputDir value
  | baseline {value : Text}
      (hChosen : c.baseline = some value) :
      Gives c .baseline value
  | checkpoints {n : UInt32} {value : Text}
      (hChosen : c.checkpoints = some n)
      (hValue : Decimal.IsNumeral value n.toNat) :
      Gives c .checkpoints value
  | step {n : UInt64} {value : Text}
      (hChosen : c.stepMillions = some n)
      (hValue : Decimal.IsNumeral value n.toNat) :
      Gives c .step value
  | missing {policy : MissingPolicy}
      (hChosen : c.missing = some policy) :
      Gives c .missing policy.name
  | format {format : LineFormat}
      (hChosen : c.format = some format) :
      Gives c .format format.name
  | jobs {n : UInt64} {value : Text}
      (hChosen : c.jobs = some n)
      (hValue : Decimal.IsNumeral value n.toNat) :
      Gives c .jobs value
  | config {value : Text}
      (hChosen : c.config = some value) :
      Gives c .config value
  | reportJson {value : Text}
      (hChosen : c.reportJson = some value) :
      Gives c .reportJson value

theorem Choices.Gives.takesValue
    {c : Choices}
    {o : OptionName}
    {value : Text}
    (hGives : c.Gives o value) :
    o.takesValue = true := by
  cases hGives <;> rfl

/-
  The arguments that spell an option with its value. If the
  value is an argument of its own, it may not start with a
  dash. Behind a letter, an equals sign in front of it would
  be taken for a separator.
-/
inductive OptionName.Spells
    (o : OptionName)
    (value : Text) : List Text → Prop
  | attached :
      o.Spells value
        ['-' :: '-' :: (o.long ++ '=' :: value)]
  | apart
      (hDash : value.head? ≠ some '-') :
      o.Spells value ['-' :: '-' :: o.long, value]
  | letter {letter : Char}
      (hLetter : o.short? = some letter)
      (hDash : value.head? ≠ some '-') :
      o.Spells value [['-', letter], value]
  | letterAttached {letter : Char}
      (hLetter : o.short? = some letter)
      (hSome : value ≠ [])
      (hEquals : value.head? ≠ some '=') :
      o.Spells value ['-' :: letter :: value]

------------------------------------------------------------
-- Reading Values
------------------------------------------------------------

/- A numeral within the limit is read as an integer. -/
theorem Decimal.readInteger_of_isNumeral
    {t : Text}
    {n above : Nat}
    (hNumeral : IsNumeral t n)
    (hLe : n ≤ above)
    (below : Nat) :
    readInteger below above t = .ok (n : Int) := by
  have hRead (digits : Text) (hDigits : IsDigits digits n) :
      readUnsigned above .tooLarge digits = .ok n :=
    (readUnsigned_eq_ok_iff above .tooLarge digits n).mpr
      ⟨hDigits, hLe⟩
  rcases hNumeral with hDigits | ⟨digits, rfl, hDigits⟩
  · unfold readInteger
    split
    · exact absurd rfl hDigits.1
    · exact absurd hDigits (not_isDigits_plus _ n)
    · have hMinus : ('-').isDigit = true :=
        hDigits.2.1 '-' List.mem_cons_self
      exact absurd hMinus (by decide)
    · rw [hRead _ hDigits]
      rfl
  · rw [readInteger, hRead digits hDigits]
    rfl

namespace Invocation

theorem readPath_of_ne_nil
    (label : Text)
    {value : Text}
    (hSome : value ≠ []) :
    readPath label value = .ok value := by
  cases value with
  | nil => exact absurd rfl hSome
  | cons c rest => rfl

/- A numeral of a short number is read as it. -/
theorem readShortNumber_of_isNumeral
    (label : Text)
    {value : Text}
    {n : UInt32}
    (hValue : Decimal.IsNumeral value n.toNat) :
    readShortNumber label value = .ok n := by
  have hLt : n.toNat < UInt32.size := n.toNat_lt
  have hLe : n.toNat ≤ Decimal.signedReach - 1 := by
    rw [Decimal.signedReach]
    rw [UInt32.size] at hLt
    omega
  have hRange : 0 ≤ (n.toNat : Int) ∧
      (n.toNat : Int) < UInt32.size := by
    omega
  simp only [readShortNumber,
    Decimal.readInteger_of_isNumeral hValue hLe,
    if_pos hRange, Int.toNat_natCast, UInt32.ofNat_toNat]

/- A numeral of a long number is read as it. -/
theorem readLongNumber_of_isNumeral
    (label : Text)
    {value : Text}
    {n : UInt64}
    (hValue : Decimal.IsNumeral value n.toNat) :
    readLongNumber label value = .ok n := by
  have hLt : n.toNat < UInt64.size := n.toNat_lt
  have hLe : n.toNat ≤ UInt64.size - 1 := by omega
  have hRead :=
    (Decimal.readNatural_eq_ok_iff (UInt64.size - 1) value
      n.toNat).mpr ⟨hValue, hLe⟩
  simp only [readLongNumber, hRead, UInt64.ofNat_toNat]

theorem readChoice_missing
    (label : Text)
    (policy : MissingPolicy) :
    readChoice MissingPolicy.names label policy.name =
      .ok policy := by
  cases policy <;> rfl

theorem readChoice_format
    (label : Text)
    (format : LineFormat) :
    readChoice LineFormat.names label format.name =
      .ok format := by
  cases format <;> rfl

end Invocation

------------------------------------------------------------
-- Some Of The Choices
------------------------------------------------------------

/- What is chosen by some of the options. -/
def Choices.only
    (c : Choices)
    (p : OptionName → Bool) : Choices where
  filter := if p .filter then c.filter else none
  outputDir := if p .outputDir then c.outputDir else none
  baseline := if p .baseline then c.baseline else none
  checkpoints :=
    if p .checkpoints then c.checkpoints else none
  stepMillions := if p .step then c.stepMillions else none
  missing := if p .missing then c.missing else none
  format := if p .format then c.format else none
  jobs := if p .jobs then c.jobs else none
  config := if p .config then c.config else none
  reportJson := if p .reportJson then c.reportJson else none
  debug := p .debug && c.debug

def OptionName.oneMore
    (p : OptionName → Bool)
    (o : OptionName) : OptionName → Bool :=
  fun other => p other || decide (other = o)

namespace Invocation

variable {c : Choices}
variable {p : OptionName → Bool}
variable {o : OptionName}

theorem isGiven_only
    (c : Choices)
    (hOut : p o = false) :
    isGiven (c.only p) o = false := by
  cases o <;> simp [isGiven, Choices.only, hOut]

/- The paths among the choices are not empty. -/
structure HasPaths (c : Choices) : Prop where
  outputDir : c.outputDir ≠ some []
  config : c.config ≠ some []
  reportJson : c.reportJson ≠ some []

/- Giving an option its value adds it to the others. -/
theorem setValue_only
    (hPaths : HasPaths c)
    {value : Text}
    (hGives : c.Gives o value) :
    setValue (c.only p) o value =
      .ok (c.only (OptionName.oneMore p o)) := by
  have hPath (path : Option Text)
      (hSome : path ≠ some [])
      (hChosen : path = some value)
      (label : Text) :
      readPath label value = .ok value := by
    apply readPath_of_ne_nil
    rintro rfl
    exact hSome hChosen
  cases hGives with
  | filter hChosen =>
      simp [setValue, Choices.only, OptionName.oneMore, hChosen]
  | baseline hChosen =>
      simp [setValue, Choices.only, OptionName.oneMore, hChosen]
  | outputDir hChosen =>
      simp [setValue, Choices.only, OptionName.oneMore, hChosen,
        hPath _ hPaths.outputDir hChosen, Except.map]
  | config hChosen =>
      simp [setValue, Choices.only, OptionName.oneMore, hChosen,
        hPath _ hPaths.config hChosen, Except.map]
  | reportJson hChosen =>
      simp [setValue, Choices.only, OptionName.oneMore, hChosen,
        hPath _ hPaths.reportJson hChosen, Except.map]
  | checkpoints hChosen hValue =>
      simp [setValue, Choices.only, OptionName.oneMore, hChosen,
        readShortNumber_of_isNumeral _ hValue, Except.map]
  | step hChosen hValue =>
      simp [setValue, Choices.only, OptionName.oneMore, hChosen,
        readLongNumber_of_isNumeral _ hValue, Except.map]
  | jobs hChosen hValue =>
      simp [setValue, Choices.only, OptionName.oneMore, hChosen,
        readLongNumber_of_isNumeral _ hValue, Except.map]
  | missing hChosen =>
      simp [setValue, Choices.only, OptionName.oneMore, hChosen,
        readChoice_missing, Except.map]
  | format hChosen =>
      simp [setValue, Choices.only, OptionName.oneMore, hChosen,
        readChoice_format, Except.map]

------------------------------------------------------------
-- Taking Arguments
------------------------------------------------------------

namespace Progress

variable {q : Progress}

/- A long name is taken as its option. -/
theorem take_long
    (hPlain : q.plain = false)
    (o : OptionName) :
    q.take ('-' :: '-' :: o.long) = q.takeOption o none := by
  unfold take
  rw [hPlain]
  cases o <;> rfl

/- So it is with a value behind an equals sign. -/
theorem take_attached
    (hPlain : q.plain = false)
    (o : OptionName)
    (value : Text) :
    q.take ('-' :: '-' :: (o.long ++ '=' :: value)) =
      q.takeOption o (some value) := by
  unfold take
  rw [hPlain]
  cases o <;> rfl

/- A letter is taken as the option that takes a value. -/
theorem take_letter
    (hPlain : q.plain = false)
    (hTakes : o.takesValue = true)
    {letter : Char}
    (hLetter : o.short? = some letter)
    (rest : Text) :
    q.take ('-' :: letter :: rest) =
      q.takeOption o (attachedTo rest) := by
  unfold take
  rw [hPlain]
  cases o with
  | filter => cases hLetter; rfl
  | outputDir => cases hLetter; rfl
  | jobs => cases hLetter; rfl
  | help => cases hTakes
  | version => cases hTakes
  | _ => cases hLetter

/- A value behind a letter is attached to it. -/
theorem attachedTo_of_head
    {value : Text}
    (hSome : value ≠ [])
    (hEquals : value.head? ≠ some '=') :
    attachedTo value = some value := by
  unfold attachedTo
  split
  · exact absurd rfl hSome
  · exact absurd rfl hEquals
  · rfl

/- An argument without a dash in front is taken as a value. -/
theorem take_value
    (hPlain : q.plain = false)
    {value : Text}
    (hDash : value.head? ≠ some '-') :
    q.take value = q.takeValue value := by
  unfold take
  rw [hPlain]
  cases value with
  | nil => rfl
  | cons c rest =>
      have hNe : c ≠ '-' := fun hEq => hDash (hEq ▸ rfl)
      simp only [Bool.false_eq_true, if_false]
      split <;> simp_all

end Progress

end Invocation

end PageHeat
