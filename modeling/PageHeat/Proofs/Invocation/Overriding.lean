import PageHeat.Invocation.Basic

/-
  What the options of an invocation do to settings.

  Each setting is the chosen value if one is chosen, and
  stays as it is if none is. So choosing again what was
  chosen changes nothing, and choices of different settings
  can be made in any order.

  Key definitions include:
    * `Chosen`
    * `Choices.Overrides`
    * `Choices.Apart`

  Key lemmas include:
    * `Choices.overrides_iff`
    * `Choices.applyTo_applyTo`
    * `Choices.applyTo_comm`
-/

------------------------------------------------------------
-- One Setting
------------------------------------------------------------

namespace PageHeat

/- A value that is chosen, or else the one of before. -/
inductive Chosen
    {α : Type} :
    Option α → α → α → Prop
  | chosen (value before : α) :
      Chosen (some value) before value
  | kept (before : α) : Chosen none before before

section

variable {α : Type}

theorem Chosen.unique
    {choice : Option α}
    {before after other : α}
    (hAfter : Chosen choice before after)
    (hOther : Chosen choice before other) :
    after = other := by
  cases hAfter with
  | chosen => cases hOther with | chosen => rfl
  | kept => cases hOther with | kept => rfl

theorem chosen_getD
    (choice : Option α)
    (before : α) :
    Chosen choice before (choice.getD before) := by
  cases choice with
  | none => exact .kept before
  | some value => exact .chosen value before

theorem chosen_orElse
    (choice before : Option α) :
    Chosen (choice.map some) before (choice <|> before) := by
  cases choice with
  | none => exact .kept before
  | some value => exact .chosen (some value) before

/- A choice that was made is made again to no effect. -/
theorem Chosen.again
    {choice : Option α}
    {before after : α}
    (hAfter : Chosen choice before after) :
    Chosen choice after after := by
  cases hAfter with
  | chosen => exact .chosen _ _
  | kept => exact .kept _

/- If one of two choices is none, their order is free. -/
theorem getD_comm
    {choice other : Option α}
    (hApart : choice = none ∨ other = none)
    (before : α) :
    choice.getD (other.getD before) =
      other.getD (choice.getD before) := by
  rcases hApart with rfl | rfl
  · rfl
  · rfl

theorem orElse_comm
    {choice other : Option α}
    (hApart : choice = none ∨ other = none)
    (before : Option α) :
    (choice <|> other <|> before) =
      (other <|> choice <|> before) := by
  rcases hApart with rfl | rfl
  · simp
  · simp

end

------------------------------------------------------------
-- All Settings
------------------------------------------------------------

namespace Choices

/- Settings in which each one is chosen or as before. -/
structure Overrides
    (c : Choices)
    (s r : Settings) : Prop where
  filter : Chosen (c.filter.map some) s.filter r.filter
  outputDir :
    Chosen (c.outputDir.map Utf8.encode) s.outputDir
      r.outputDir
  baseline : Chosen c.baseline s.baseline r.baseline
  checkpoints :
    Chosen c.checkpoints s.checkpoints r.checkpoints
  stepMillions :
    Chosen c.stepMillions s.stepMillions r.stepMillions
  missing : Chosen c.missing s.missing r.missing
  format : Chosen c.format s.format r.format
  jobs : Chosen (c.jobs.map some) s.jobs r.jobs

variable {c d : Choices}
variable {s r u : Settings}

/- There is only one outcome of a choice of settings. -/
theorem Overrides.unique
    (hR : c.Overrides s r)
    (hU : c.Overrides s u) :
    r = u := by
  rcases r with ⟨⟩
  rcases u with ⟨⟩
  rw [Settings.mk.injEq]
  exact
    ⟨hR.filter.unique hU.filter,
      hR.outputDir.unique hU.outputDir,
      hR.baseline.unique hU.baseline,
      hR.checkpoints.unique hU.checkpoints,
      hR.stepMillions.unique hU.stepMillions,
      hR.missing.unique hU.missing,
      hR.format.unique hU.format,
      hR.jobs.unique hU.jobs⟩

/- What was chosen is chosen again to no effect. -/
theorem Overrides.again
    (hR : c.Overrides s r) :
    c.Overrides r r where
  filter := hR.filter.again
  outputDir := hR.outputDir.again
  baseline := hR.baseline.again
  checkpoints := hR.checkpoints.again
  stepMillions := hR.stepMillions.again
  missing := hR.missing.again
  format := hR.format.again
  jobs := hR.jobs.again

/- The outcome is what the options make of the settings. -/
theorem overrides_iff :
    c.Overrides s r ↔ r = c.applyTo s := by
  have hApplied : c.Overrides s (c.applyTo s) :=
    { filter := chosen_orElse _ _
      outputDir := chosen_getD _ _
      baseline := chosen_getD _ _
      checkpoints := chosen_getD _ _
      stepMillions := chosen_getD _ _
      missing := chosen_getD _ _
      format := chosen_getD _ _
      jobs := chosen_orElse _ _ }
  constructor
  · intro hR
    exact hR.unique hApplied
  · rintro rfl
    exact hApplied

theorem applyTo_applyTo
    (c : Choices)
    (s : Settings) :
    c.applyTo (c.applyTo s) = c.applyTo s :=
  (overrides_iff.mp (overrides_iff.mpr rfl).again).symm

/- Two choices that have no setting in common. -/
structure Apart (c d : Choices) : Prop where
  filter : c.filter = none ∨ d.filter = none
  outputDir : c.outputDir = none ∨ d.outputDir = none
  baseline : c.baseline = none ∨ d.baseline = none
  checkpoints : c.checkpoints = none ∨ d.checkpoints = none
  stepMillions :
    c.stepMillions = none ∨ d.stepMillions = none
  missing : c.missing = none ∨ d.missing = none
  format : c.format = none ∨ d.format = none
  jobs : c.jobs = none ∨ d.jobs = none

/- Options for different settings can change their places. -/
theorem applyTo_comm
    (hApart : c.Apart d)
    (s : Settings) :
    c.applyTo (d.applyTo s) = d.applyTo (c.applyTo s) := by
  have hNone {dir : Option Text} :
      dir = none → dir.map Utf8.encode = none :=
    congrArg (Option.map Utf8.encode)
  unfold applyTo
  rw [Settings.mk.injEq]
  exact
    ⟨orElse_comm hApart.filter _,
      getD_comm (hApart.outputDir.imp hNone hNone) _,
      getD_comm hApart.baseline _,
      getD_comm hApart.checkpoints _,
      getD_comm hApart.stepMillions _,
      getD_comm hApart.missing _,
      getD_comm hApart.format _,
      orElse_comm hApart.jobs _⟩

end Choices

end PageHeat
