import PageHeat.Settings.Basic

/-
  What a user asks of the program.

  An invocation names the folder of the benchmarks; each of
  its other parts may be absent. Those that stand for a
  setting replace it, and the others stay as they are. What
  a user asks for is text, the paths included.

  Key definitions include:
    * `Invocation`
    * `Invocation.applyTo`
-/

------------------------------------------------------------
-- Invocations
------------------------------------------------------------

namespace PageHeat

/- The options of an invocation. -/
structure Choices where
  filter : Option Text := none
  outputDir : Option Text := none
  baseline : Option Text := none
  checkpoints : Option UInt32 := none
  stepMillions : Option UInt64 := none
  missing : Option MissingPolicy := none
  format : Option LineFormat := none
  jobs : Option UInt64 := none
  config : Option Text := none
  reportJson : Option Text := none
  debug : Bool := false
  deriving Repr, DecidableEq

/- The folder of the benchmarks and the options. -/
structure Invocation where
  root : Text
  choices : Choices := { }
  deriving Repr, DecidableEq

/- The settings with those replaced that were chosen. -/
def Choices.applyTo (c : Choices) (s : Settings) : Settings :=
  { filter := c.filter <|> s.filter
    outputDir :=
      (c.outputDir.map Utf8.encode).getD s.outputDir
    baseline := c.baseline.getD s.baseline
    checkpoints := c.checkpoints.getD s.checkpoints
    stepMillions := c.stepMillions.getD s.stepMillions
    missing := c.missing.getD s.missing
    format := c.format.getD s.format
    jobs := c.jobs <|> s.jobs }

end PageHeat
