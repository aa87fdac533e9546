import PageHeat.Disk.Path
import PageHeat.Tally.Format

/-
  The settings of a run.

  A valid setting has at least one checkpoint, a step of at
  least one, a last checkpoint mark that fits a counter,
  and a baseline name without slash. The checkpoints are
  named by their marks: multiples of the step, in millions
  of accesses.

  Key definitions include:
    * `MissingPolicy`
    * `Settings`
    * `SettingsFault`
    * `Settings.validate`
    * `Settings.mark`
    * `Settings.checkpointName`
    * `Settings.checkpointPath`
    * `Settings.baselinePath`
-/

------------------------------------------------------------
-- Settings
------------------------------------------------------------

namespace PageHeat

/- What to write for a checkpoint that cannot be read. -/
inductive MissingPolicy where
  | skip
  | zero
  deriving Repr, DecidableEq

namespace MissingPolicy

/- The names of the policies, in the order they are offered. -/
def names : List (Text × MissingPolicy) :=
  [("skip", .skip), ("zero", .zero)]

def name : MissingPolicy → Text
  | .skip => "skip"
  | .zero => "zero"

end MissingPolicy

/- Everything that can be set for a run. -/
structure Settings where
  filter : Option Text := none
  outputDir : Path := Utf8.encode "page_info"
  baseline : Text := "10M.csv"
  checkpoints : UInt32 := 100
  stepMillions : UInt64 := 100
  missing : MissingPolicy := .skip
  format : LineFormat := .text
  jobs : Option UInt64 := none
  deriving Repr, DecidableEq

------------------------------------------------------------
-- Validation
------------------------------------------------------------

/- Why settings cannot be used. -/
inductive SettingsFault where
  | noCheckpoints
  | noStep
  | marksTooLarge (checkpoints step : Nat)
  | noBaselineName
  | baselineNotName (name : Text)
  deriving Repr, DecidableEq

/- The sentence for unusable settings. -/
def SettingsFault.message : SettingsFault → Text
  | .noCheckpoints => "checkpoints must be >= 1, got 0"
  | .noStep => "step_millions must be >= 1, got 0"
  | .marksTooLarge checkpoints step =>
      "checkpoints * step_millions overflows (" ++
        Decimal.text checkpoints ++ " * " ++
        Decimal.text step ++ ")"
  | .noBaselineName => "baseline name is empty"
  | .baselineNotName name =>
      "baseline must be a file name, got " ++ name

namespace Settings

/- Check the settings; the first fault counts. -/
def validate (s : Settings) : Except SettingsFault Unit :=
  if s.checkpoints = 0 then
    .error .noCheckpoints
  else if s.stepMillions = 0 then
    .error .noStep
  else if
      s.stepMillions.toNat * s.checkpoints.toNat >
        Count.limit then
    .error
      (.marksTooLarge s.checkpoints.toNat
        s.stepMillions.toNat)
  else if s.baseline = [] then
    .error .noBaselineName
  else if '/' ∈ s.baseline then
    .error (.baselineNotName s.baseline)
  else
    .ok ()

------------------------------------------------------------
-- Paths
------------------------------------------------------------

/-
  The mark of a checkpoint, in millions of accesses. It is a
  product of machine words; a check of the settings keeps it
  within the largest one.
-/
def mark (s : Settings) (index : Nat) : Count :=
  UInt64.ofNat index * s.stepMillions

def checkpointName (s : Settings) (index : Nat) : Text :=
  Decimal.text (s.mark index).toNat ++ "M.csv"

/- The path of a checkpoint of a benchmark folder. -/
def checkpointPath
    (s : Settings)
    (dir : Path)
    (index : Nat) : Path :=
  dir.join (Utf8.encode (s.checkpointName index))

/- The path of the baseline of a benchmark folder. -/
def baselinePath (s : Settings) (dir : Path) : Path :=
  dir.join (Utf8.encode s.baseline)

/- The path of the result file of a benchmark. -/
def outputPath (s : Settings) (name : Text) : Path :=
  s.outputDir.join (Utf8.encode name)

/- The numbers of the checkpoints, from one on. -/
def indices (s : Settings) : List Nat :=
  List.range' 1 s.checkpoints.toNat

end Settings

end PageHeat
