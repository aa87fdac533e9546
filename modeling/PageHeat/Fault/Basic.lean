import PageHeat.Disk.Path
import PageHeat.Fault.Device

/-
  Faults of a run.

  A fault of one benchmark leaves the others untouched; a
  fatal fault ends the run.

  Key definitions include:
    * `Fault`
    * `Fault.message`
    * `Fault.cause?`
    * `Fault.IsFatal`
-/

------------------------------------------------------------
-- Faults
------------------------------------------------------------

namespace PageHeat

/- Why a benchmark or a run cannot go on. -/
inductive Fault where
  | missingBaseline (path : Path)
  | unreadable (path : Path) (cause : DeviceFault)
  | uncreatable (path : Path) (cause : DeviceFault)
  | brokenDevice (path : Path) (cause : DeviceFault)
  | badFilter (reason : Text)
  | badSettings (reason : Text)
  deriving Repr, DecidableEq

namespace Fault

/- How a fault is shown. -/
def message : Fault → Text
  | .missingBaseline path =>
      "Baseline file not found: " ++ path.shown
  | .unreadable path cause =>
      "Failed to read " ++ path.shown ++ ": " ++ cause.message
  | .uncreatable path cause =>
      "Failed to create output file " ++ path.shown ++ ": " ++
        cause.message
  | .brokenDevice path cause =>
      "I/O error on " ++ path.shown ++ ": " ++ cause.message
  | .badFilter reason =>
      "Invalid benchmark filter: " ++ reason
  | .badSettings reason =>
      "Invalid configuration: " ++ reason

/- The fault of a device behind a fault. -/
def cause? : Fault → Option DeviceFault
  | .unreadable _ cause => some cause
  | .uncreatable _ cause => some cause
  | .brokenDevice _ cause => some cause
  | .missingBaseline _ => none
  | .badFilter _ => none
  | .badSettings _ => none

/- The sentences from a fault down to its cause. -/
def chain (f : Fault) : List Text :=
  f.message :: (f.cause?.map DeviceFault.message).toList

/- A fault that ends the run. -/
def IsFatal : Fault → Prop
  | .brokenDevice _ _ => True
  | .badFilter _ => True
  | .badSettings _ => True
  | .missingBaseline _ => False
  | .unreadable _ _ => False
  | .uncreatable _ _ => False

instance : (f : Fault) → Decidable f.IsFatal
  | .brokenDevice _ _ => .isTrue trivial
  | .badFilter _ => .isTrue trivial
  | .badSettings _ => .isTrue trivial
  | .missingBaseline _ => .isFalse id
  | .unreadable _ _ => .isFalse id
  | .uncreatable _ _ => .isFalse id

end Fault

end PageHeat
