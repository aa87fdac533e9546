import PageHeat.Journal.Directive

/-
  Which events are told.

  Of the directives that concern an event, the one that
  asks for most decides. Directives are written with commas
  between them.

  Key definitions include:
    * `Verbosity`
    * `Verbosity.Tells`
    * `Verbosity.read`
    * `Verbosity.readLenient`
-/

------------------------------------------------------------
-- Verbosity
------------------------------------------------------------

namespace PageHeat

/- The directives that are in force, the later ones last. -/
abbrev Verbosity := List Directive

namespace Verbosity

/- Warnings and errors only. -/
def warnings : Verbosity := [{ level := some .warn }]

/- Of two directives, the one that decides. -/
def stronger (best : Option Directive) (d : Directive) :
    Option Directive :=
  match best with
  | none => some d
  | some b => if b.yieldsTo d then some d else some b

/- The directive that decides on an event. -/
def decisive (v : Verbosity) (e : Event) : Option Directive :=
  (v.filter fun d => decide (d.Concerns e)).foldl stronger
    none

/- An event that is told. -/
def Tells (v : Verbosity) (e : Event) : Prop :=
  match v.decisive e with
  | some d =>
      match d.level with
      | some l => l.Admits e.level
      | none => False
  | none => False

instance (v : Verbosity) (e : Event) :
    Decidable (v.Tells e) := by
  unfold Tells
  split
  · split <;> infer_instance
  · infer_instance

/- The directives of a text, or errors only without any. -/
def orErrors (v : Verbosity) : Verbosity :=
  if v.isEmpty then [{ level := some .error }] else v

/- The parts of a text that are to be directives. -/
def parts (t : Text) : List Text :=
  (Text.splitOn ',' t).filter (!·.isEmpty)

/- Read directives; the first malformed one counts. -/
def read (t : Text) : Except DirectiveFault Verbosity :=
  ((parts t).mapM Directive.read).map orErrors

/-
  Read directives and leave out those that are malformed.
  They are returned with their faults.
-/
def readLenient
    (t : Text) : Verbosity × List (Text × DirectiveFault) :=
  let results := (parts t).map fun p => (p, Directive.read p)
  let good := results.filterMap fun (_, r) => r.toOption
  let bad := results.filterMap fun (p, r) =>
    match r with
    | .ok _ => none
    | .error fault => some (p, fault)
  (orErrors good, bad)

/- Let every event through that no longer origin decides. -/
def addAll (v : Verbosity) : Verbosity :=
  v ++ [{ level := some .trace }]

end Verbosity

end PageHeat
