import PageHeat.Text.Decimal

/-
  The weight of events.

  Key definitions include:
    * `Level`
    * `Level.name`
    * `Level.Admits`
    * `Level.ofName?`
-/

------------------------------------------------------------
-- Levels
------------------------------------------------------------

namespace PageHeat

/- How much an event matters, from the most to the least. -/
inductive Level where
  | error
  | warn
  | info
  | debug
  | trace
  deriving Repr, DecidableEq

namespace Level

/- Every level, from the one that matters most. -/
def all : List Level :=
  [.error, .warn, .info, .debug, .trace]

def name : Level → Text
  | .error => "ERROR"
  | .warn => "WARN"
  | .info => "INFO"
  | .debug => "DEBUG"
  | .trace => "TRACE"

/- The number of a level, from one on. -/
def rank : Level → Nat
  | .error => 1
  | .warn => 2
  | .info => 3
  | .debug => 4
  | .trace => 5

/- A level that lets events of another one through. -/
def Admits (l m : Level) : Prop :=
  m.rank ≤ l.rank

instance (l m : Level) : Decidable (l.Admits m) :=
  inferInstanceAs (Decidable (_ ≤ _))

------------------------------------------------------------
-- Reading
------------------------------------------------------------

/- Texts that differ only in the case of ASCII letters. -/
def sameLetters (t u : Text) : Bool :=
  t.map Char.toLower == u.map Char.toLower

/-
  The level of a number or a name. Zero and `off` stand for
  no level at all.
-/
def ofName? (t : Text) : Option (Option Level) :=
  match Decimal.readNatural 5 t with
  | .ok 0 => some none
  | .ok n => some (all.find? fun l => l.rank == n)
  | .error _ =>
      if sameLetters t "off" then
        some none
      else
        (all.find? fun l => sameLetters t l.name).map some

end Level

end PageHeat
