import PageHeat.Fault.Basic
import PageHeat.Pattern.Reader
import PageHeat.Selection.Term

/-
  The selection of benchmarks by name.

  A term without slashes asks for names that contain it; a
  term between slashes asks for names in which a pattern
  occurs. A term with an exclamation mark excludes what it
  matches, whatever else does; of the others one has to
  match, if there are any.

  What a pattern is, is left to an engine that reads and
  matches them.

  Key definitions include:
    * `PatternEngine`
    * `Matcher`
    * `FilterFault`
    * `Selection`
    * `Selection.read`
    * `Selection.Selects`
-/

------------------------------------------------------------
-- Engines
------------------------------------------------------------

namespace PageHeat

/- A way to read patterns and to find them in names. -/
structure PatternEngine (α : Type) where
  read : Text → Except PatternFault α
  occursIn : α → Text → Bool

/- The engine for the patterns of this library. -/
def Pattern.engine : PatternEngine Pattern where
  read := Pattern.read
  occursIn := Pattern.occursIn

------------------------------------------------------------
-- Faults
------------------------------------------------------------

/- Why an expression selects nothing meaningful. -/
inductive FilterFault where
  | unterminated (term : Text)
  | badPattern (term : Text) (fault : PatternFault)
  | bareNegation
  deriving Repr, DecidableEq

/- The sentence for an expression without meaning. -/
def FilterFault.message : FilterFault → Text
  | .unterminated term => "unterminated regex " ++ term
  | .badPattern term fault =>
      "bad regex " ++ term ++ ": " ++ fault.message
  | .bareNegation =>
      "'!' must be followed by a name or /regex/"

/- A run cannot go on without its selection. -/
def FilterFault.toFault (f : FilterFault) : Fault :=
  .badFilter f.message

------------------------------------------------------------
-- Matchers
------------------------------------------------------------

/- What a single term asks of a name. -/
inductive Matcher (α : Type) where
  | containing (part : Text)
  | matching (pattern : α)
  deriving Repr, DecidableEq

namespace Matcher

variable {α : Type}

/- A name that a term asks for. -/
def Matches
    (engine : PatternEngine α)
    (m : Matcher α)
    (name : Text) : Prop :=
  match m with
  | .containing part => Text.occursIn part name = true
  | .matching pattern => engine.occursIn pattern name = true

instance
    (engine : PatternEngine α)
    (m : Matcher α)
    (name : Text) :
    Decidable (m.Matches engine name) := by
  unfold Matches
  split <;> infer_instance

/- Read a term that has no exclamation mark. -/
def read
    (engine : PatternEngine α)
    (term : Text) : Except FilterFault (Matcher α) :=
  match term with
  | '/' :: rest =>
      if rest.getLast? = some '/' then
        match engine.read rest.dropLast with
        | .ok pattern => .ok (.matching pattern)
        | .error fault => .error (.badPattern term fault)
      else
        .error (.unterminated term)
  | term => .ok (.containing term)

end Matcher

------------------------------------------------------------
-- Selections
------------------------------------------------------------

/- The terms that select, and those that exclude. -/
structure Selection (α : Type) where
  wanted : List (Matcher α) := []
  excluded : List (Matcher α) := []
  deriving Repr, DecidableEq

namespace Selection

variable {α : Type}

/- The selection of every name. -/
def all : Selection α := { }

def addTerm
    (engine : PatternEngine α)
    (s : Selection α)
    (term : Text) : Except FilterFault (Selection α) :=
  match term with
  | '!' :: rest =>
      let rest := Text.trim rest
      if rest.isEmpty then
        .error .bareNegation
      else
        (Matcher.read engine rest).map
          fun m => { s with excluded := s.excluded ++ [m] }
  | term =>
      (Matcher.read engine term).map
        fun m => { s with wanted := s.wanted ++ [m] }

/- Read an expression; empty terms ask for nothing. -/
def read
    (engine : PatternEngine α)
    (expression : Text) :
    Except FilterFault (Selection α) :=
  match splitTerms expression with
  | .error fault => .error (.unterminated fault.term)
  | .ok terms =>
      (terms.filter (!·.isEmpty)).foldlM (addTerm engine) { }

/- A name that is selected. -/
def Selects
    (engine : PatternEngine α)
    (s : Selection α)
    (name : Text) : Prop :=
  (∀ m ∈ s.excluded, ¬ m.Matches engine name) ∧
    (s.wanted = [] ∨
      ∃ m ∈ s.wanted, m.Matches engine name)

instance
    (engine : PatternEngine α)
    (s : Selection α)
    (name : Text) :
    Decidable (s.Selects engine name) :=
  let noneExcluded :=
    s.excluded.all fun m => !decide (m.Matches engine name)
  let someWanted :=
    s.wanted.isEmpty ||
      s.wanted.any fun m => decide (m.Matches engine name)
  decidable_of_iff
    ((noneExcluded && someWanted) = true)
    (by
      simp [noneExcluded, someWanted, Selects,
        List.isEmpty_iff])

end Selection

end PageHeat
