import PageHeat.Pattern.Basic
import PageHeat.Unicode.Folding

/-
  The modes in which a pattern is read.

  A mode is switched on or off by a letter, within a group
  or from a place to the end of its group. In spaced mode,
  blanks and comments between the parts of a pattern are
  passed over.

  Key definitions include:
    * `Mode`
    * `Modes`
    * `Modes.readSwitches`
    * `Modes.rest`
    * `Modes.foldSet`
    * `Modes.invert?`
-/

------------------------------------------------------------
-- Modes
------------------------------------------------------------

namespace PageHeat

/- What can be switched. -/
inductive Mode where
  | anyCase
  | byLine
  | dotAll
  | lazy
  | everyScript
  | withReturn
  | spaced
  deriving Repr, DecidableEq

def Mode.ofLetter? : Char → Option Mode
  | 'i' => some .anyCase
  | 'm' => some .byLine
  | 's' => some .dotAll
  | 'U' => some .lazy
  | 'u' => some .everyScript
  | 'R' => some .withReturn
  | 'x' => some .spaced
  | _ => none

/- The modes that are on at a place of a pattern. -/
structure Modes where
  anyCase : Bool := false
  byLine : Bool := false
  dotAll : Bool := false
  lazy : Bool := false
  everyScript : Bool := true
  withReturn : Bool := false
  spaced : Bool := false
  deriving Repr, DecidableEq

namespace Modes

def switch (m : Modes) : Mode × Bool → Modes
  | (.anyCase, on) => { m with anyCase := on }
  | (.byLine, on) => { m with byLine := on }
  | (.dotAll, on) => { m with dotAll := on }
  | (.lazy, on) => { m with lazy := on }
  | (.everyScript, on) => { m with everyScript := on }
  | (.withReturn, on) => { m with withReturn := on }
  | (.spaced, on) => { m with spaced := on }

/-
  Read the letters of a group up to its colon or its end. A
  minus sign, at most one, switches off what follows it,
  and no letter is given twice.
-/
def readSwitches
    (seen : List (Mode × Bool))
    (off dangling : Bool) :
    Text → Option (List (Mode × Bool) × Char × Text)
  | [] => none
  | c :: rest =>
      if c = ':' ∨ c = ')' then
        if dangling then none else some (seen, c, rest)
      else if c = '-' then
        if off then none
        else readSwitches seen true true rest
      else
        match Mode.ofLetter? c with
        | none => none
        | some mode =>
            if seen.any (·.1 == mode) then none
            else
              readSwitches ((mode, !off) :: seen) off false
                rest

------------------------------------------------------------
-- Blanks And Comments
------------------------------------------------------------

/- Pass over blanks, and over comments up to their lines' ends. -/
def skipBlanks (inComment : Bool) : Text → Text
  | [] => []
  | c :: rest =>
      if inComment then
        skipBlanks (c != '\n') rest
      else if Text.isBlank c then
        skipBlanks false rest
      else if c = '#' then
        skipBlanks true rest
      else
        c :: rest

/- What is left of a pattern behind what may be passed over. -/
def rest (m : Modes) (t : Text) : Text :=
  if m.spaced then skipBlanks false t else t

/-
  The next character behind blanks, where only the sign of
  a comment is passed over and not the comment itself.
-/
def peek? (m : Modes) (t : Text) : Option Char :=
  if m.spaced then
    match Text.trimStart t with
    | '#' :: rest => (Text.trimStart rest).head?
    | rest => rest.head?
  else
    t.head?

/- The text up to a closing brace, and what is behind it. -/
def untilBrace
    (m : Modes)
    (inComment : Bool) :
    Text → Option (Text × Text)
  | [] => none
  | c :: rest =>
      if inComment then
        untilBrace m (c != '\n') rest
      else if c = '\x7d' then
        some ([], rest)
      else if m.spaced && Text.isBlank c then
        untilBrace m false rest
      else if m.spaced && c == '#' then
        untilBrace m true rest
      else
        (untilBrace m false rest).map
          fun (inside, rest) => (c :: inside, rest)

------------------------------------------------------------
-- Sets In A Mode
------------------------------------------------------------

/- The partners of ASCII letters in the other case. -/
def asciiClosure (s : RangeSet) : RangeSet :=
  let upper := RangeSet.intersection s [(0x41, 0x5A)]
  let lower := RangeSet.intersection s [(0x61, 0x7A)]
  RangeSet.ofRanges
    (s ++ upper.map (fun r => (r.1 + 32, r.2 + 32)) ++
      lower.map (fun r => (r.1 - 32, r.2 - 32)))

/- The set with the other cases, when any case counts. -/
def foldSet (m : Modes) (s : RangeSet) : RangeSet :=
  let s := RangeSet.ofRanges s
  if m.anyCase then
    if m.everyScript then
      Unicode.caseClosure s
    else
      asciiClosure s
  else
    s

/-
  The set without its members and with all others. There
  is none among the octets of ASCII alone.
-/
def invert? (m : Modes) (s : RangeSet) : Option RangeSet :=
  if m.everyScript then some s.complement else none

/- The set, or all others. -/
def signed?
    (m : Modes)
    (negated : Bool)
    (s : RangeSet) : Option RangeSet :=
  if negated then m.invert? s else some s

end Modes

end PageHeat
