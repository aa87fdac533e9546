import PageHeat.Journal.Event
import PageHeat.Pattern.Reader
import PageHeat.Text.Utf8

/-
  Directives on what is told.

  A directive lets events through up to a level: all of
  them, those whose origin starts with a given text, or
  those that tell something under a given name. It is
  written as origin, name in brackets, and level.

  Key definitions include:
    * `Directive`
    * `DirectiveFault`
    * `Directive.read`
    * `Directive.Concerns`
    * `Directive.yieldsTo`
-/

------------------------------------------------------------
-- Directives
------------------------------------------------------------

namespace PageHeat

/-
  A directive: which origins it concerns, under which name
  something has to be told, and the level up to which it
  lets events through, if it lets any. One that asks for a
  surrounding activity or for a value concerns no event, as
  there are no such activities.
-/
structure Directive where
  origin : Option Text := none
  field : Option Text := none
  level : Option Level := some .trace
  needsActivity : Bool := false
  deriving Repr, DecidableEq

/- Why a text is no directive. -/
inductive DirectiveFault where
  | malformed
  | unknownLevel
  | malformedValue
  | valueWithWords
  deriving Repr, DecidableEq

/- The sentence for a text that is no directive. -/
def DirectiveFault.message : DirectiveFault → Text
  | .malformed => "invalid filter directive"
  | .unknownLevel =>
      "error parsing level filter: expected one of \"off\", " ++
        "\"error\", \"warn\", \"info\", \"debug\", " ++
        "\"trace\", or a number 0-5"
  | .malformedValue =>
      "invalid field filter: error building NFA"
  | .valueWithWords =>
      "invalid field filter: unsupported regex feature for " ++
        "DFAs: cannot build DFAs for regexes with Unicode " ++
        "word boundaries; switch to ASCII word boundaries, " ++
        "or heuristically enable Unicode word boundaries " ++
        "or use a different regex engine"

namespace Directive

------------------------------------------------------------
-- Values
------------------------------------------------------------

/- The exponent of a number, or nothing. -/
def isExponent (t : Text) : Bool :=
  match t with
  | [] => true
  | e :: rest =>
      let digits :=
        match rest with
        | '+' :: rest => rest
        | '-' :: rest => rest
        | rest => rest
      (e == 'e' || e == 'E') && !digits.isEmpty &&
        digits.all Char.isDigit

/- Digits with at most one point, and an exponent. -/
def isDecimal (t : Text) : Bool :=
  let (whole, rest) := t.span Char.isDigit
  let (part, rest) :=
    match rest with
    | '.' :: rest => rest.span Char.isDigit
    | rest => ([], rest)
  !(whole.isEmpty && part.isEmpty) && isExponent rest

/- The words for values that are no finite numbers. -/
def numberWords : List Text := ["inf", "infinity", "nan"]

/- A number, with or without a sign. -/
def isNumber (t : Text) : Bool :=
  let t :=
    match t with
    | '+' :: rest => rest
    | '-' :: rest => rest
    | t => t
  isDecimal t || numberWords.any (Level.sameLetters t)

/-
  What is wrong with a value. A number stands for itself,
  and everything else is a pattern, which must not look at
  edges of words.
-/
def valueFault? (t : Text) : Option DirectiveFault :=
  if isNumber t then none
  else
    match Pattern.parse? t with
    | none => some .malformedValue
    | some p =>
        if p.looksAtWords then some .valueWithWords else none

------------------------------------------------------------
-- Reading
------------------------------------------------------------

def mayStart (c : Char) : Bool :=
  c == '-' || c == ':' || c == '_' ||
    Unicode.currentAlphanumeric.hasChar c

/- The number of octets of a text. -/
def octets (t : Text) : Nat :=
  (Utf8.encode t).length

/- The part of a text between two numbers of octets. -/
def cut
    (t : Text)
    (first last : Nat) : Except DirectiveFault Text :=
  match Utf8.decode (((Utf8.encode t).take last).drop first) with
  | some part => .ok part
  | none => .error .malformed

/- Read the level behind an equals sign. -/
def readLevel
    (d : Directive)
    (t : Text)
    (start : Nat) : Except DirectiveFault Directive := do
  let name ← cut t start (octets t)
  if name.isEmpty then
    .ok { d with level := some .trace }
  else
    match Level.ofName? name with
    | some level => .ok { d with level := level }
    | none => .error .unknownLevel

/- Read what is behind the brackets. -/
def readBehind
    (d : Directive)
    (t : Text)
    (start : Nat) :
    Text → Except DirectiveFault Directive
  | [] => .ok d
  | '=' :: _ => readLevel d t (start + 1)
  | _ => .error .malformed

/- Ask for a name, or for a name with a value. -/
def withField
    (d : Directive)
    (field : Text) : Except DirectiveFault Directive :=
  match Text.splitOn '=' field with
  | name :: value :: _ =>
      match valueFault? value with
      | some fault => .error fault
      | none =>
          .ok { d with field := some name, needsActivity := true }
  | _ => .ok { d with field := some field }

/- Read the name behind an opening brace. -/
def readField
    (d : Directive)
    (t : Text)
    (start : Nat)
    (signs : Text) : Except DirectiveFault Directive := do
  let field := signs.takeWhile (· != '\x7d')
  let stop := start + octets field
  match field, signs.drop field.length with
  | _ :: _, '\x7d' :: rest => do
      let name ← cut t start stop
      let d ← d.withField name
      match rest with
      | ']' :: rest => readBehind d t (stop + 2) rest
      | _ => .error .malformed
  | _, _ => .error .malformed

/- Read the activity behind an opening bracket. -/
def readActivity
    (d : Directive)
    (t : Text)
    (start : Nat)
    (signs : Text) : Except DirectiveFault Directive :=
  let name := signs.takeWhile fun c => c != ']' && c != '\x7b'
  let stop := start + octets name
  match signs.drop name.length with
  | ']' :: rest =>
      readBehind { d with needsActivity := true } t
        (stop + 1) rest
  | '\x7b' :: rest =>
      readField { d with needsActivity := !name.isEmpty } t
        (stop + 1) rest
  | _ => .error .malformed

/-
  Read one directive. Blanks around it are passed over when
  its signs are looked for, but its parts are cut out of
  the text as it was given, at the same numbers of octets.
-/
def read (t : Text) : Except DirectiveFault Directive := do
  let signs := Text.trim t
  let lead := signs.takeWhile fun c => c != '=' && c != '['
  let stop := octets lead
  let startsWell :=
    signs.head?.any fun c => c == '[' || mayStart c
  if startsWell then
    match lead, signs.drop lead.length with
    | _, [] =>
        match Level.ofName? t with
        | some level => .ok { level := level }
        | none => .ok { origin := some t }
    | [], _ :: inside => readActivity { } t 1 inside
    | _, sign :: inside => do
        let origin ← cut t 0 stop
        let d : Directive := { origin := some origin }
        if sign = '[' then
          readActivity d t (stop + 1) inside
        else
          readLevel d t (stop + 1)
  else
    .error .malformed

------------------------------------------------------------
-- Events
------------------------------------------------------------

/- A directive that concerns an event. -/
def Concerns (d : Directive) (e : Event) : Prop :=
  d.needsActivity = false ∧
    (d.origin.all fun o => o.isPrefixOf e.origin) = true ∧
    (d.field.all fun f => e.fields.contains f) = true

instance (d : Directive) (e : Event) :
    Decidable (d.Concerns e) :=
  inferInstanceAs (Decidable (_ ∧ _ ∧ _))

/- The length of what an origin has to start with. -/
def originRank (d : Directive) : Nat :=
  match d.origin with
  | none => 0
  | some origin => origin.length + 1

/-
  A directive that gives way to another one that concerns
  the same event: to one with a longer origin, then to one
  that names a field, then by the order of the names, and
  to a later one if nothing else tells them apart.
-/
def yieldsTo (b d : Directive) : Bool :=
  if b.originRank = d.originRank then
    match b.field, d.field with
    | none, _ => true
    | some _, none => false
    | some f, some g => Text.atMost f g
  else
    b.originRank < d.originRank

end Directive

end PageHeat
