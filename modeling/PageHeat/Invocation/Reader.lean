import PageHeat.Invocation.Basic
import PageHeat.Invocation.Option
import PageHeat.Text.Decimal
import PageHeat.Text.Terminal

/-
  Reading the command line.

  Options may stand before and behind the folder of the
  benchmarks. The value of an option is attached to it or
  is the next argument, unless that starts with a dash. A
  value is looked at only when the next option or folder is
  met, or at the end: an argument that is unknown comes
  first, even if the value before it is wrong. Two dashes
  make everything behind them a folder.

  Key definitions include:
    * `InvocationFault`
    * `InvocationFault.message`
    * `Stop`
    * `Invocation.Progress`
    * `Invocation.read`
-/

------------------------------------------------------------
-- Faults
------------------------------------------------------------

namespace PageHeat

/- Why a command line asks for nothing that can be done. -/
inductive InvocationFault where
  | unknownArgument (argument : Text)
  | noValue (label : Text)
  | badChoice (label value : Text)
  | badNumber (label value reason : Text)
  | repeated (label : Text)
  | surplusValue (label value : Text)
  | noRoot
  deriving Repr, DecidableEq

/-
  The sentence for an unusable command line. What a user
  has written is given back as a terminal shows it.
-/
def InvocationFault.message
    (i : Terminal.Interruption) : InvocationFault → Text
  | .unknownArgument argument =>
      "error: unexpected argument '" ++
        Terminal.seen i argument ++ "' found"
  | .noValue label =>
      "error: a value is required for '" ++ label ++
        "' but none was supplied"
  | .badChoice label value =>
      "error: invalid value '" ++ Terminal.seen i value ++
        "' for '" ++ label ++ "'"
  | .badNumber label value reason =>
      "error: invalid value '" ++ Terminal.seen i value ++
        "' for '" ++ label ++ "': " ++ reason
  | .repeated label =>
      "error: the argument '" ++ label ++
        "' cannot be used multiple times"
  | .surplusValue label value =>
      "error: unexpected value '" ++ Terminal.seen i value ++
        "' for '" ++ label ++
        "' found; no more were expected"
  | .noRoot =>
      "error: the following required arguments were not " ++
        "provided:"

/- Why no run is started. -/
inductive Stop where
  | fault (f : InvocationFault)
  | help (long : Bool)
  | version
  deriving Repr, DecidableEq

namespace Invocation

------------------------------------------------------------
-- Values
------------------------------------------------------------

/- A path; it may not be empty. -/
def readPath (label value : Text) : Except Stop Text :=
  if value.isEmpty then
    .error (.fault (.noValue label))
  else
    .ok value

/- A number of 32 bits, read as one of 64 bits with sign. -/
def readShortNumber (label value : Text) : Except Stop UInt32 :=
  let reach := Decimal.signedReach
  match Decimal.readInteger reach (reach - 1) value with
  | .error fault =>
      .error (.fault (.badNumber label value fault.message))
  | .ok n =>
      if 0 ≤ n ∧ n < UInt32.size then
        .ok (UInt32.ofNat n.toNat)
      else
        .error (.fault (.badNumber label value
          (Decimal.integerText n ++
            " is not in 0..=4294967295")))

/- A number of 64 bits. -/
def readLongNumber (label value : Text) : Except Stop UInt64 :=
  match Decimal.readNatural (UInt64.size - 1) value with
  | .error fault =>
      .error (.fault (.badNumber label value fault.message))
  | .ok n => .ok (UInt64.ofNat n)

/- One of the offered choices. -/
def readChoice
    {α : Type}
    (choices : List (Text × α))
    (label value : Text) : Except Stop α :=
  match choices.lookup value with
  | some choice => .ok choice
  | none =>
      if value.isEmpty then
        .error (.fault (.noValue label))
      else
        .error (.fault (.badChoice label value))

------------------------------------------------------------
-- Choices
------------------------------------------------------------

/- Whether an option has been given. -/
def isGiven (c : Choices) : OptionName → Bool
  | .filter => c.filter.isSome
  | .outputDir => c.outputDir.isSome
  | .baseline => c.baseline.isSome
  | .checkpoints => c.checkpoints.isSome
  | .step => c.stepMillions.isSome
  | .missing => c.missing.isSome
  | .format => c.format.isSome
  | .jobs => c.jobs.isSome
  | .config => c.config.isSome
  | .reportJson => c.reportJson.isSome
  | .debug => c.debug
  | .help => false
  | .version => false

/- Give an option its value. -/
def setValue
    (c : Choices)
    (o : OptionName)
    (value : Text) : Except Stop Choices :=
  let label := o.label
  match o with
  | .filter => .ok { c with filter := some value }
  | .baseline => .ok { c with baseline := some value }
  | .outputDir =>
      (readPath label value).map
        fun v => { c with outputDir := some v }
  | .config =>
      (readPath label value).map
        fun v => { c with config := some v }
  | .reportJson =>
      (readPath label value).map
        fun v => { c with reportJson := some v }
  | .checkpoints =>
      (readShortNumber label value).map
        fun v => { c with checkpoints := some v }
  | .step =>
      (readLongNumber label value).map
        fun v => { c with stepMillions := some v }
  | .jobs =>
      (readLongNumber label value).map
        fun v => { c with jobs := some v }
  | .missing =>
      (readChoice MissingPolicy.names label value).map
        fun v => { c with missing := some v }
  | .format =>
      (readChoice LineFormat.names label value).map
        fun v => { c with format := some v }
  | .debug => .ok { c with debug := true }
  | .help => .error (.help true)
  | .version => .error .version

------------------------------------------------------------
-- Progress
------------------------------------------------------------

/- What has been met but not looked at. -/
inductive Pending where
  | nothing
  | root (value : Text)
  | option (o : OptionName) (value : Option Text)
  deriving Repr, DecidableEq

/-
  A reader between two arguments: the folder and the
  options so far, what is pending, whether a folder has
  been met, and whether two dashes have been.
-/
structure Progress where
  root : Option Text := none
  choices : Choices := { }
  pending : Pending := .nothing
  hasRoot : Bool := false
  plain : Bool := false
  deriving Repr, DecidableEq

namespace Progress

/- Look at the value of an option. -/
def accept
    (p : Progress)
    (o : OptionName)
    (value : Option Text) : Except Stop Progress :=
  match value with
  | none => .error (.fault (.noValue o.label))
  | some value =>
      if isGiven p.choices o then
        .error (.fault (.repeated o.label))
      else
        (setValue p.choices o value).map
          fun c => { p with choices := c }

/- Look at what is pending. -/
def settle (p : Progress) : Except Stop Progress :=
  let q := { p with pending := .nothing }
  match p.pending with
  | .nothing => .ok q
  | .root value =>
      (readPath "<ROOT>" value).map
        fun v => { q with root := some v }
  | .option o value => q.accept o value

/- Take an option that needs no value. -/
def takeSwitch
    (p : Progress)
    (o : OptionName)
    (isLong : Bool) : Except Stop Progress := do
  let p ← p.settle
  match o with
  | .help => .error (.help isLong)
  | .version => .error .version
  | o => p.accept o (some [])

/- Take an option with the value attached to it, if any. -/
def takeOption
    (p : Progress)
    (o : OptionName)
    (attached : Option Text) : Except Stop Progress :=
  match o.takesValue, attached with
  | true, some value => do
      let p ← p.settle
      p.accept o (some value)
  | true, none => do
      let p ← p.settle
      .ok { p with pending := .option o none }
  | false, some value =>
      .error (.fault (.surplusValue o.label value))
  | false, none => p.takeSwitch o true

/- Split a text at the first equals sign. -/
def splitEquals (t : Text) : Text × Option Text :=
  match t.span (· != '=') with
  | (name, []) => (name, none)
  | (name, _ :: value) => (name, some value)

/- Take an argument behind its two dashes. -/
def takeLong (p : Progress) (t : Text) : Except Stop Progress :=
  let (name, attached) := splitEquals t
  match OptionName.ofLong? name with
  | some o => p.takeOption o attached
  | none => .error (.fault (.unknownArgument ("--" ++ name)))

/- The value that is attached to a letter. -/
def attachedTo (rest : Text) : Option Text :=
  match rest with
  | [] => none
  | '=' :: value => some value
  | value => some value

/- Take an argument behind its single dash. -/
def takeShort (p : Progress) : Text → Except Stop Progress
  | [] => .ok p
  | c :: rest =>
      match OptionName.ofShort? c with
      | none => .error (.fault (.unknownArgument ['-', c]))
      | some o =>
          if o.takesValue then
            p.takeOption o (attachedTo rest)
          else do
            let p ← p.takeSwitch o false
            p.takeShort rest

/- Take an argument as the folder of the benchmarks. -/
def takeRoot (p : Progress) (t : Text) : Except Stop Progress :=
  if p.hasRoot then
    .error (.fault (.unknownArgument t))
  else do
    let p ← p.settle
    .ok { p with pending := .root t, hasRoot := true }

/- Take an argument that is no option. -/
def takeValue (p : Progress) (t : Text) : Except Stop Progress :=
  match p.pending with
  | .option o none =>
      .ok { p with pending := .option o (some t) }
  | _ => p.takeRoot t

/- Take the next argument. -/
def take (p : Progress) (t : Text) : Except Stop Progress :=
  if p.plain then
    p.takeRoot t
  else
    match t with
    | ['-', '-'] => .ok { p with plain := true }
    | '-' :: '-' :: rest => p.takeLong rest
    | ['-'] => p.takeValue t
    | '-' :: rest => p.takeShort rest
    | t => p.takeValue t

/- The invocation, when there are no more arguments. -/
def finish (p : Progress) : Except Stop Invocation := do
  let p ← p.settle
  match p.root with
  | some root => .ok { root := root, choices := p.choices }
  | none => .error (.fault .noRoot)

end Progress

/- The invocation that the arguments of a program ask for. -/
def read (arguments : List Text) : Except Stop Invocation := do
  let p ← arguments.foldlM Progress.take { }
  p.finish

end Invocation

end PageHeat
