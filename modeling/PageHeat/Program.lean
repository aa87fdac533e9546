import PageHeat.Analysis.Run
import PageHeat.Invocation.Help
import PageHeat.Invocation.Reader
import PageHeat.Journal.Verbosity
import PageHeat.Report.Stored
import PageHeat.Report.Table
import PageHeat.Settings.Stored

/-
  The program as a function.

  From its arguments, the text that sets how much it tells,
  and the disk, the program makes an exit code, two texts,
  and the disk after it.

  Key definitions include:
    * `Program.Result`
    * `Program.complaint`
    * `Program.verbosityOf`
    * `Program.perform`
    * `Program.start`
-/

------------------------------------------------------------
-- Results
------------------------------------------------------------

namespace PageHeat

namespace Program

/- What a user sees of the program, and the disk after it. -/
structure Result where
  code : Nat := 0
  output : Text := []
  messages : Text := []
  disk : Disk

def endLine (t : Text) : Text :=
  t ++ ['\n']

------------------------------------------------------------
-- Complaints
------------------------------------------------------------

/- Put a text in front of every line but the first. -/
def indentLines (indent t : Text) : Text :=
  t.flatMap fun c => if c = '\n' then '\n' :: indent else [c]

def singleCause (cause : Text) : Text :=
  "    " ++ indentLines "    " cause

/- The lines of one of several causes. -/
def numberedCause (i : Nat) (cause : Text) : Text :=
  Text.padLeft 5 (Decimal.text i) ++ ": " ++
    indentLines "       " cause

def causeLines (causes : List Text) : List Text :=
  match causes with
  | [cause] => [singleCause cause]
  | causes =>
      causes.zipIdx.map fun (cause, i) => numberedCause i cause

/- What is told when the program fails. -/
def complaint (chain : List Text) : Text :=
  match chain with
  | [] => []
  | [context] => endLine ("Error: " ++ context)
  | context :: causes =>
      endLine ("Error: " ++ context) ++ endLine [] ++
        endLine "Caused by:" ++
        (causeLines causes).flatMap endLine

------------------------------------------------------------
-- Telling Events
------------------------------------------------------------

/- What is said of a directive that is left out. -/
def ignoredLine (part : Text) (fault : DirectiveFault) : Text :=
  endLine ("ignoring `" ++ part ++ "`: " ++ fault.message)

/-
  How much is told. For debugging everything is, and what
  is wrong with the directives is said; otherwise a wrong
  one makes only warnings be told.
-/
def verbosityOf
    (debug : Bool)
    (directives : Option Text) : Verbosity × Text :=
  if debug then
    let (v, bad) := Verbosity.readLenient (directives.getD [])
    (v.addAll,
      bad.flatMap fun (part, fault) => ignoredLine part fault)
  else
    match directives.map Verbosity.read with
    | some (.ok v) => (v, [])
    | _ => (Verbosity.warnings, [])

def eventLines (v : Verbosity) (events : List Event) : Text :=
  (events.filter fun e => decide (v.Tells e)).flatMap
    fun e => endLine e.line

------------------------------------------------------------
-- Performing
------------------------------------------------------------

/- What is left to do after a run. -/
def conclude
    (report : Option Text)
    (summary : Summary)
    (told : Text)
    (d : Disk) : Result :=
  let told := told ++ summary.table
  match report with
  | none => { messages := told, disk := d }
  | some path =>
      match summary.save d (Utf8.encode path) with
      | (d, none) => { messages := told, disk := d }
      | (d, some fault) =>
          { code := 1
            messages := told ++ complaint fault.chain
            disk := d }

/- The settings that an invocation starts from. -/
def baseSettings
    (d : Disk)
    (config : Option Text) : Except (List Text) Settings :=
  match config with
  | none => .ok { }
  | some path =>
      match Settings.load d (Utf8.encode path) with
      | .ok s => .ok s
      | .error fault =>
          .error (("Failed to load config " ++ path) :: fault.chain)

/- Do what an invocation asks for. -/
def perform
    (i : Invocation)
    (directives : Option Text)
    (d : Disk)
    (workers : Workers := Workers.atHand) : Result :=
  let (verbosity, notes) :=
    verbosityOf i.choices.debug directives
  match baseSettings d i.choices.config with
  | .error chain =>
      { code := 1, messages := notes ++ complaint chain, disk := d }
  | .ok base =>
      let settings := i.choices.applyTo base
      let root : Path := Utf8.encode i.root
      let step := run Pattern.engine root settings d workers
      let told := notes ++ eventLines verbosity step.events
      match step.result with
      | .error fault =>
          let context : Text :=
            "Analysis of " ++ i.root ++ " failed"
          { code := 1
            messages := told ++ complaint (context :: fault.chain)
            disk := step.disk }
      | .ok summary =>
          conclude i.choices.reportJson summary told step.disk

/- The whole program. -/
def start
    (arguments : List Text)
    (directives : Option Text)
    (d : Disk)
    (workers : Workers := Workers.atHand) : Result :=
  match Invocation.read arguments with
  | .error (.help long) => { output := Help.text long, disk := d }
  | .error .version => { output := Help.version, disk := d }
  | .error (.fault fault) =>
      { code := 2
        messages := endLine (fault.message .suspends)
        disk := d }
  | .ok i => perform i directives d workers

end Program

end PageHeat
