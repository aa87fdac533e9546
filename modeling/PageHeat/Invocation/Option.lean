import PageHeat.Text.Basic

/-
  The options of the command line.

  Every option has a name of several letters, some also a
  name of one letter. An option that takes a value shows
  it by a placeholder, and may offer a list of choices.

  Key definitions include:
    * `OptionName`
    * `OptionName.long`
    * `OptionName.short?`
    * `OptionName.placeholder?`
    * `OptionName.label`
    * `OptionName.ofLong?`
    * `OptionName.ofShort?`
-/

------------------------------------------------------------
-- Options
------------------------------------------------------------

namespace PageHeat

/- An option of the command line. -/
inductive OptionName where
  | filter
  | outputDir
  | baseline
  | checkpoints
  | step
  | missing
  | format
  | jobs
  | config
  | reportJson
  | debug
  | help
  | version
  deriving Repr, DecidableEq

namespace OptionName

/- Every option, in the order of the help text. -/
def all : List OptionName :=
  [.filter, .outputDir, .baseline, .checkpoints, .step,
    .missing, .format, .jobs, .config, .reportJson, .debug,
    .help, .version]

/- The name of an option behind two dashes. -/
def long : OptionName → Text
  | .filter => "filter"
  | .outputDir => "output-dir"
  | .baseline => "baseline"
  | .checkpoints => "checkpoints"
  | .step => "step"
  | .missing => "missing"
  | .format => "format"
  | .jobs => "jobs"
  | .config => "config"
  | .reportJson => "report-json"
  | .debug => "debug"
  | .help => "help"
  | .version => "version"

/- The name of an option behind one dash. -/
def short? : OptionName → Option Char
  | .filter => some 'e'
  | .outputDir => some 'o'
  | .jobs => some 'j'
  | .help => some 'h'
  | .version => some 'V'
  | _ => none

/- What stands for the value of an option. -/
def placeholder? : OptionName → Option Text
  | .filter => some "EXPR"
  | .outputDir => some "DIR"
  | .baseline => some "FILE"
  | .checkpoints => some "N"
  | .step => some "MILLIONS"
  | .missing => some "MISSING"
  | .format => some "FORMAT"
  | .jobs => some "N"
  | .config => some "FILE"
  | .reportJson => some "FILE"
  | .debug => none
  | .help => none
  | .version => none

def takesValue (o : OptionName) : Bool :=
  o.placeholder?.isSome

/- An option as messages show it. -/
def label (o : OptionName) : Text :=
  "--" ++ o.long ++
    match o.placeholder? with
    | some p => " <" ++ p ++ ">"
    | none => []

------------------------------------------------------------
-- Lookup
------------------------------------------------------------

/- The option of a name behind two dashes. -/
def ofLong? (name : Text) : Option OptionName :=
  all.find? (·.long == name)

/- The option of a letter behind one dash. -/
def ofShort? (letter : Char) : Option OptionName :=
  all.find? (·.short? == some letter)

end OptionName

end PageHeat
