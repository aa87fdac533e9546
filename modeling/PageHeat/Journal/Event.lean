import PageHeat.Fault.Basic
import PageHeat.Journal.Level
import PageHeat.Log.Line
import PageHeat.Tally.Basic

/-
  The events of a run.

  An event has a level, the part of the program that it
  comes from, a sentence, and named values.

  Key definitions include:
    * `Event`
    * `Event.level`
    * `Event.origin`
    * `Event.sentence`
    * `Event.values`
    * `Event.fields`
    * `Event.line`
-/

------------------------------------------------------------
-- Events
------------------------------------------------------------

namespace PageHeat

/- Something worth telling about a run. -/
inductive Event where
  | baselineLineSkipped (number : Nat) (fault : LineFault)
  | checkpointLineSkipped (number : Nat) (fault : LineFault)
  | baselineLoaded (benchmark : Text) (tags : Nat)
  | baselineMalformed (path : Path) (lines : Nat)
  | checkpointCompared (path : Path) (tally : Tally)
  | checkpointMalformed (path : Path) (lines : Nat)
  | checkpointSkipped (fault : Fault)
  | outputFolderSkipped (dir : Path)
  | filteredOut (benchmark : Text)
  | nothingMatched (root : Path)
  | resultsWritten
      (output : Path)
      (benchmark : Text)
      (lines skipped : Nat)
  | benchmarkSkipped (fault : Fault) (benchmark : Text)
  deriving Repr, DecidableEq

namespace Event

/- How much an event matters. -/
def level : Event → Level
  | .baselineLineSkipped _ _ => .trace
  | .checkpointLineSkipped _ _ => .trace
  | .baselineLoaded _ _ => .info
  | .baselineMalformed _ _ => .warn
  | .checkpointCompared _ _ => .debug
  | .checkpointMalformed _ _ => .warn
  | .checkpointSkipped _ => .warn
  | .outputFolderSkipped _ => .debug
  | .filteredOut _ => .debug
  | .nothingMatched _ => .warn
  | .resultsWritten _ _ _ _ => .info
  | .benchmarkSkipped _ _ => .warn

/- The part of the program that an event comes from. -/
def origin : Event → Text
  | .baselineLineSkipped _ _ => "coldpage::page_log"
  | .checkpointLineSkipped _ _ => "coldpage::compare"
  | _ => "coldpage::analyzer"

/- What an event says. -/
def sentence : Event → Text
  | .baselineLineSkipped _ _ => "skipping baseline line"
  | .checkpointLineSkipped _ _ => "skipping checkpoint line"
  | .baselineLoaded _ _ => "loaded baseline"
  | .baselineMalformed _ _ =>
      "skipped malformed baseline lines"
  | .checkpointCompared _ _ => "compared checkpoint"
  | .checkpointMalformed _ _ =>
      "skipped malformed checkpoint lines"
  | .checkpointSkipped fault =>
      "Skipping checkpoint: " ++ fault.message
  | .outputFolderSkipped _ => "skipping output directory"
  | .filteredOut _ => "filtered out"
  | .nothingMatched _ => "no benchmarks matched"
  | .resultsWritten output _ _ _ => "wrote " ++ output.shown
  | .benchmarkSkipped fault _ =>
      "Skipping benchmark: " ++ fault.message

/- The values of an event by their names. -/
def values : Event → List (Text × Text)
  | .baselineLineSkipped number fault =>
      [("line", Decimal.text number), ("error", fault.message)]
  | .checkpointLineSkipped number fault =>
      [("line", Decimal.text number), ("error", fault.message)]
  | .baselineLoaded benchmark tags =>
      [("benchmark", benchmark), ("tags", Decimal.text tags)]
  | .baselineMalformed path lines =>
      [("path", path.shown), ("lines", Decimal.text lines)]
  | .checkpointCompared path tally =>
      [ ("path", path.shown),
        ("cold_pages", Decimal.text tally.coldPages.toNat),
        ("cold_accesses",
          Decimal.text tally.coldAccesses.toNat),
        ("total_accesses",
          Decimal.text tally.totalAccesses.toNat) ]
  | .checkpointMalformed path lines =>
      [("path", path.shown), ("lines", Decimal.text lines)]
  | .checkpointSkipped _ => []
  | .outputFolderSkipped dir => [("dir", dir.shown)]
  | .filteredOut benchmark => [("benchmark", benchmark)]
  | .nothingMatched root => [("root", root.shown)]
  | .resultsWritten _ benchmark lines skipped =>
      [ ("benchmark", benchmark),
        ("lines", Decimal.text lines),
        ("skipped", Decimal.text skipped) ]
  | .benchmarkSkipped _ benchmark =>
      [("benchmark", benchmark)]

/- The names under which an event tells something. -/
def fields (e : Event) : List Text :=
  "message" :: e.values.map Prod.fst

------------------------------------------------------------
-- Lines
------------------------------------------------------------

/- The code point of a character with two digits. -/
def twoDigits (c : Char) : Text :=
  Text.padWith '0' 2 (Nat.toDigits 16 c.toNat)

/-
  A character of a sentence. Those that could steer the
  screen of a reader are shown by their code points.
-/
def harmless (c : Char) : Text :=
  if c ∈ ['\x07', '\x08', '\x0c', '\x1b', '\x7f'] then
    "\\x" ++ twoDigits c
  else if 0x80 ≤ c.toNat ∧ c.toNat ≤ 0x9F then
    "\\u\x7b" ++ twoDigits c ++ "\x7d"
  else
    [c]

/- The line of an event, without its end. -/
def line (e : Event) : Text :=
  e.level.name ++ " " ++ e.origin ++ ": " ++
    e.sentence.flatMap harmless ++
    e.values.flatMap fun (name, value) =>
      [' '] ++ name ++ ['='] ++ value

end Event

end PageHeat
