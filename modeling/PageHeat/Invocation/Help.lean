import PageHeat.Invocation.Option

/-
  The help text and the version.

  The short help gives every option one line, with the
  explanations below each other. The long help gives each
  option a paragraph and explains its choices.

  Key definitions include:
    * `OptionName.explanation`
    * `OptionName.offered`
    * `Help.text`
    * `Help.version`
-/

------------------------------------------------------------
-- Explanations
------------------------------------------------------------

namespace PageHeat

namespace OptionName

/- What an option does, in the short or the long help. -/
def explanation (long : Bool) : OptionName → Text
  | .filter =>
      "Benchmarks to analyze (e.g., -e bwaves,mcf or -e " ++
        "'/^5\\d\\d\\./' or -e '!test')"
  | .outputDir =>
      "Directory receiving one result file per benchmark " ++
        "[default: page_info]"
  | .baseline =>
      "Baseline (profiling run) file name [default: 10M.csv]"
  | .checkpoints =>
      "Number of checkpoints per benchmark [default: 100]"
  | .step =>
      "Checkpoint spacing in millions of accesses " ++
        "[default: 100]"
  | .missing =>
      "What to write for a missing checkpoint file " ++
        "[default: skip]"
  | .format => "Result line format [default: text]"
  | .jobs => "Worker threads for checkpoint comparisons"
  | .config =>
      "TOML configuration file (flags override its values)"
  | .reportJson => "Write the run summary as JSON"
  | .debug => "Enable debug tracing output to stderr"
  | .help =>
      if long then
        "Print help (see a summary with '-h')"
      else
        "Print help (see more with '--help')"
  | .version => "Print version"

/- The choices that an option offers, each explained. -/
def offered : OptionName → List (Text × Text)
  | .missing =>
      [ ("skip",
          "Write nothing for the checkpoint (default)"),
        ("zero",
          "Write a `0 0 0` line so line N stays checkpoint N")
      ]
  | .format =>
      [ ("text", "Space-separated fields (default)"),
        ("csv", "Comma-separated fields") ]
  | _ => []

/- The names and the placeholder of an option. -/
def heading (o : OptionName) : Text :=
  (match o.short? with
    | some c => "  -" ++ [c] ++ ", "
    | none => "      ") ++ o.label

end OptionName

------------------------------------------------------------
-- Layout
------------------------------------------------------------

namespace Help

/- Put blanks behind a text up to a given width. -/
def padRight (width : Nat) (t : Text) : Text :=
  t ++ List.replicate (width - t.length) ' '

/- The greatest length of the texts. -/
def widest (texts : List Text) : Nat :=
  (texts.map List.length).foldl max 0

/- The explanation of the folder of the benchmarks. -/
def rootExplanation : Text :=
  "Directory containing one subdirectory per benchmark"

/- The lines before the lists. -/
def opening : List Text :=
  [ "Count inference-time pages whose footprint tag never " ++
    "appeared during profiling",
    "",
    "Usage: coldpage [OPTIONS] <ROOT>",
    "",
    "Arguments:" ]

/- The list of choices at the end of a line. -/
def inlineChoices (o : OptionName) : Text :=
  match o.offered with
  | [] => []
  | choices =>
      " [possible values: " ++
        Text.joinWith ", " (choices.map Prod.fst) ++ "]"

/- The line of an option. -/
def shortEntry (o : OptionName) : Text :=
  let width := widest (OptionName.all.map OptionName.heading)
  padRight width o.heading ++ "  " ++ o.explanation false ++
    inlineChoices o

def shortLines : List Text :=
  opening ++
    ["  <ROOT>  " ++ rootExplanation, "", "Options:"] ++
    OptionName.all.map shortEntry

/- The indentation of paragraphs. -/
def indented (t : Text) : Text :=
  List.replicate 10 ' ' ++ t

/- The lines that explain the choices of an option. -/
def choiceLines (o : OptionName) : List Text :=
  match o.offered with
  | [] => []
  | choices =>
      let width := widest (choices.map Prod.fst) + 1
      [[], indented "Possible values:"] ++
        choices.map fun (name, explanation) =>
          indented
            ("- " ++ padRight width (name ++ ":") ++ " " ++
              explanation)

/- The lines of an option. -/
def longEntry (o : OptionName) : List Text :=
  [o.heading, indented (o.explanation true)] ++ choiceLines o

/- Paragraphs with an empty line between neighbours. -/
def paragraphs : List (List Text) → List Text
  | [] => []
  | [p] => p
  | p :: q :: rest => p ++ [[]] ++ paragraphs (q :: rest)

def longLines : List Text :=
  let root : List Text :=
    ["  <ROOT>", indented rootExplanation, "", "Options:"]
  opening ++ root ++
    paragraphs (OptionName.all.map longEntry)

def text (long : Bool) : Text :=
  (if long then longLines else shortLines).flatMap
    (· ++ ['\n'])

/- The name and the version of the program. -/
def version : Text := "coldpage 0.1.0\n"

end Help

end PageHeat
