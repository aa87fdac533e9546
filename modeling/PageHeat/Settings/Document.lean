import PageHeat.Settings.Basic
import PageHeat.Text.Quoted
import PageHeat.Toml.Reader

/-
  Settings from a TOML document.

  The keys of a document are the names of the settings. The
  first key that is unknown or has an unfit value decides
  the fault; settings that are not named stay as they are.

  Key definitions include:
    * `FieldFault`
    * `FieldFault.message`
    * `Settings.setField`
    * `Settings.ofEntries`
    * `DocumentFault`
    * `Settings.ofDocument`
-/

------------------------------------------------------------
-- Faults
------------------------------------------------------------

namespace PageHeat

/- Why an entry of a document is no setting. -/
inductive FieldFault where
  | unknownField (name : Text)
  | wrongKind (found expected : Text)
  | outOfRange (value : Int) (expected : Text)
  | unknownChoice (name : Text) (choices : List Text)
  | noChoice
  deriving Repr, DecidableEq

def Settings.fieldNames : List Text :=
  ["filter", "output_dir", "baseline", "checkpoints",
    "step_millions", "missing", "format", "jobs"]

/- A name between backquotes. -/
def backquoted (t : Text) : Text :=
  "`" ++ t ++ "`"

/- The sentence for an entry that is no setting. -/
def FieldFault.message : FieldFault → Text
  | .unknownField name =>
      "unknown field " ++ backquoted name ++
        ", expected one of " ++
        Text.joinWith ", " (Settings.fieldNames.map backquoted)
  | .wrongKind found expected =>
      "invalid type: " ++ found ++ ", expected " ++ expected
  | .outOfRange value expected =>
      "invalid value: integer " ++
        backquoted (Decimal.integerText value) ++
        ", expected " ++ expected
  | .unknownChoice name choices =>
      "unknown variant " ++ backquoted name ++ ", expected " ++
        Text.joinWith " or " (choices.map backquoted)
  | .noChoice => "wanted string or table"

/- Why a document gives no settings. -/
inductive DocumentFault where
  | malformed
  | badField (fault : FieldFault)
  deriving Repr, DecidableEq

/- The sentences for a document that gives no settings. -/
def DocumentFault.message : DocumentFault → Text
  | .malformed => "TOML parse error"
  | .badField fault =>
      "TOML parse error\n" ++ fault.message ++ "\n"

------------------------------------------------------------
-- Values
------------------------------------------------------------

/- How a value is named when another one is expected. -/
def Toml.Value.description : Toml.Value → Text
  | .string t => "string " ++ Quoted.text t
  | .integer n => "integer " ++ backquoted (Decimal.integerText n)
  | .floating x => "floating point " ++ backquoted x.text
  | .boolean b =>
      "boolean " ++ backquoted (if b then "true" else "false")
  | .moment => "map"
  | .list _ => "sequence"
  | .table _ _ => "map"
  | .tables _ => "sequence"

def Toml.Value.asText
    (expected : Text) : Toml.Value → Except FieldFault Text
  | .string t => .ok t
  | v => .error (.wrongKind v.description expected)

/- A natural number of at most a given size. -/
def Toml.Value.asNatural
    (expected : Text)
    (limit : Nat) : Toml.Value → Except FieldFault Nat
  | .integer n =>
      if 0 ≤ n ∧ n ≤ limit then
        .ok n.toNat
      else
        .error (.outOfRange n expected)
  | v => .error (.wrongKind v.description expected)

/- The choice of a name. -/
def choiceOf
    {α : Type}
    (choices : List (Text × α))
    (name : Text) : Except FieldFault α :=
  match choices.lookup name with
  | some choice => .ok choice
  | none =>
      .error (.unknownChoice name (choices.map Prod.fst))

/- A table without entries, or a list without items. -/
def Toml.Value.isHollow : Toml.Value → Bool
  | .table _ es => es.isEmpty
  | .list items => items.isEmpty
  | _ => false

/-
  One of some choices: its name, or a table with its name
  as the only key and nothing in its value.
-/
def Toml.Value.asChoice
    {α : Type}
    (choices : List (Text × α)) :
    Toml.Value → Except FieldFault α
  | .string name => choiceOf choices name
  | .table _ [(name, v)] =>
      match choiceOf choices name with
      | .error fault => .error fault
      | .ok choice =>
          if v.isHollow then .ok choice else .error .noChoice
  | _ => .error .noChoice

------------------------------------------------------------
-- Settings
------------------------------------------------------------

namespace Settings

/- Set what a key names. -/
def setField
    (s : Settings)
    (name : Text)
    (v : Toml.Value) : Except FieldFault Settings :=
  if name = "filter".toList then
    (v.asText "a string").map
      fun t => { s with filter := some t }
  else if name = "output_dir".toList then
    (v.asText "path string").map
      fun t => { s with outputDir := Utf8.encode t }
  else if name = "baseline".toList then
    (v.asText "a string").map fun t => { s with baseline := t }
  else if name = "checkpoints".toList then
    (v.asNatural "u32" (UInt32.size - 1)).map
      fun n => { s with checkpoints := UInt32.ofNat n }
  else if name = "step_millions".toList then
    (v.asNatural "u64" (UInt64.size - 1)).map
      fun n => { s with stepMillions := UInt64.ofNat n }
  else if name = "missing".toList then
    (v.asChoice MissingPolicy.names).map
      fun policy => { s with missing := policy }
  else if name = "format".toList then
    (v.asChoice LineFormat.names).map
      fun format => { s with format := format }
  else if name = "jobs".toList then
    (v.asNatural "usize" (UInt64.size - 1)).map
      fun n => { s with jobs := some (UInt64.ofNat n) }
  else
    .error (.unknownField name)

/- The settings of the entries of a document, in order. -/
def ofEntries
    (es : Toml.Entries) : Except FieldFault Settings :=
  es.foldlM (fun s (name, v) => s.setField name v) { }

/- The settings of a document. -/
def ofDocument (t : Text) : Except DocumentFault Settings :=
  match Toml.readDocument t with
  | none => .error .malformed
  | some es =>
      match ofEntries es with
      | .ok s => .ok s
      | .error fault => .error (.badField fault)

end Settings

end PageHeat
