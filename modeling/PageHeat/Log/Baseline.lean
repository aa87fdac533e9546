import PageHeat.Log.Source

/-
  Baselines: the footprint tags of a profiling run.

  Every well-formed line adds its tag to a set; a malformed
  line is skipped and counted. Each tag is kept once.

  Key definitions include:
    * `Baseline`
    * `Baseline.ofTags`
    * `Baseline.ofStream`
    * `Baseline.ofSource`
    * `Baseline.Knows`
-/

------------------------------------------------------------
-- Baselines
------------------------------------------------------------

namespace PageHeat

/- The tags that were seen, and the lines that were not. -/
structure Baseline where
  tags : List Text := []
  malformed : Nat := 0
  deriving Repr, DecidableEq

namespace Baseline

/- The number of different tags. -/
def size (b : Baseline) : Nat :=
  b.tags.length

/- A tag that was seen during profiling. -/
def Knows (b : Baseline) (tag : Text) : Prop :=
  tag ∈ b.tags

instance (b : Baseline) (tag : Text) :
    Decidable (b.Knows tag) :=
  inferInstanceAs (Decidable (_ ∈ _))

/- Add a tag, unless it is there. -/
def learn (b : Baseline) (tag : Text) : Baseline :=
  { b with tags := b.tags.insert tag }

/- The baseline of a list of tags, taken as they are. -/
def ofTags (tags : List Text) : Baseline :=
  tags.foldl learn { }

------------------------------------------------------------
-- Reading
------------------------------------------------------------

/- Read a delivered line as a baseline line. -/
def readEntry
    (line : Except LineFault Text) :
    Except LineFault (Option BaselineEntry) :=
  line.bind readBaselineLine

/- Take the next line into account. -/
def absorb
    (b : Baseline)
    (line : Except LineFault Text) : Baseline :=
  match readEntry line with
  | .ok (some entry) => b.learn entry.tag
  | .ok none => b
  | .error _ => { b with malformed := b.malformed + 1 }

/- The baseline of a stream that ends normally. -/
def ofStream (s : Stream) : Except DeviceFault Baseline :=
  match s.failure with
  | some fault => .error fault
  | none => .ok (s.lines.foldl absorb { })

/- The baseline of a source, read line by line. -/
def ofSource (s : Source) : Except DeviceFault Baseline :=
  s.foldLines absorb { }

end Baseline

end PageHeat
