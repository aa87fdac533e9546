import PageHeat.Text.Utf8

/-
  Paths as they are written.

  The names of a disk are octets, and so are the paths that
  they make; nothing asks them to be text. A path that was
  given as a text has the octets of its encoding, and what
  is no text is replaced where a path is shown.

  A path is kept as it was given. Joining puts a slash
  between two paths unless one stands there already, and an
  absolute path replaces what comes before it. Only the
  disk looks at the names in a path; empty names and names
  of one dot lead nowhere.

  Key definitions include:
    * `Path`
    * `Path.shown`
    * `Path.join`
    * `Path.isAbsolute`
    * `Path.names`
    * `Path.steps`
    * `Path.stepsAround`
    * `Path.around`
-/

------------------------------------------------------------
-- Paths
------------------------------------------------------------

namespace PageHeat

/- The octets that name a place on the disk. -/
abbrev Path := Bytes

/- A name of a file or a folder within its folder. -/
abbrev Name := Bytes

namespace Path

/- The text that is shown for a path. -/
def shown (p : Path) : Text :=
  Utf8.lossy p

/- A path with the octets of a text. -/
def IsText (p : Path) : Prop :=
  (Utf8.decode p).isSome

instance (p : Path) : Decidable p.IsText :=
  inferInstanceAs (Decidable (_ = _))

/- A text is the path of its octets. -/
instance : Coe Text Path :=
  ⟨Utf8.encode⟩

instance : CoeTail (List Text) (List Path) :=
  ⟨List.map Utf8.encode⟩

/- A path is shown where a text is asked for. -/
instance : CoeTail Path Text :=
  ⟨shown⟩

instance : CoeTail (List Path) (List Text) :=
  ⟨List.map shown⟩

/- The octet between the names of a path. -/
def slash : UInt8 := 0x2F

/- A path from the top of the disk. -/
def isAbsolute (p : Path) : Bool :=
  p.head? == some slash

def endsInSlash (p : Path) : Bool :=
  p.getLast? == some slash

/- The path of something inside a folder. -/
def join (folder inside : Path) : Path :=
  if isAbsolute inside then
    inside
  else if folder.isEmpty || endsInSlash folder then
    folder ++ inside
  else
    folder ++ [slash] ++ inside

------------------------------------------------------------
-- Names On A Path
------------------------------------------------------------

/- The name for the folder itself. -/
def here : Name := [0x2E]

/- The name for the folder around a folder. -/
def outward : Name := [0x2E, 0x2E]

/- The names between the slashes of a path. -/
def names (p : Path) : List Name :=
  (Text.splitOn slash p).filter (!·.isEmpty)

/-
  The names to walk along when something is looked up. A
  slash at the end asks for a folder, as a dot would.
-/
def steps (p : Path) : List Name :=
  if endsInSlash p then p.names ++ [here] else p.names

/- The names to walk along to the folder around a path. -/
def stepsAround (p : Path) : List Name :=
  p.names.dropLast ++ [here]

/-
  The names that matter for finding the folders around a
  path: a dot counts only in front of a relative path.
-/
def plainNames (p : Path) : List Name :=
  match p.names with
  | [] => []
  | first :: rest =>
      let rest := rest.filter (· != here)
      if first = here ∧ isAbsolute p then
        rest
      else
        first :: rest

/-
  The folders around a path from the nearest outward, as
  far as the path itself names them.
-/
def around (p : Path) : List Path :=
  let top : Path := if isAbsolute p then [slash] else []
  let outer := p.plainNames.dropLast
  (List.range outer.length).reverse.map
      (fun i =>
        top ++ Text.joinWith [slash] (outer.take (i + 1)))
    ++ (if isAbsolute p then [top] else [])

end Path

end PageHeat
