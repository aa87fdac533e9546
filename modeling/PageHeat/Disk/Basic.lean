import PageHeat.Disk.Path
import PageHeat.Log.Stream

/-
  The disk: folders, files and links by their locations.

  A location lists the names from an entry up to the top of
  the disk, which is always a folder. A path is walked name
  by name from the top or from the current folder; a link
  on the way is replaced by the path it holds, a limited
  number of times. A file can have further names, and a
  walk to one of them ends at the first.

  A file takes what is written to it as far as there is
  room. The room can be limited at any location, so that a
  full disk or a limit on the size of files is a matter of
  the locations that are written to.

  Key definitions include:
    * `Location`
    * `Entry`
    * `Limit`
    * `Disk`
    * `Disk.entry?`
    * `Disk.put`
    * `Disk.Spot`
    * `Disk.AtLink`
    * `Disk.walk`
    * `Disk.resolveTo`
    * `Disk.resolve`
-/

------------------------------------------------------------
-- Entries
------------------------------------------------------------

namespace PageHeat

/- The names from an entry outward; the top has none. -/
abbrev Location := List Name

/-
  What stands at a location. A twin is another name of the
  file whose content stands at its first location. The last
  two kinds are devices without content: one takes
  everything that is written to it, and the other takes
  nothing.
-/
inductive Entry where
  | file (content : Stream)
  | folder
  | link (target : Path)
  | twin (first : Location)
  | nullDevice
  | fullDevice
  deriving Repr, DecidableEq

/- How much a file may hold, and the fault of writing more. -/
structure Limit where
  room : Nat
  fault : DeviceFault
  deriving Repr, DecidableEq

/-
  The entries of a disk, the current folder, and the limits
  on the files at some locations.
-/
structure Disk where
  entries : List (Location × Entry) := []
  here : Location := []
  limits : List (Location × Limit) := []
  deriving Repr, DecidableEq

namespace Disk

/- The entry at a location. -/
def entry? (d : Disk) : Location → Option Entry
  | [] => some .folder
  | name :: around => d.entries.lookup (name :: around)

/- Give a location an entry in a list of entries. -/
def setEntry
    (l : Location)
    (e : Entry) :
    List (Location × Entry) → List (Location × Entry)
  | [] => [(l, e)]
  | (m, f) :: rest =>
      if m = l then
        (l, e) :: rest
      else
        (m, f) :: setEntry l e rest

/- Give a location an entry. -/
def put (d : Disk) (l : Location) (e : Entry) : Disk :=
  { d with entries := setEntry l e d.entries }

/- The names of the entries of a folder. -/
def children (d : Disk) (l : Location) : List Name :=
  d.entries.filterMap fun (m, _) =>
    match m with
    | [] => none
    | name :: around => if around = l then some name else none

------------------------------------------------------------
-- Walking
------------------------------------------------------------

/-
  Where a path leads: to an entry, or to a name that is
  free in an existing folder.
-/
inductive Spot where
  | present (l : Location) (e : Entry)
  | vacant (folder : Location) (name : Name)
  deriving Repr, DecidableEq

/- The bytes that a name may have. -/
def nameLimit : Nat := 255

/- The bytes that a path may have. -/
def pathLimit : Nat := 4095

/- The links that may stand on the way of a path. -/
def linkLimit : Nat := 40

/- Where the walk along a path starts. -/
def origin (p : Path) (folder : Location) : Location :=
  if p.isAbsolute then [] else folder

/-
  What is wanted of a link at the end of a path: to go on
  with the path it holds, to stay at the link, or to go on
  to a file that can be created.
-/
inductive AtLink where
  | follow
  | stay
  | create
  deriving Repr, DecidableEq

/-
  Where a walk ends that comes to a further name of a file.
  Nothing stands below a file, and a name whose file is
  gone leads nowhere.
-/
def atTwin
    (d : Disk)
    (first : Location)
    (rest : List Name) : Except DeviceFault Spot :=
  match d.entry? first with
  | some (.file content) =>
      if rest = [] then
        .ok (.present first (.file content))
      else
        .error .notFolder
  | _ => .error .noSuchFile

/-
  Walk along names from a location. At a link, `follow` is
  asked to go on with the names of the path that the link
  holds. No file can be created at the end of a link whose
  path ends in a slash.
-/
def descend
    (d : Disk)
    (atLink : AtLink)
    (follow : Location → List Name → Except DeviceFault Spot)
    (l : Location) :
    List Name → Except DeviceFault Spot
  | [] =>
      match d.entry? l with
      | some e => .ok (.present l e)
      | none => .error .noSuchFile
  | name :: rest =>
      match d.entry? l with
      | none => .error .noSuchFile
      | some .folder =>
          if name = Path.here then
            d.descend atLink follow l rest
          else if name = Path.outward then
            d.descend atLink follow l.tail rest
          else if nameLimit < name.length then
            .error .nameTooLong
          else
            match d.entry? (name :: l) with
            | none =>
                if rest = [] then
                  .ok (.vacant l name)
                else
                  .error .noSuchFile
            | some (.link target) =>
                if rest = [] ∧ atLink = .stay then
                  .ok (.present (name :: l) (.link target))
                else if
                    rest = [] ∧ atLink = .create ∧
                      target.endsInSlash then
                  match
                    follow (origin target l)
                      target.stepsAround with
                  | .error fault => .error fault
                  | .ok _ => .error .isFolder
                else
                  follow (origin target l)
                    (target.steps ++ rest)
            | some (.twin first) =>
                if rest = [] ∧ atLink = .stay then
                  .ok (.present (name :: l) (.twin first))
                else
                  d.atTwin first rest
            | some _ =>
                d.descend atLink follow (name :: l) rest
      | some _ => .error .notFolder

/- Walk along names, over at most a number of links. -/
def walk
    (d : Disk)
    (atLink : AtLink) :
    Nat → Location → List Name → Except DeviceFault Spot
  | 0 =>
      d.descend atLink fun _ _ => .error .tooManyLinks
  | links + 1 => d.descend atLink (d.walk atLink links)

/- A path that can name anything at all. -/
def checkPath (p : Path) : Except DeviceFault Unit :=
  if 0 ∈ p then
    .error .nulInName
  else if p = [] then
    .error .noSuchFile
  else if pathLimit < p.length then
    .error .nameTooLong
  else
    .ok ()

/- Where a path leads. -/
def resolveTo
    (d : Disk)
    (atLink : AtLink)
    (p : Path) : Except DeviceFault Spot :=
  match checkPath p with
  | .error fault => .error fault
  | .ok () =>
      d.walk atLink linkLimit (origin p d.here) p.steps

/- Where a path leads, through every link. -/
def resolve (d : Disk) (p : Path) : Except DeviceFault Spot :=
  d.resolveTo .follow p

/-
  The location of an existing entry, free of links. The
  limits bound the path that is given and not the path of
  the location, and a further name of a file stands for the
  first; no folder has one.
-/
def locate? (d : Disk) (p : Path) : Option Location :=
  match d.resolve p with
  | .ok (.present l _) => some l
  | _ => none

/- A path that leads to a folder. -/
def IsFolder (d : Disk) (p : Path) : Prop :=
  match d.resolve p with
  | .ok (.present _ .folder) => True
  | _ => False

instance (d : Disk) (p : Path) : Decidable (d.IsFolder p) := by
  unfold IsFolder
  split <;> infer_instance

/-
  The folder around the last name of a path, walked to
  through every link.
-/
def folderAround
    (d : Disk)
    (p : Path) : Except DeviceFault Location :=
  match
    d.walk .follow linkLimit (origin p d.here)
      p.stepsAround with
  | .error fault => .error fault
  | .ok (.present l _) => .ok l
  | .ok (.vacant _ _) => .error .noSuchFile

end Disk

end PageHeat
