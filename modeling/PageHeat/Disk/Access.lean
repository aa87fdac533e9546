import PageHeat.Disk.Basic
import PageHeat.Tally.Sink

/-
  Reading and writing the disk by paths.

  A folder can be opened, but reading it fails. Creating a
  file empties the one that is there, or the one that a
  link leads to; a file that has no room for what is written
  keeps as much as fits. Only octets take room, and not the
  creating of an empty file or a folder. Folders are created
  with those around them; what was created stays, even if a
  later step fails. Nobody is refused: permissions are left
  out.

  Key definitions include:
    * `Disk.read`
    * `Disk.list`
    * `Disk.create`
    * `Disk.sinkAt`
    * `Disk.store`
    * `Disk.placeAt`
    * `Disk.makeFolder`
    * `Disk.makeFolders`
    * `Disk.writeFile`
-/

------------------------------------------------------------
-- Reading
------------------------------------------------------------

namespace PageHeat

namespace Disk

/- What a reader of a path is given. -/
def read (d : Disk) (p : Path) : Except DeviceFault Stream :=
  match d.resolve p with
  | .error fault => .error fault
  | .ok (.vacant _ _) => .error .noSuchFile
  | .ok (.present _ e) =>
      match e with
      | .file content => .ok content
      | .folder => .ok (Stream.failing .isFolder)
      | .link _ => .error .tooManyLinks
      | .twin _ => .error .noSuchFile
      | .nullDevice => .ok (Stream.ofBytes [])
      | .fullDevice => .ok (Stream.failing .endless)

/- The names in a folder. -/
def list (d : Disk) (p : Path) : Except DeviceFault (List Name) :=
  match d.resolve p with
  | .error fault => .error fault
  | .ok (.vacant _ _) => .error .noSuchFile
  | .ok (.present l .folder) => .ok (d.children l)
  | .ok (.present _ _) => .error .notFolder

------------------------------------------------------------
-- Writing
------------------------------------------------------------

/- A file without content. -/
def emptyFile : Entry := .file (Stream.ofBytes [])

/-
  Open a file for writing, empty it, or create it. The
  result is where to write.
-/
def create
    (d : Disk)
    (p : Path) : Except DeviceFault (Location × Disk) :=
  if p.endsInSlash then
    match checkPath p with
    | .error fault => .error fault
    | .ok () =>
        match d.folderAround p with
        | .error fault => .error fault
        | .ok _ => .error .isFolder
  else
    match d.resolveTo .create p with
    | .error fault => .error fault
    | .ok (.vacant folder name) =>
        .ok (name :: folder, d.put (name :: folder) emptyFile)
    | .ok (.present l e) =>
        match e with
        | .file _ => .ok (l, d.put l emptyFile)
        | .nullDevice => .ok (l, d)
        | .fullDevice => .ok (l, d)
        | .folder => .error .isFolder
        | .link _ => .error .tooManyLinks
        | .twin _ => .error .noSuchFile

/- What takes the bytes that are written to a location. -/
def sinkAt (d : Disk) (l : Location) : Sink :=
  match d.entry? l with
  | some .fullDevice => Sink.ofCapacity 0 .noSpace
  | some (.file _) =>
      match d.limits.lookup l with
      | some limit => Sink.ofCapacity limit.room limit.fault
      | none => Sink.unlimited
  | _ => Sink.unlimited

/- Keep what was written to a location. -/
def store (d : Disk) (l : Location) (sink : Sink) : Disk :=
  match d.entry? l with
  | some (.file _) =>
      d.put l (.file (Stream.ofBytes sink.received))
  | _ => d

/- Create a file with a given content. -/
def writeFile
    (d : Disk)
    (p : Path)
    (bytes : Bytes) : Disk × Option DeviceFault :=
  match d.create p with
  | .error fault => (d, some fault)
  | .ok (l, d) =>
      let (sink, fault) := (d.sinkAt l).write bytes
      (d.store l sink, fault)

------------------------------------------------------------
-- Creating Folders
------------------------------------------------------------

/-
  The free place at the end of a path in an existing folder
  where something else than a file can be created.
-/
def placeAt (d : Disk) (p : Path) : Except DeviceFault Location :=
  match checkPath p with
  | .error fault => .error fault
  | .ok () =>
      match p.names.getLast? with
      | none => .error .fileExists
      | some name =>
          match d.folderAround p with
          | .error fault => .error fault
          | .ok l =>
              if name = Path.here ∨ name = Path.outward then
                .error .fileExists
              else if nameLimit < name.length then
                .error .nameTooLong
              else
                match d.entry? (name :: l) with
                | some _ => .error .fileExists
                | none => .ok (name :: l)

/- Create one folder in an existing folder. -/
def makeFolder (d : Disk) (p : Path) : Except DeviceFault Disk :=
  (d.placeAt p).map fun l => d.put l .folder

/- A folder that could not be created may be there already. -/
def pardon
    (d : Disk)
    (p : Path)
    (fault : DeviceFault) : Disk × Option DeviceFault :=
  if d.IsFolder p then (d, none) else (d, some fault)

/-
  Create the first of some folders, each inside the next.
  Those around it are created only if one is missing.
-/
def makeNested
    (d : Disk) :
    List Path → Disk × Option DeviceFault
  | [] => (d, none)
  | p :: around =>
      match d.makeFolder p with
      | .ok d => (d, none)
      | .error .noSuchFile =>
          match d.makeNested around with
          | (d, some fault) => (d, some fault)
          | (d, none) =>
              match d.makeFolder p with
              | .ok d => (d, none)
              | .error fault => d.pardon p fault
      | .error fault => d.pardon p fault

/- Create a folder and those around it. -/
def makeFolders
    (d : Disk)
    (p : Path) : Disk × Option DeviceFault :=
  if p = [] then (d, none) else d.makeNested (p :: p.around)

end Disk

end PageHeat
