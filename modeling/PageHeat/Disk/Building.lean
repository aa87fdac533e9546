import PageHeat.Disk.Access

/-
  Building disks entry by entry.

  Key definitions include:
    * `Disk.withDevices`
    * `Disk.addFile`
    * `Disk.addLink`
    * `Disk.remove`
-/

------------------------------------------------------------
-- Building
------------------------------------------------------------

namespace PageHeat

namespace Disk

/-
  A disk with both devices and an empty current folder. No
  file has a second name, and none is limited.
-/
def withDevices (here : Name) : Disk :=
  { entries :=
      [ (["dev"], .folder),
        (["null", "dev"], .nullDevice),
        (["full", "dev"], .fullDevice),
        ([here], .folder) ]
    here := [here] }

/- Create the folders around the last name of a path. -/
def makeAround
    (d : Disk)
    (p : Path) : Disk × Option DeviceFault :=
  match p.around with
  | [] => (d, none)
  | folder :: _ => d.makeFolders folder

/- Write a file and create the folders around it. -/
def addFile
    (d : Disk)
    (p : Path)
    (bytes : Bytes) : Disk × Option DeviceFault :=
  match d.makeAround p with
  | (d, some fault) => (d, some fault)
  | (d, none) => d.writeFile p bytes

/- Create a link; a slash at its own end asks for a folder. -/
def addLink
    (d : Disk)
    (p target : Path) : Except DeviceFault Disk :=
  match checkPath target with
  | .error fault => .error fault
  | .ok () =>
      match d.placeAt p with
      | .error fault => .error fault
      | .ok l =>
          if p.endsInSlash then
            .error .noSuchFile
          else
            .ok (d.put l (.link target))

/- Remove an entry and everything below it. -/
def remove (d : Disk) (p : Path) : Except DeviceFault Disk :=
  match d.resolveTo .stay p with
  | .error fault => .error fault
  | .ok (.vacant _ _) => .error .noSuchFile
  | .ok (.present l _) =>
      .ok
        { d with
          entries :=
            d.entries.filter fun (m, _) => !l.isSuffixOf m }

end Disk

end PageHeat
