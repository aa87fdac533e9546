import PageHeat.Disk.Access
import PageHeat.Fault.Basic
import PageHeat.Settings.Document

/-
  Settings that are kept on the disk.

  Key definitions include:
    * `Settings.load`
-/

------------------------------------------------------------
-- Loading
------------------------------------------------------------

namespace PageHeat

def Disk.readText (d : Disk) (p : Path) : Except DeviceFault Text :=
  match d.read p with
  | .error fault => .error fault
  | .ok s =>
      match s.readAll with
      | .error fault => .error fault
      | .ok bytes =>
          match Utf8.decode bytes with
          | some t => .ok t
          | none => .error .notText

/- The settings of a file, if they are usable. -/
def Settings.load (d : Disk) (p : Path) : Except Fault Settings :=
  match d.readText p with
  | .error fault => .error (.unreadable p fault)
  | .ok t =>
      match Settings.ofDocument t with
      | .error fault =>
          .error (.badSettings (p.shown ++ ": " ++ fault.message))
      | .ok s =>
          match s.validate with
          | .error fault => .error (.badSettings fault.message)
          | .ok () => .ok s

end PageHeat
