import PageHeat.Disk.Access
import PageHeat.Report.Json

/-
  Reports that are kept on the disk.

  Key definitions include:
    * `Summary.save`
-/

------------------------------------------------------------
-- Saving
------------------------------------------------------------

namespace PageHeat

/- Why a report was not kept. -/
inductive ReportFault where
  | notText
  | unwritable (path : Path) (cause : DeviceFault)
  deriving Repr, DecidableEq

/- The sentences from a fault down to its cause. -/
def ReportFault.chain : ReportFault → List Text
  | .notText =>
      [ "Failed to serialize run summary",
        "path contains invalid UTF-8 characters" ]
  | .unwritable path cause =>
      [ "Failed to write run report to: " ++ path.shown,
        cause.message ]

/-
  Write the document of a summary to a file. Nothing is
  written if a path of the summary is no text.
-/
def Summary.save
    (s : Summary)
    (d : Disk)
    (p : Path) : Disk × Option ReportFault :=
  if s.IsText then
    match d.writeFile p (Utf8.encode s.document) with
    | (d, none) => (d, none)
    | (d, some cause) => (d, some (.unwritable p cause))
  else
    (d, some .notText)

end PageHeat
