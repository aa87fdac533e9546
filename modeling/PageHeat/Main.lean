import PageHeat.Program

/-
  The command line.

  The program is a function of the disk. What it can look
  at is copied from the real disk first, and what it has
  changed is written back in the end. A link is copied with
  the path that it finally leads to, and a link that leads
  nowhere is left out. Names are taken for texts here.

  Key definitions include:
    * `CommandLine.copyPath`
    * `CommandLine.copyFor`
    * `CommandLine.writeBack`
    * `main`
-/

------------------------------------------------------------
-- Locations On The Real Disk
------------------------------------------------------------

namespace PageHeat

namespace CommandLine

/- The name of an entry as the system is asked for it. -/
def nameOf (n : Name) : String :=
  Text.toString (Path.shown n)

def pathOf (l : Location) : String :=
  "/" ++ String.intercalate "/" (l.reverse.map nameOf)

/- The location that a path without links leads to. -/
def locationOf (p : String) : Location :=
  (Path.names (Utf8.encode p.toList)).reverse

/- The fault that an error of the system stands for. -/
def faultOf : IO.Error → DeviceFault
  | .alreadyExists _ code _
  | .otherError code _
  | .resourceBusy code _
  | .resourceVanished code _
  | .unsupportedOperation code _
  | .hardwareFault code _
  | .unsatisfiedConstraints code _
  | .illegalOperation code _
  | .protocolError code _
  | .timeExpired code _
  | .interrupted _ code _
  | .noFileOrDirectory _ code _
  | .invalidArgument _ code _
  | .permissionDenied _ code _
  | .resourceExhausted _ code _
  | .inappropriateType _ code _
  | .noSuchThing _ code _ => .numbered (.ofNat code.toNat)
  | .unexpectedEof => .described "unexpected end of file"
  | .userError sentence => .described sentence

------------------------------------------------------------
-- Copying
------------------------------------------------------------

/- The content of a real file. -/
def contentOf (place : IO.FS.DirEntry) : IO Stream := do
  try
    let content ← IO.FS.readBinFile place.path
    return Stream.ofBytes content.toList
  catch e =>
    return Stream.failing (faultOf e)

/- What stands under a name in a real folder. -/
def entryUnder
    (folder : Location)
    (name : Name) : IO (Option Entry) := do
  let place : IO.FS.DirEntry :=
    { root := pathOf folder, fileName := nameOf name }
  try
    match (← place.path.symlinkMetadata).type with
    | .dir => return some .folder
    | .symlink =>
        let target ← IO.FS.realPath place.path
        return some
          (.link (Utf8.encode target.toString.toList))
    | .file => return some (.file (← contentOf place))
    | .other =>
        match place.path.toString with
        | "/dev/null" => return some .nullDevice
        | "/dev/full" => return some .fullDevice
        | _ => return some (.file (← contentOf place))
  catch _ =>
    return none

/- Copy what stands on the way along some names. -/
partial def copyAlong
    (d : Disk)
    (l : Location) :
    List Name → IO Disk
  | [] => return d
  | name :: rest => do
      if name = Path.here then
        copyAlong d l rest
      else if name = Path.outward then
        copyAlong d l.tail rest
      else
        let found ←
          match d.entry? (name :: l) with
          | some e => pure (some e)
          | none => entryUnder l name
        match found with
        | none => return d
        | some e =>
            let d := d.put (name :: l) e
            match e with
            | .folder => copyAlong d (name :: l) rest
            | .link target => copyAlong d [] (target.steps ++ rest)
            | _ => return d

/- Copy what stands on the way along a path. -/
def copyPath (d : Disk) (p : Path) : IO Disk :=
  copyAlong d (Disk.origin p d.here) p.steps

/- Copy what stands on the way along each of some paths. -/
def copyPaths (d : Disk) (paths : List Path) : IO Disk :=
  paths.foldlM copyPath d

/- The names in a real folder. -/
def namesIn (l : Location) : IO (List Name) := do
  let place : IO.FS.DirEntry :=
    { root := pathOf l, fileName := "" }
  try
    let found ← place.root.readDir
    return found.toList.map fun e =>
      Utf8.encode e.fileName.toList
  catch _ =>
    return []

def copyRoot (d : Disk) (root : Path) : IO Disk := do
  let d ← copyPath d root
  match d.locate? root with
  | none => return d
  | some l => copyPaths d ((← namesIn l).map root.join)

/- The files that a benchmark is examined with. -/
def filesOf (s : Settings) (b : Benchmark) : List Path :=
  s.outputPath b.name :: s.baselinePath b.dir ::
    s.indices.map (s.checkpointPath b.dir)

/- Copy what a run with some settings looks at. -/
def copyForRun
    (root : Path)
    (s : Settings)
    (d : Disk) : IO Disk := do
  match s.validate, selectionOf Pattern.engine s with
  | .ok (), .ok selection =>
      let d ← copyPath (← copyRoot d root) s.outputDir
      match
        discover Pattern.engine selection root
          (some s.outputDir) d with
      | .ok (benchmarks, _) =>
          copyPaths d (benchmarks.flatMap (filesOf s))
      | .error _ => return d
  | _, _ => return d

/- Copy what an invocation looks at. -/
def copyFor (i : Invocation) (d : Disk) : IO Disk := do
  let d ←
    copyPaths d
      ((i.choices.config.toList ++
        i.choices.reportJson.toList).map Utf8.encode)
  match Program.baseSettings d i.choices.config with
  | .ok base =>
      copyForRun (Utf8.encode i.root) (i.choices.applyTo base) d
  | .error _ => return d

------------------------------------------------------------
-- Writing Back
------------------------------------------------------------

/- Write what has changed to the real disk. -/
def writeBack (before after : Disk) : IO Unit :=
  after.entries.forM fun (l, e) => do
    if before.entry? l ≠ some e then
      match e with
      | .folder => IO.FS.createDirAll (pathOf l)
      | .file content =>
          IO.FS.writeBinFile (pathOf l)
            (ByteArray.mk content.bytes.toArray)
      | _ => return ()

end CommandLine

end PageHeat

------------------------------------------------------------
-- The Program
------------------------------------------------------------

open PageHeat CommandLine in
/- Run the program on the real disk. -/
def main (arguments : List String) : IO UInt32 := do
  let arguments := arguments.map String.toList
  let directives := (← IO.getEnv "RUST_LOG").map String.toList
  let here := locationOf (← IO.currentDir).toString
  let blank : Disk := { here := here }
  let known ← copyAlong blank [] here.reverse
  let before ←
    match Invocation.read arguments with
    | .ok i => copyFor i known
    | .error _ => pure known
  let result := Program.start arguments directives before
  writeBack before result.disk
  IO.print (Text.toString result.output)
  IO.eprint (Text.toString result.messages)
  return result.code.toUInt32
