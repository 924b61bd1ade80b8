import PowerGovernor.CommandLine.Check
import PowerGovernor.CommandLine.Reader

/-! The program: reads the command line, then runs the governor on the machine it stands on. -/

namespace PowerGovernor.Program

open CommandLine

/-- The files that the governor measures loads with. -/
def measuredPaths : List Path :=
  [statisticsPath, Graphics.namePath graphicsRoot, Graphics.residencyPath graphicsRoot "gt0",
    Graphics.residencyPath graphicsRoot "gt1"]

/-- The files that hold the settings of some CPUs. -/
def settingPaths (cpus : List Nat) : List Path :=
  hostPaths.itmt :: cpus.flatMap fun cpu => [hostPaths.epp cpu, hostPaths.epb cpu]

/-- A copy of the readable ones of some files. -/
def copyFiles (paths : List Path) : IO FileTree :=
  paths.foldlM (fun tree path => do
    try
      let bytes ← IO.FS.readBinFile path.text
      return tree.place [] path (.file bytes)
    catch _ => return tree) (FileTree.rooted [])

/-- Adds an empty file for each path that can be opened, without reading it. -/
def noteFiles (paths : List Path) (tree : FileTree) : IO FileTree :=
  paths.foldlM (fun tree path => do
    try
      let _ ← IO.FS.Handle.mk path.text .read
      return tree.place [] path (.file ByteArray.empty)
    catch _ => return tree) tree

/-- Writes the files that differ from their copy back to the machine. -/
def writeBack (paths : List Path) (before after : FileTree) : IO Unit :=
  paths.forM fun path =>
    match after.readBytes path, before.readBytes path with
    | .ok bytes, .ok old => unless bytes.toList = old.toList do write path bytes
    | .ok bytes, .error _ => write path bytes
    | .error _, _ => pure ()
where
  write (path : Path) (bytes : ByteArray) : IO Unit := do
    try IO.FS.writeBinFile path.text bytes
    catch error => IO.eprintln (Note.warn ("writing " ++ path.text ++ ": " ++ toString error)).line

/-- Reports messages from a severity on. -/
def report (options : Options) (notes : List Note) : IO Unit :=
  let threshold := if options.has .verbose then Severity.debug else .info
  (Note.atLeast threshold notes).forM fun note => IO.eprintln note.line

/-- Prints lines. -/
def printLines (lines : List String) : IO Unit := do
  lines.forM IO.println
  (← IO.getStdout).flush

/-- Prints a complaint; only a terminal gets its styles. -/
def complain (text : String) : IO Unit := do
  let styled ← (← IO.getStderr).isTty
  IO.eprint (if styled then text else plainText text)

/-- Polls until the session is over, waiting as recommended. -/
partial def pollOn (paths : List Path) (polls : Nat) (session : Session) : IO Session := do
  let files ← copyFiles (measuredPaths ++ paths)
  let now ← IO.monoNanosNow
  let (session, tick) :=
    { session with host := { session.host with files } }.poll (now / 1000000) now
  report session.options tick.notes
  writeBack paths files session.host.files
  if session.isDone (polls + 1) then return session
  IO.sleep (tick.interval.getD Policy.defaultInterval)
  pollOn paths (polls + 1) session

/-- Runs the governor. -/
def govern (options : Options) (host : Host) : IO Unit := do
  let session := Session.start options host
  report options (Policy.Table.notesOfSpecs options.states)
  printLines session.opening
  let session ← pollOn (settingPaths host.online.toList) 0 session
  printLines session.closing

/-- Prints the loads once per second. -/
partial def watch (host : Host) (meters : Meters) : IO Unit := do
  let files ← copyFiles measuredPaths
  let now ← IO.monoMsNow
  let (meters, row, _) := meters.read now { host with files }
  printLines [row]
  IO.sleep 1000
  watch host meters

/-- Reports on the sources and controls of the machine. -/
def check : IO UInt32 := do
  let files ← copyFiles (hostPaths.online :: measuredPaths)
  let files ← noteFiles
    (kernelConfigurationPath :: hostPaths.registersOf 0 :: settingPaths [0]) files
  let (usable, lines) := checkReport files
  printLines lines
  return if usable then 0 else 1

/-- Does what the options ask for. -/
def run (options : Options) : IO UInt32 := do
  if options.has .check then check
  else
    let files ← copyFiles [hostPaths.online]
    match Host.take hostPaths files (options.has .dryRun || options.has .probe) with
    | .error error =>
      IO.eprintln ("Error: " ++ error.fault.message)
      return 1
    | .ok host =>
      if options.has .probe then
        printLines [probeHeading]
        watch host (.start host)
      else govern options host
      return 0

end PowerGovernor.Program

/-- Reads the arguments and does what they ask for. -/
def main (arguments : List String) : IO UInt32 := do
  match PowerGovernor.CommandLine.read arguments with
  | .error error =>
    PowerGovernor.Program.complain error.report
    return 2
  | .ok .help =>
    PowerGovernor.Program.printLines PowerGovernor.CommandLine.helpText
    return 0
  | .ok (.run options) => PowerGovernor.Program.run options
