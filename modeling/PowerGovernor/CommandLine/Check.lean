import PowerGovernor.CommandLine.Session

/-! The report on which sources and controls a machine offers. -/

namespace PowerGovernor.CommandLine

/-- One finding, behind its name. -/
def finding (name verdict : String) : String :=
  "  " ++ pad .left 22 name ++ verdict

/-- Whether a statistics table lists all CPUs together and at least one of them alone. -/
def checkStatistics (files : FileTree) : Bool × String :=
  let name := statisticsPath.text
  match files.readText statisticsPath with
  | .error fault => (false, finding name ("UNREADABLE (" ++ fault.message ++ ")"))
  | .ok table =>
    let tags := (Sampler.statLines table).map StatLine.tag
    let single := tags.countP fun tag => tag != .aggregate
    if tags.contains .aggregate && 0 < single then
      (true, finding name ("OK (" ++ toString single ++ " cpu lines)"))
    else (false, finding name "NO CPU COUNTERS")

/-- The finding about the CPUs that are online. -/
def checkOnline (files : FileTree) : String :=
  match hostPaths.readOnline files with
  | .ok cpus => finding "online cpus" (cpus.text ++ " (" ++ toString cpus.size ++ " cpus)")
  | .error error => finding "online cpus" ("UNKNOWN (" ++ error.fault.message ++ ")")

/-- The findings about the graphics engines. -/
def checkGraphics (files : FileTree) : List String :=
  match (Graphics.discover graphicsRoot files).1 with
  | some paths =>
    let verdict (path : Option Path) := if path.isSome then "OK" else "MISSING"
    [finding "gtidle rc6" (verdict paths.render), finding "gtidle mc6" (verdict paths.media)]
  | none => [finding "gtidle" "NOT AVAILABLE (msr fallback)"]

/-- The finding about a file that has to be there. -/
def checkPath (files : FileTree) (name : String) (path : Path) : String :=
  finding name (if files.canOpen path then "OK" else "NOT AVAILABLE")

/-- Where a kernel keeps its configuration. -/
def kernelConfigurationPath : Path := ["", "proc", "config.gz"]

/-- The finding about a compressed kernel configuration, which is not looked into. -/
def checkKernel (files : FileTree) : String :=
  finding kernelConfigurationPath.text
    (if files.canOpen kernelConfigurationPath then "UNREADABLE (SKIPPED)"
      else "NOT FOUND (SKIPPED)")

/-- The whole report, and whether the loads can be measured at all. -/
def checkReport (files : FileTree) : Bool × List String :=
  let (usable, statistics) := checkStatistics files
  let registers := hostPaths.registersOf 0
  let kernel := if files.canOpen registers then [] else [checkKernel files]
  (usable,
    ["POWERTIDE DATA SOURCE CHECK", "", "UTILIZATION:", statistics, checkOnline files, "",
      "GRAPHICS:"] ++ checkGraphics files ++
      [checkPath files registers.text registers] ++ kernel ++
      ["", "CONTROLS:", checkPath files "epp" (hostPaths.epp 0),
        checkPath files "epb" (hostPaths.epb 0), checkPath files "itmt" hostPaths.itmt, "",
        if usable then "UTILIZATION SOURCE AVAILABLE" else "UTILIZATION SOURCE MISSING"])

end PowerGovernor.CommandLine
