import PowerGovernor.CommandLine.Options
import PowerGovernor.Governor.Tick
import PowerGovernor.History.Report
import PowerGovernor.Platform.Host

/-! Running the governor on a machine and reporting on it. -/

namespace PowerGovernor.CommandLine

/-- Where a machine keeps its statistics table. -/
def statisticsPath : Path := ["", "proc", "stat"]

/-- Where a machine keeps its graphics engines. -/
def graphicsRoot : Path := ["", "sys", "class", "drm", "card0", "device", "tile0"]

/-- Where a machine keeps the files it is controlled through. -/
def hostPaths : HostPaths where
  cpus := ["", "sys", "devices", "system", "cpu"]
  itmt := ["", "proc", "sys", "kernel", "sched_itmt_enabled"]
  registers := ["", "dev", "cpu"]

/-- A running governor with its machine and its history. -/
structure Session where
  /-- The options of the command line. -/
  options : Options
  /-- The governor. -/
  governor : Governor
  /-- The machine. -/
  host : Host
  /-- The polls so far. -/
  history : History

/-- Room for every CPU that is online. -/
def cpuRoom (host : Host) : Nat :=
  match host.online.greatest? with
  | some cpu => cpu + 1
  | none => 1

namespace Session

/-- A session before its first poll. -/
def start (options : Options) (host : Host) : Session where
  options
  governor := .new options.settings (.ofSpecs options.states)
    (.new statisticsPath (cpuRoom host)) (.new graphicsRoot)
  host
  history := .empty

/-- What is printed before the first poll. -/
def opening (session : Session) : List String :=
  let settings := session.governor.settings
  let table := session.governor.selector.table
  let hint := match session.options.workload with
    | some workload =>
      ["WLT HINT:        " ++ toString workload ++ " (poll " ++ toString settings.pollOnHint ++
        ")"]
    | none => []
  ["POWERTIDE v0.3.2",
    "CPUS:            " ++ toString session.host.online.size ++ " online (" ++
      session.host.online.text ++ ")",
    "UTIL MONITOR:    " ++ toString settings.monitor,
    "THRESHOLDS:      entry " ++ settings.entryThreshold.text ++ "% / exit " ++
      settings.exitThreshold.text ++ "%",
    "HYSTERESIS:      entry " ++ toString settings.entryDwell ++ " ms / exit " ++
      toString settings.exitDwell ++ " ms",
    "POLICY STATES:   " ++ toString table.states.length ++ " (" ++ toString table.usableCount ++
      " valid, multi-state " ++ toString table.multiState ++ ")"] ++ hint ++
    ["DRY RUN:         " ++ toString (session.options.has .dryRun), "",
      "POWERTIDE IS ACTIVE (CTRL+C TO EXIT)"]

/-- One poll at a time in milliseconds and nanoseconds, and what is reported about it. -/
def poll (session : Session) (milliseconds nanoseconds : Nat) : Session × Tick Host :=
  let tick := session.governor.tick milliseconds session.options.workload Host.platform
    session.host
  let snapshot : Snapshot :=
    { time := nanoseconds
      system := tick.governor.sample.system
      cpu := tick.governor.sample.cpu
      gfx := tick.governor.sample.gfx
      interval := tick.interval
      mode := tick.governor.mode tick.world.lowPower }
  ({ session with
      governor := tick.governor
      host := tick.world
      history := session.history.record snapshot }, tick)

/-- Whether a number of polls is enough. -/
def isDone (session : Session) (polls : Nat) : Bool :=
  match session.options.ticks with
  | some ticks => ticks.toNat ≤ polls
  | none => false

/-- A number of polls on a machine that changes only by them, waiting as recommended. -/
def run : Nat → Nat → Session → Session
  | 0, _, session => session
  | polls + 1, now, session =>
    let (session, tick) := session.poll now (now * 1000000)
    run polls (now + (tick.interval.getD Policy.defaultInterval).toNat) session

/-- What is printed after the last poll. -/
def closing (session : Session) : List String :=
  let sample := session.governor.sample
  ["POWERTIDE IS SHUTTING DOWN",
    "LAST SAMPLE:     sys " ++ sample.system.text ++ " cpu " ++ sample.cpu.text ++ " gfx " ++
      sample.gfx.text] ++
    (if session.options.has .dumpLog then session.history.dump else []) ++
    session.history.summary ++ ["POWERTIDE OUT."]

/-- What a session of a limited number of polls prints; the first poll always takes place. -/
def transcript (session : Session) : List String :=
  match session.options.ticks with
  | some ticks => session.opening ++ (session.run (max 1 ticks.toNat) 0).closing
  | none => session.opening

end Session

/-- A row of the table that the probe prints. -/
def probeRow (system cpu gfx : String) : String :=
  pad .right 8 system ++ " " ++ pad .right 8 cpu ++ " " ++ pad .right 8 gfx

/-- The heading of the table that the probe prints. -/
def probeHeading : String := probeRow "SYS" "CPU" "GFX"

/-- The load meters that the probe reads. -/
structure Meters where
  /-- Measures CPU and system load. -/
  sampler : Sampler
  /-- Measures graphics load. -/
  probe : Graphics.Probe

/-- Load meters that have measured nothing. -/
def Meters.start (host : Host) : Meters :=
  { sampler := .new statisticsPath (cpuRoom host), probe := .new graphicsRoot }

/-- Reads all meters once, and gives the row to print. -/
def Meters.read (meters : Meters) (now : Nat) (host : Host) : Meters × String × List Note :=
  let (sampler, busy, notes) := meters.sampler.sample host.files
  let measurement := meters.probe.sample now Host.platform host
  ({ sampler, probe := measurement.probe },
    probeRow (Reading.text (busy.map Busy.system)) (Reading.text (busy.map Busy.cpu))
      measurement.load.text,
    notes ++ measurement.notes)

end PowerGovernor.CommandLine
