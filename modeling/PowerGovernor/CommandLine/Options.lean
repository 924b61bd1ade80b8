import PowerGovernor.Governor.Basic

/-! The options of the command line. -/

namespace PowerGovernor.CommandLine

/-- The options that take a value. -/
inductive Parameter where
  | entryThreshold
  | exitThreshold
  | entryInterval
  | exitInterval
  | entryDwell
  | exitDwell
  | workload
  | state
  | ticks
deriving DecidableEq

/-- The options that take no value. -/
inductive Switch where
  | noMonitor
  | pollOnHint
  | dryRun
  | verbose
  | dumpLog
  | probe
  | check
  | help
deriving DecidableEq

/-- All options that take a value. -/
def Parameter.all : List Parameter :=
  [.entryThreshold, .exitThreshold, .entryInterval, .exitInterval, .entryDwell, .exitDwell,
    .workload, .state, .ticks]

/-- All options that take no value. -/
def Switch.all : List Switch :=
  [.noMonitor, .pollOnHint, .dryRun, .verbose, .dumpLog, .probe, .check, .help]

/-- The name of an option, without its dashes. -/
def Parameter.name : Parameter → String
  | .entryThreshold => "entry-threshold"
  | .exitThreshold => "exit-threshold"
  | .entryInterval => "entry-interval-ms"
  | .exitInterval => "exit-interval-ms"
  | .entryDwell => "entry-hyst-ms"
  | .exitDwell => "exit-hyst-ms"
  | .workload => "wlt"
  | .state => "state"
  | .ticks => "ticks"

/-- What stands for the value of an option. -/
def Parameter.placeholder : Parameter → String
  | .entryThreshold => "ENTRY_THRESHOLD"
  | .exitThreshold => "EXIT_THRESHOLD"
  | .entryInterval => "ENTRY_INTERVAL_MS"
  | .exitInterval => "EXIT_INTERVAL_MS"
  | .entryDwell => "ENTRY_HYST_MS"
  | .exitDwell => "EXIT_HYST_MS"
  | .workload => "WLT"
  | .state => "STATES"
  | .ticks => "TICKS"

/-- The name of an option, without its dashes. -/
def Switch.name : Switch → String
  | .noMonitor => "no-util-monitor"
  | .pollOnHint => "wlt-hint-poll"
  | .dryRun => "dry-run"
  | .verbose => "verbose"
  | .dumpLog => "dump-log"
  | .probe => "probe"
  | .check => "check"
  | .help => "help"

/-- An option and its value, as they are shown. -/
def Parameter.usage (parameter : Parameter) : String :=
  "--" ++ parameter.name ++ " <" ++ parameter.placeholder ++ ">"

/-- An option as it is shown. -/
def Switch.usage (switch : Switch) : String :=
  "--" ++ switch.name

/-- Only states may be given more than once. -/
def Parameter.repeatable (parameter : Parameter) : Bool :=
  parameter == .state

/-- What the command line asks for. -/
structure Options where
  /-- Low-power mode is entered at or below this percentage. -/
  entryThreshold : UInt32 := 10
  /-- Low-power mode is left above this percentage. -/
  exitThreshold : UInt32 := 95
  /-- Fixed poll interval outside low-power mode. -/
  entryInterval : UInt32 := 0
  /-- Fixed poll interval in low-power mode. -/
  exitInterval : UInt32 := 0
  /-- Dwell threshold for entering low-power mode. -/
  entryDwell : UInt64 := 0
  /-- Dwell threshold for leaving low-power mode. -/
  exitDwell : UInt64 := 0
  /-- The workload hint of every poll. -/
  workload : Option UInt32 := none
  /-- The policy states in order of priority. -/
  states : List Policy.Spec := []
  /-- The number of polls after which to stop. -/
  ticks : Option UInt64 := none
  /-- The switches that are on. -/
  switches : List Switch := []

/-- Whether a switch is on. -/
def Options.has (options : Options) (switch : Switch) : Bool :=
  options.switches.contains switch

/-- The governor's settings. -/
def Options.settings (options : Options) : Settings where
  monitor := !options.has .noMonitor
  pollOnHint := options.has .pollOnHint
  entryThreshold := .ofPercent options.entryThreshold.toNat
  exitThreshold := .ofPercent options.exitThreshold.toNat
  entryInterval := options.entryInterval
  exitInterval := options.exitInterval
  entryDwell := options.entryDwell.toNat
  exitDwell := options.exitDwell.toNat

/-- The default that the help shows for an option. -/
def Parameter.defaultText : Parameter → String
  | .entryThreshold => "[default: 10]"
  | .exitThreshold => "[default: 95]"
  | .entryInterval | .exitInterval | .entryDwell | .exitDwell => "[default: 0]"
  | .workload | .state | .ticks => ""

/-- One line of the help on options. -/
def helpLine (short usage about : String) : String :=
  "  " ++ pad .left 4 short ++ pad .left 39 usage ++ "  " ++ about

/-- The order in which the help lists the options: the switches stand around the last
parameters. -/
def optionHelp : List String :=
  let parameter (parameter : Parameter) := helpLine "" parameter.usage parameter.defaultText
  let switch (switch : Switch) := helpLine "" switch.usage ""
  [.entryThreshold, .exitThreshold, .entryInterval, .exitInterval, .entryDwell,
      .exitDwell].map parameter ++
    [.noMonitor, .pollOnHint].map switch ++ [.workload, .state, .ticks].map parameter ++
    [.dryRun, .verbose, .dumpLog, .probe, .check].map switch ++
    [helpLine "-h, " Switch.help.usage "Print help"]

/-- The help on the command line. -/
def helpText : List String :=
  ["POWERTIDE -- UTILIZATION-DRIVEN POWER-MODE DAEMON", "", "Usage: powertide [OPTIONS]", "",
    "Options:"] ++ optionHelp

end PowerGovernor.CommandLine
