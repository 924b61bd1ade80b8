import PowerGovernor.CpuSet.Reader
import PowerGovernor.Platform.Basic

/-! A machine that is controlled through its files. -/

namespace PowerGovernor

/-- Why the files of a machine could not be used. -/
inductive HostError where
  | reading (path : Path) (fault : FileFault)
  | parsing (path : Path) (error : CpuSet.ReadError)
  | opening (path : Path) (fault : FileFault)
  | writing (value : String) (path : Path) (fault : FileFault)
  | register (cpu : Nat) (address : UInt32) (fault : FileFault)
deriving DecidableEq

/-- A number in hexadecimal, behind its mark. -/
def hexText (number : Nat) : String :=
  "0x" ++ String.ofList (Nat.toDigits 16 number)

/-- What failed, and why. -/
def HostError.fault : HostError → Fault
  | .reading path fault => ⟨"reading " ++ path.text, [fault.message]⟩
  | .parsing path error => ⟨"parsing " ++ path.text, [error.message]⟩
  | .opening path fault => ⟨"opening " ++ path.text, [fault.message]⟩
  | .writing value path fault =>
    ⟨"writing " ++ value ++ " to " ++ path.text, [fault.message]⟩
  | .register cpu address fault =>
    ⟨"reading msr " ++ hexText address.toNat ++ " on cpu " ++ toString cpu, [fault.message]⟩

/-- Where the files of a machine are found. -/
structure HostPaths where
  /-- The directory of the CPUs. -/
  cpus : Path
  /-- The switch of turbo core scheduling. -/
  itmt : Path
  /-- The directory of the registers. -/
  registers : Path

/-- The list of CPUs that are online. -/
def HostPaths.online (paths : HostPaths) : Path :=
  paths.cpus ++ ["online"]

/-- The directory of one CPU. -/
def HostPaths.cpu (paths : HostPaths) (cpu : Nat) : Path :=
  paths.cpus ++ ["cpu" ++ toString cpu]

/-- The energy-performance preference of one CPU. -/
def HostPaths.epp (paths : HostPaths) (cpu : Nat) : Path :=
  paths.cpu cpu ++ ["cpufreq", "energy_performance_preference"]

/-- The energy-performance bias of one CPU. -/
def HostPaths.epb (paths : HostPaths) (cpu : Nat) : Path :=
  paths.cpu cpu ++ ["power", "energy_perf_bias"]

/-- The registers of one CPU. -/
def HostPaths.registersOf (paths : HostPaths) (cpu : Nat) : Path :=
  paths.registers ++ [toString cpu, "msr"]

/-- Reads the set of CPUs that are online. -/
def HostPaths.readOnline (paths : HostPaths) (files : FileTree) : Except HostError CpuSet :=
  match files.readText paths.online with
  | .error fault => .error (.reading paths.online fault)
  | .ok text =>
    match CpuSet.read text with
    | .error error => .error (.parsing paths.online error)
    | .ok cpus => .ok cpus

/-- The condition of a machine that is controlled through its files. -/
structure Host where
  /-- Where the files are found. -/
  paths : HostPaths
  /-- The files of the machine. -/
  files : FileTree
  /-- The CPUs that were online in the beginning. -/
  online : CpuSet
  /-- Whether writes are only reported. -/
  dryRun : Bool
  /-- The CPU the controller runs on. -/
  cpu : Nat
  /-- Whether low-power mode was entered last. -/
  lowPower : Bool
  /-- The CPUs that were last asked to stay active. -/
  activeCpus : Option CpuSet
  /-- The interrupt policy that was last asked for. -/
  irq : IrqPolicy

namespace Host

/-- Takes control of a machine, which has to list its CPUs. -/
def take (paths : HostPaths) (files : FileTree) (dryRun : Bool) : Except HostError Host :=
  match paths.readOnline files with
  | .error error => .error error
  | .ok online =>
    .ok { paths, files, online, dryRun, cpu := 0, lowPower := false, activeCpus := none,
          irq := .ignore }

/-- The CPU whose settings stand for those of all. -/
def firstCpu (host : Host) : Nat :=
  host.online.least?.getD 0

/-- Reads a number from a file, which blanks may surround. -/
def readNumber? (files : FileTree) (path : Path) : Option UInt32 :=
  match files.readText path with
  | .ok text => readWord32? (trim text.toList)
  | .error _ => none

/-- Reads the energy-performance preference from a file. -/
def readEpp (files : FileTree) (path : Path) : Epp :=
  match files.readText path with
  | .ok text =>
    let text := trim text.toList
    match readWord32? text with
    | some value => .raw value
    | none => .named (String.ofList text)
  | .error _ => .unknown

/-- The settings in the files of the first CPU. -/
def posture (host : Host) : Posture where
  epp := readEpp host.files (host.paths.epp host.firstCpu)
  epb := readNumber? host.files (host.paths.epb host.firstCpu)
  itmt := readNumber? host.files host.paths.itmt

/-- Writes a value to one file, or reports that it would have been written. -/
def write (host : Host) (path : Path) (value : String) : Response × Host :=
  if host.dryRun then
    ({ notes := [.info ("DRY RUN: " ++ path.text ++ " <- " ++ value)] }, host)
  else
    match host.files.writeText path value with
    | .ok files => ({}, { host with files })
    | .error fault => ({ fault := some (HostError.writing value path fault).fault }, host)

/-- Writes a value to files in turn, up to the first that fails. -/
def writeAll (value : String) : List Path → Host → Response × Host
  | [], host => ({}, host)
  | path :: rest, host =>
    let (response, host) := host.write path value
    match response.fault with
    | some _ => (response, host)
    | none =>
      let (more, host) := writeAll value rest host
      ({ more with notes := response.notes ++ more.notes }, host)

/-- What is reported about the CPUs that are to stay active. -/
def activationNotes (host : Host) (cpus : Option CpuSet) (irq : IrqPolicy) : List Note :=
  match cpus with
  | none => [.info ("ACTIVE CPUS: ALL (irq " ++ irq.label ++ ")")]
  | some cpus =>
    let stray := cpus.toList.filter fun cpu => !host.online.contains cpu
    let warnings := if stray.isEmpty then [] else
      [Note.warn ("ACTIVE CPUS " ++ cpus.text ++ " INCLUDE OFFLINE CPUS [" ++
        ", ".intercalate (stray.map toString) ++ "]")]
    warnings ++ [.info ("ACTIVE CPUS: " ++ cpus.text ++ " (irq " ++ irq.label ++ ")")]

/-- What is reported about a change of mode; staying in a mode is none. -/
def modeNotes (host : Host) (lowPower : Bool) : List Note :=
  if lowPower == host.lowPower then []
  else [.info (if lowPower then "LPM ENTER" else "LPM EXIT")]

/-- Carries out a command. -/
def perform (command : Command) (host : Host) : Response × Host :=
  match command with
  | .setEpp value => writeAll (toString value) (host.online.toList.map host.paths.epp) host
  | .setEpb value => writeAll (toString value) (host.online.toList.map host.paths.epb) host
  | .setItmt value => host.write host.paths.itmt (toString value)
  | .setActiveCpus cpus irq =>
    ({ notes := host.activationNotes cpus irq }, { host with activeCpus := cpus, irq })
  | .changeMode change =>
    let lowPower := change == .enter
    ({ notes := host.modeNotes lowPower }, { host with lowPower })

/-- The number in eight bytes, the lowest one first. -/
def wordOfBytes (bytes : List UInt8) : UInt64 :=
  bytes.foldr (fun byte word => word * 256 + byte.toUInt64) 0

/-- Reads a register from the eight bytes at its address. -/
def readRegister? (host : Host) (cpu : Nat) (address : UInt32) : Except HostError UInt64 :=
  let path := host.paths.registersOf cpu
  if !host.files.canOpen path then .error (.opening path (host.files.absence path))
  else
    match host.files.readBytes path with
    | .error fault => .error (.register cpu address fault)
    | .ok bytes =>
      let word := (bytes.toList.drop address.toNat).take 8
      if word.length = 8 then .ok (wordOfBytes word)
      else .error (.register cpu address .tooShort)

/-- The machine as a platform. -/
def platform : Platform Host where
  files := Host.files
  currentCpu := Host.cpu
  readRegister := fun cpu address host =>
    match host.readRegister? cpu address with
    | .ok value => (.ok value, host)
    | .error error => (.error error.fault, host)
  inLowPower := Host.lowPower
  posture := Host.posture
  perform := perform

end Host

end PowerGovernor
