import PowerGovernor.BasisPoints
import PowerGovernor.Files.Tree
import PowerGovernor.Note
import PowerGovernor.Text.Blank
import PowerGovernor.Text.Numeral

/-! Graphics load from the idle residency counters of the render and the media engine. -/

namespace PowerGovernor.Graphics

/-- The residency counter of an engine below the root of the tile. -/
def residencyPath (root : Path) (engine : String) : Path :=
  root ++ [engine, "gtidle", "idle_residency_ms"]

/-- The file that names the first engine. -/
def namePath (root : Path) : Path :=
  root ++ ["gt0", "gtidle", "name"]

/-- The residency counters that can be opened. -/
structure EnginePaths where
  /-- The counter of the render engine. -/
  render : Option Path
  /-- The counter of the media engine. -/
  media : Option Path
deriving DecidableEq

/-- Which engine comes first, read from its name. -/
def renderFirst? (name : String) : Option Bool :=
  if "gt0-rc".toList.isPrefixOf name.toList then some true
  else if "gt0-mc".toList.isPrefixOf name.toList then some false
  else none

/-- A path inside a message. -/
def describePath (path : Option Path) : String :=
  describeOption (path.map fun path => "\"" ++ path.text ++ "\"")

/-- Finds the counters of both engines; without a known first engine there are none. -/
def discover (root : Path) (files : FileTree) : Option EnginePaths × List Note :=
  let first := residencyPath root "gt0"
  let second := residencyPath root "gt1"
  if !files.canOpen first then (none, [])
  else
    match files.readText (namePath root) with
    | .error _ => (none, [])
    | .ok name =>
      match renderFirst? name with
      | none =>
        (none,
          [.debug ("unknown gtidle naming '" ++ String.ofList (trim name.toList) ++ "'")])
      | some inOrder =>
        let (render, media) := if inOrder then (first, second) else (second, first)
        let paths : EnginePaths :=
          { render := if files.canOpen render then some render else none
            media := if files.canOpen media then some media else none }
        (some paths,
          [.debug ("gfx rc6: " ++ describePath paths.render ++ ", sam mc6: " ++
            describePath paths.media)])

/-- The residency counter of one engine. -/
structure ResidencyCounter where
  /-- Where the counter is found. -/
  path : Option Path
  /-- The last value read, in milliseconds. -/
  last : Option Nat
deriving DecidableEq

namespace ResidencyCounter

/-- The present value of the counter. -/
def read? (counter : ResidencyCounter) (files : FileTree) : Option Nat :=
  match counter.path with
  | none => none
  | some path =>
    match files.readText path with
    | .ok text => (readUnsigned maxWord64 (trim text.toList)).toOption
    | .error _ => none

/-- A counter with its present value as the baseline. -/
def start (path : Option Path) (files : FileTree) : ResidencyCounter :=
  let counter : ResidencyCounter := { path, last := none }
  { counter with last := counter.read? files }

/-- The load of the engine over a time, if the counter can be read and has a baseline. -/
def update (counter : ResidencyCounter) (files : FileTree) (elapsed : Nat) (label : String) :
    ResidencyCounter × Reading × List Note :=
  match counter.read? files with
  | none => (counter, none, [])
  | some value =>
    let load := counter.last.map fun last => BasisPoints.complementOfRatio (value - last) elapsed
    let notes := match load with
      | some load => [Note.debug (label ++ " utilization: " ++ load.text)]
      | none => []
    ({ counter with last := some value }, load, notes)

end ResidencyCounter

/-- Both engines, measured over one and the same time. -/
structure ResidencyTier where
  /-- The render engine. -/
  render : ResidencyCounter
  /-- The media engine. -/
  media : ResidencyCounter
  /-- When the engines were last measured. -/
  measured : Nat
deriving DecidableEq

namespace ResidencyTier

/-- Both engines with their baselines. -/
def start (paths : EnginePaths) (files : FileTree) (now : Nat) : ResidencyTier :=
  { render := .start paths.render files
    media := .start paths.media files
    measured := now }

/-- The load of the busier engine since the last measurement; no time is no measurement. -/
def sample (tier : ResidencyTier) (files : FileTree) (now : Nat) :
    ResidencyTier × Reading × List Note :=
  let elapsed := now - tier.measured
  if elapsed = 0 then (tier, none, [])
  else
    let (render, renderLoad, renderNotes) := tier.render.update files elapsed "GFX"
    let (media, mediaLoad, mediaNotes) := tier.media.update files elapsed "SAM"
    ({ render, media, measured := now }, renderLoad.larger mediaLoad, renderNotes ++ mediaNotes)

end ResidencyTier

end PowerGovernor.Graphics
