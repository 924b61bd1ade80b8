import PowerGovernor.Note
import PowerGovernor.Rounding
import PowerGovernor.Text.Numeral

/-! Bursts of load spikes: how many there were lately, and how long they are remembered. -/

namespace PowerGovernor.Burst

/-- Tracked spike time stays at or below this limit. -/
def maxSpikeTime : Nat := 1000

/-- The count of bursts stays at or below this limit. -/
def maxCount : Nat := 1000

/-- A rate from here on is high. -/
def rateThreshold : Nat := 3

/-- What the classifier of workloads says about the present. -/
structure Signals where
  /-- It wants to step down to a state of lower performance. -/
  shouldDemote : Bool := false
  /-- The present mode counts bursts. -/
  countsBursts : Bool := false
deriving DecidableEq

/-- The recent history of spikes. -/
structure Tracker where
  /-- The tracked spike time. -/
  spikeTime : Nat
  /-- The bursts counted since the last reset. -/
  count : Nat
  /-- The bursts per minute. -/
  perMinute : Nat
  /-- How long one minute of history lasts. -/
  window : Rat
  /-- Whether a burst is going on. -/
  inBurst : Bool
  /-- Whether the burst that is going on has been registered. -/
  registered : Bool
  /-- The sum of the spike rates seen in the burst. -/
  rateSum : UInt32
  /-- The number of spike rates seen in the burst. -/
  rateCount : UInt32
  /-- When the window of history began, in seconds. -/
  anchor : Option Nat
  /-- The confirmations still missing. -/
  strikes : Nat
deriving DecidableEq

/-- Which of the two words that a burst adds up its spike rates in has no room for one more rate. -/
inductive Overflow where
  | rateSum
  | rateCount
deriving DecidableEq

/-- The wording of an overflow. -/
def Overflow.message : Overflow → String
  | .rateSum | .rateCount => "attempt to add with overflow"

/-- How much a spike rate shortens a window: by half at rate zero, by nothing at rate hundred. -/
def bias (rate : Nat) (window : Rat) : Rat :=
  roundSingle (roundSingle (((100 - min rate 100 : Nat) : Rat) * window) / 200)

namespace Tracker

/-- A tracker that has seen nothing. -/
def new : Tracker where
  spikeTime := 0
  count := 0
  perMinute := 0
  window := 90
  inBurst := false
  registered := false
  rateSum := 0
  rateCount := 0
  anchor := none
  strikes := 0

/-- The tracked spike time as a percentage of its limit. -/
def spikeRate (tracker : Tracker) : Nat :=
  min (tracker.spikeTime * 100 / maxSpikeTime) 100

/-- The mean of the spike rates seen in the burst. -/
def meanRate (tracker : Tracker) : Nat :=
  if tracker.rateCount = 0 then 0 else (tracker.rateSum / tracker.rateCount).toNat

/-- The time since the anchor, in windows of history. -/
def elapsedWindows (tracker : Tracker) (anchor now : Nat) : Rat :=
  roundSingle (roundSingle ((now - anchor : Nat) : Rat) / tracker.window)

/-- The bursts per minute for a count of bursts over a number of windows. -/
def rateOver (count : Nat) (windows : Rat) : Nat :=
  if windows < 1 then count
  else (roundSingle ((count : Rat) / windows)).floor.toNat

/-- Registers a burst, or with none only lets the history age. -/
def register (tracker : Tracker) (now : Nat) (real : Bool) (signals : Signals) : Tracker :=
  match tracker.anchor with
  | none => { tracker with anchor := some now }
  | some anchor =>
    let windows := tracker.elapsedWindows anchor now
    let tracker :=
      if real && signals.countsBursts then
        { tracker with count := min (tracker.count + 1) maxCount, anchor := some now }
      else if 1 < windows || maxCount ≤ tracker.count then
        { tracker with count := 0, anchor := some now }
      else tracker
    { tracker with perMinute := rateOver tracker.count windows }

/-- Adds the present spike rate to those seen in the burst, where a word that has no room for it
begins anew at zero. This is what additions without checks do. -/
def recordRate (tracker : Tracker) : Tracker :=
  { tracker with
    rateSum := tracker.rateSum + tracker.spikeRate.toUInt32
    rateCount := tracker.rateCount + 1 }

/-- Adds the present spike rate to those seen in the burst, where a word that has no room for it
stops the program. This is what additions with checks do. -/
def recordRate? (tracker : Tracker) : Except Overflow Tracker :=
  -- The sum is the first of the two words to be added to.
  if maxWord32 < tracker.rateSum.toNat + tracker.spikeRate then .error .rateSum
  else if maxWord32 < tracker.rateCount.toNat + 1 then .error .rateCount
  else .ok tracker.recordRate

/-- Whether a spike has the burst that is going on registered, which the first demotion does. -/
def registersOnSpike (tracker : Tracker) (signals : Signals) : Bool :=
  tracker.inBurst && signals.shouldDemote && !tracker.registered

/-- A spike of some duration begins a burst or belongs to the one that is going on; its rate is not
known to the burst yet. -/
def noticeSpike (tracker : Tracker) (now duration : Nat) (signals : Signals) : Tracker :=
  let heated := { tracker with spikeTime := min (tracker.spikeTime + duration) maxSpikeTime }
  if tracker.registersOnSpike signals then
    { heated.register now true signals with registered := true }
  else { heated with inBurst := true }

/-- A spike of some duration, where additions are not checked. -/
def addSpike (tracker : Tracker) (now duration : Nat) (signals : Signals) : Tracker :=
  (tracker.noticeSpike now duration signals).recordRate

/-- A spike of some duration, where additions are checked. -/
def addSpike? (tracker : Tracker) (now duration : Nat) (signals : Signals) :
    Except Overflow Tracker :=
  (tracker.noticeSpike now duration signals).recordRate?

/-- The tracker after the spike time has cooled down for some duration. -/
def cool (tracker : Tracker) (duration : Nat) : Tracker :=
  { tracker with spikeTime := tracker.spikeTime - duration }

/-- Whether a quiet time ends the burst that is going on. -/
def endsBurst (tracker : Tracker) (duration : Nat) : Bool :=
  tracker.inBurst && (tracker.cool duration).spikeRate == 0

/-- The end of a burst: it is registered unless it has been, and its strength sets the window. -/
def endBurst (tracker : Tracker) (now : Nat) (signals : Signals) : Tracker × List Note :=
  let rate := tracker.meanRate
  let tracker := { tracker with inBurst := false }
  let tracker := if tracker.registered then tracker else tracker.register now true signals
  -- The window is a whole number of minutes, so the difference needs no rounding.
  let window : Rat := 60 - ((bias rate tracker.window).floor : Rat)
  ({ tracker with window, rateSum := 0, rateCount := 0, registered := false },
    [.debug ("burst ended: avg spike rate " ++ toString rate ++ "%, reset window " ++
      fixedDecimals 0 window)])

/-- A quiet time of some duration, which may end a burst; otherwise the history only ages. -/
def addQuiet (tracker : Tracker) (now duration : Nat) (signals : Signals) :
    Tracker × List Note :=
  if tracker.endsBurst duration then (tracker.cool duration).endBurst now signals
  else ({ (tracker.cool duration).register now false signals with registered := false }, [])

/-- Whether a new rate deserves an answer at once. -/
def freshResponse (tracker : Tracker) (initialRate : Nat) : Bool :=
  initialRate != 0 && (rateThreshold ≤ initialRate || initialRate < tracker.perMinute)

/-- Whether the rate of bursts is high. -/
def breach (tracker : Tracker) : Bool :=
  rateThreshold ≤ tracker.perMinute

/-- Counts confirmations down to zero, and begins anew from a given number at zero. -/
def strike (tracker : Tracker) (limit : Nat) : Tracker :=
  { tracker with strikes := if tracker.strikes = 0 then limit else tracker.strikes - 1 }

end Tracker

end PowerGovernor.Burst
