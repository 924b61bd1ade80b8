import PowerGovernor.Clock
import PowerGovernor.Main
import PowerGovernor.Proofs.Policy.Steadiness
import PowerGovernor.Proofs.Graphics.Recorded
import PowerGovernor.Proofs.Burst.Registration
import PowerGovernor.Proofs.Dwell.Lockout
import PowerGovernor.Proofs.Governor.MinimumDwell
import PowerGovernor.Proofs.Load.Refinement
import PowerGovernor.Proofs.Governor.Rehearsal
import PowerGovernor.Proofs.Governor.Refusal
import PowerGovernor.Proofs.Governor.Interval
import PowerGovernor.Proofs.Policy.Pruning
import PowerGovernor.Proofs.Governor.Pruning
import PowerGovernor.Proofs.Policy.Grammar
import PowerGovernor.Proofs.Policy.Description
import PowerGovernor.Proofs.CpuSet.Language
import PowerGovernor.Proofs.CpuSet.RoundTrip
import PowerGovernor.Proofs.Policy.ActiveCpus
import PowerGovernor.Proofs.Governor.ActiveCpus
import PowerGovernor.Proofs.History.Summary
import PowerGovernor.Proofs.History.Window
import PowerGovernor.Proofs.Burst.Breach
import PowerGovernor.Proofs.Graphics.Latch
import PowerGovernor.Proofs.Governor.Integrity
import PowerGovernor.Proofs.Governor.Uptime
import PowerGovernor.Proofs.Governor.Hint
import PowerGovernor.Proofs.Burst.LoneSpike
import PowerGovernor.Proofs.Policy.Margin
import PowerGovernor.Proofs.Graphics.Estimate
import PowerGovernor.Proofs.Burst.Minutes
import PowerGovernor.Proofs.History.Dump
import PowerGovernor.Proofs.Platform.Settings
import PowerGovernor.Proofs.History.Consistency
import PowerGovernor.Proofs.Policy.Ramp
import PowerGovernor.Proofs.Load.Direction
import PowerGovernor.Proofs.Burst.Confirmation
import PowerGovernor.Proofs.Burst.MeanRate
import PowerGovernor.Proofs.Graphics.Naming
