import Tickless.Platform.Board
import Tickless.PowerManager
import Tickless.Simulation.Recorder
import Tickless.Proofs.Acts
import Tickless.Proofs.Words
import Tickless.Proofs.ValidSettings
import Tickless.Proofs.BenchCommands
import Tickless.Proofs.Conversions
import Tickless.Proofs.Countdown
import Tickless.Proofs.Sampling
import Tickless.Proofs.LightSleep
import Tickless.Proofs.LightAccounting
import Tickless.Proofs.DeepSleep
import Tickless.Proofs.ManagerCalls
import Tickless.Proofs.DeepCycle
import Tickless.Proofs.HookTime
import Tickless.Proofs.Sessions
import Tickless.Proofs.BetweenCalls
import Tickless.Proofs.RequestBound
import Tickless.Proofs.BackToBack
import Tickless.Proofs.SharedGate
import Tickless.Proofs.IdleDecision
import Tickless.Proofs.EarlyWake
import Tickless.Proofs.LightExpiry
import Tickless.Proofs.Bookkeeping
import Tickless.Proofs.AccessOrder
import Tickless.Proofs.SideBySide
import Tickless.Proofs.TwinBenches
import Tickless.Proofs.TwinSleeps
import Tickless.Proofs.TwinManagers
import Tickless.Proofs.TwinSamples
import Tickless.Proofs.CounterOffset
import Tickless.Proofs.LightBounds
import Tickless.Proofs.AbandonedCalls
import Tickless.Proofs.HaltedCalls
import Tickless.Proofs.StepBounds
import Tickless.Proofs.DeepHalts
import Tickless.Proofs.PhaseHandOver
import Tickless.Proofs.AlarmLead
import Tickless.Proofs.DeepThreshold
import Tickless.Proofs.SingleClocks
import Tickless.Proofs.CutTime
import Tickless.Proofs.PreArmLatency
import Tickless.Proofs.StuckSamples
import Tickless.Proofs.CallSamples
import Tickless.Proofs.PollPolicies
import Tickless.Proofs.GateMisuse
import Tickless.Proofs.SplitTime
import Tickless.Proofs.RoundTrips
