import Tickless.Platform.Command

/-!
# Light or deep

A sleep is deep if three things agree: the period is at least the threshold, nobody holds the gate,
and the application tolerates deep sleep. The application is asked last, and only if its answer
decides.
-/

namespace Tickless

variable {σ : Type} [Platform σ]

/-- Whether the application tolerates deep sleep, as far as that matters: an ineligible period is
not put to it. -/
def consents (eligible : Bool) : Act σ Bool :=
  if eligible then ask .deepSleepAllowed else return false

/-- Choose the depth for an idle period. -/
def chooseDepth (s : Settings) (ticks : UInt32) (held : Bool) : Act σ SleepMode := do
  let ms ← s.ticksToMs ticks
  let deep ← consents (ms ≥ s.minDeepSleepMs.toUInt64 && !held)
  let mode : SleepMode := if deep then .deep else .light
  log (.depthChosen ticks ms held mode)
  return mode

end Tickless
